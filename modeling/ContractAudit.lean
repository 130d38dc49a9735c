import ContractAudit.Address
import ContractAudit.Analysis
import ContractAudit.Api.Basic
import ContractAudit.Api.Body
import ContractAudit.Api.Cors
import ContractAudit.Api.Message
import ContractAudit.Api.Route
import ContractAudit.Api.Target
import ContractAudit.Ast.Basic
import ContractAudit.Ast.Build
import ContractAudit.Ast.Serialize
import ContractAudit.Ast.Walk
import ContractAudit.Ast.Wrapper
import ContractAudit.Audit.Basic
import ContractAudit.Audit.Session
import ContractAudit.Cache.Basic
import ContractAudit.Cache.Results
import ContractAudit.Clock
import ContractAudit.Decimal.Shortest
import ContractAudit.Detector.AccessControl
import ContractAudit.Detector.Basic
import ContractAudit.Detector.Gas
import ContractAudit.Detector.Logic
import ContractAudit.Detector.Pipeline
import ContractAudit.Detector.Probe
import ContractAudit.Detector.Reentrancy
import ContractAudit.Issue
import ContractAudit.Json.Basic
import ContractAudit.Json.Display
import ContractAudit.Json.Reader
import ContractAudit.Json.Sendable
import ContractAudit.Json.Writer
import ContractAudit.Log
import ContractAudit.Lookup.Bytecode
import ContractAudit.Lookup.Explorer
import ContractAudit.Lookup.Query
import ContractAudit.Lookup.Reply
import ContractAudit.Proofs.AddressForms
import ContractAudit.Proofs.AuditPaths
import ContractAudit.Proofs.Building
import ContractAudit.Proofs.CacheEntries
import ContractAudit.Proofs.Comments
import ContractAudit.Proofs.Counterparts
import ContractAudit.Proofs.FailedAudits
import ContractAudit.Proofs.Formatting
import ContractAudit.Proofs.Isolation
import ContractAudit.Proofs.LookupFailures
import ContractAudit.Proofs.LowerCase
import ContractAudit.Proofs.Outcomes
import ContractAudit.Proofs.Refetching
import ContractAudit.Proofs.Responses
import ContractAudit.Proofs.ServiceRuns
import ContractAudit.Proofs.Staleness
import ContractAudit.Proofs.Transparency
import ContractAudit.Proofs.Traversal
import ContractAudit.Report
import ContractAudit.Request
import ContractAudit.Score.Basic
import ContractAudit.Score.Weights
import ContractAudit.Settings.Basic
import ContractAudit.Settings.Logging
import ContractAudit.Settings.Value
import ContractAudit.Solidity.Assembly
import ContractAudit.Solidity.Declaration
import ContractAudit.Solidity.Expression
import ContractAudit.Solidity.Reader
import ContractAudit.Solidity.Source
import ContractAudit.Solidity.Statement
import ContractAudit.Solidity.Token
import ContractAudit.Submission
import ContractAudit.Table
import ContractAudit.Text.Blank
import ContractAudit.Text.Case
import ContractAudit.Text.CaseTable
import ContractAudit.Text.CodePoint
import ContractAudit.Text.Encoding
import ContractAudit.Text.Percent
import ContractAudit.Text.Quoted
import ContractAudit.Text.Unprintable
import ContractAudit.Text.Utf8
import ContractAudit.Tree.Basic
import ContractAudit.Tree.FirstError
import ContractAudit.Validation
import ContractAudit.Proofs.Consistency
import ContractAudit.Proofs.Verdicts
import ContractAudit.Proofs.Faultless
import ContractAudit.Proofs.SourceOrder
import ContractAudit.Proofs.Comparisons
import ContractAudit.Proofs.Readability
import ContractAudit.Proofs.Operands
import ContractAudit.Proofs.Contracts
import ContractAudit.Proofs.Functions
import ContractAudit.Proofs.Loops
import ContractAudit.Proofs.ScoreLaws
import ContractAudit.Proofs.FirstErrors
import ContractAudit.Proofs.References
import ContractAudit.Proofs.JsonNumbers
import ContractAudit.Proofs.JsonTexts
import ContractAudit.Proofs.Submissions
import ContractAudit.Proofs.CacheRetention
import ContractAudit.Proofs.LookupTraffic
import ContractAudit.Proofs.FaultStages
import ContractAudit.Proofs.FaultRecords
import ContractAudit.Proofs.Dispatching
import ContractAudit.Proofs.Callees
import ContractAudit.Proofs.FieldLookups
import ContractAudit.Proofs.Queries
