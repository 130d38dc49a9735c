import ContractAudit.Analysis
import ContractAudit.Cache.Results
import ContractAudit.Lookup.Bytecode
import ContractAudit.Report

/-!
# Audits

An audit of an address gives the kept report, or else scores the kept analysis, or else fetches the
verified source and analyses it. An audit of a given source keeps nothing. Every audit leaves a trace
of what it asked other services and what it logged.
-/

namespace ContractAudit

/-- What audits are made with. -/
structure Auditor where
  endpoints : Endpoints
  weights : Weights
  detectors : List Detector
  /-- The typed tree of a source. -/
  parse : Text → Except ParseError Node

/-- When an audit is made. -/
structure Moment where
  /-- The time by which kept results grow old. -/
  clock : Rat
  /-- The time of day in milliseconds. -/
  timestamp : Int

/-- What is kept from one audit to the next. -/
structure AuditState where
  analyses : ResultCache Analysis
  reports : ResultCache Report
  /-- The number of the next issue. -/
  nextIssue : Nat

/-- What the other services would answer now. -/
structure NextReplies where
  explorer : Reply
  node : Reply

/-- Why an audit gave no report. -/
inductive AuditError where
  /-- There is no source to analyse. -/
  | lookup (error : LookupError)
  /-- The source could not be analysed. -/
  | unanalysed (message : Text)
  /-- The report would not have the form of a report. -/
  | invalidReport (problems : List Problem)
  /-- The tree of the source is not of the form that the analysis needs. -/
  | fault (fault : Fault)
  /-- The result could not be kept. -/
  | cache (error : CacheError)

/-- What an audit did: what it asked and what it logged, in order. -/
structure Trace where
  queries : List Query
  log : List LogRecord

/-- A trace of log records only. -/
def Trace.ofLog (log : List LogRecord) : Trace :=
  ⟨[], log⟩

/-- One trace after another. -/
def Trace.append (s t : Trace) : Trace :=
  ⟨s.queries ++ t.queries, s.log ++ t.log⟩

instance : Append Trace := ⟨Trace.append⟩

/-- An audit that was made. -/
structure Audited where
  outcome : Except AuditError Report
  state : AuditState
  trace : Trace

/-- The error of an explorer that gave no source, after the node was asked whether anything is
deployed at the address. Only the node's word that there is nothing changes the error. -/
def lookupFailure (address : Text) (explorerError : LookupError) (code : Except LookupError Json) :
    LookupError × List LogRecord :=
  match code with
  | .ok _ => (explorerError, [])
  | .error (.noContract _) => (nothingDeployed address, [])
  | .error (.failed m) =>
    (explorerError, [⟨.warning, .audit, Text.ofString "Bytecode lookup failed for " ++ address
      ++ Text.ofString ": " ++ m⟩])
  | .error e => (e, [])

/-- The source that is deployed at an address. -/
def deployedSource (e : Endpoints) (next : NextReplies) (address : Text) :
    Except LookupError ContractSource × Trace :=
  match verifiedSource e address next.explorer with
  | (.ok source, log) => (.ok source, ⟨(sourceQuery e address).sent, log⟩)
  | (.error err, log) =>
    if err.isSourceError then
      let (code, codeLog) := bytecode e address next.node
      let (final, finalLog) := lookupFailure address err code
      (.error final,
        ⟨(sourceQuery e address).sent ++ (codeQuery e address).sent, log ++ codeLog ++ finalLog⟩)
    else (.error err, ⟨(sourceQuery e address).sent, log⟩)

namespace Auditor

/-- The analysis of a source, with what is logged. -/
def analyse (a : Auditor) (m : Moment) (address source : Text) (firstId : Nat) :
    Except Fault (Analysis × List LogRecord) :=
  match verdictOf address (a.parse source) a.detectors with
  | .error f => .error f
  | .ok (v, log) => .ok (v.toAnalysis address m.timestamp firstId, log)

end Auditor

/-- The number of issues of an analysis. -/
def Analysis.issueCount (a : Analysis) : Nat :=
  match a.outcome with
  | .failed _ => 0
  | .completed _ issues => issues.length

/-- The analysis with the name that the explorer gives, if the source has none and the explorer has
one. -/
def Analysis.withExplorerName (name : Json) (a : Analysis) : Analysis :=
  match a.outcome with
  | .completed own issues =>
    if own.isString unknownContract && name.truthy then { a with outcome := .completed name issues }
    else a
  | .failed _ => a

namespace Auditor

/-- The analysis of the source that is deployed at an address. -/
def analyseDeployed (a : Auditor) (m : Moment) (next : NextReplies) (address : Text) (firstId : Nat) :
    Except AuditError Analysis × Trace :=
  match deployedSource a.endpoints next address with
  | (.error e, trace) => (.error (.lookup e), trace)
  | (.ok contract, trace) =>
    match a.analyse m address contract.source firstId with
    | .error f => (.error (.fault f), trace)
    | .ok (analysis, log) =>
      (.ok (analysis.withExplorerName contract.contractName), trace ++ Trace.ofLog log)

/-- What is logged about a score. -/
def reportRecord (s : Score) : LogRecord :=
  ⟨.info, .audit, Text.ofString "Audit report for " ++ s.address
    ++ Text.ofString (": score " ++ toString s.overall ++ ", " ++ toString s.issues.length
      ++ " issues")⟩

/-- The report on an analysis, with what is logged. -/
def report (a : Auditor) (m : Moment) (analysis : Analysis) :
    Except AuditError Report × List LogRecord :=
  match analysis.outcome with
  | .failed message => (.error (.unanalysed message), [])
  | .completed name issues =>
    let score := scoreOf a.weights analysis.address issues m.timestamp
    ((reportOf score name).mapError .invalidReport, scoreRecords score ++ [reportRecord score])

/-- Reports on an analysis and keeps the report. -/
def reportAndKeep (a : Auditor) (m : Moment) (address : Text) (s : AuditState)
    (analysis : Analysis) : Audited :=
  match a.report m analysis with
  | (.error e, log) => ⟨.error e, s, .ofLog log⟩
  | (.ok r, log) =>
    match s.reports.set m.clock address (some r) with
    | .error e => ⟨.error (.cache e), s, .ofLog log⟩
    | .ok (reports, record) => ⟨.ok r, { s with reports := reports }, .ofLog (log ++ [record])⟩

/-- Analyses what is deployed at an address, keeps the analysis and reports on it. -/
def fetchAndReport (a : Auditor) (m : Moment) (next : NextReplies) (address : Text) (s : AuditState) :
    Audited :=
  match a.analyseDeployed m next address s.nextIssue with
  | (.error e, trace) => ⟨.error e, s, trace⟩
  | (.ok analysis, trace) =>
    let s := { s with nextIssue := s.nextIssue + analysis.issueCount }
    match s.analyses.set m.clock address (some analysis) with
    | .error e => ⟨.error (.cache e), s, trace⟩
    | .ok (analyses, record) =>
      let done := a.reportAndKeep m address { s with analyses := analyses } analysis
      { done with trace := trace ++ Trace.ofLog [record] ++ done.trace }

/-- Audits what is deployed at an address when no report on it is kept. -/
def auditUnreported (a : Auditor) (m : Moment) (next : NextReplies) (address : Text) (s : AuditState) :
    Audited :=
  let (kept, analyses, record) := s.analyses.get m.clock address
  let s := { s with analyses := analyses }
  let done :=
    match kept with
    | some analysis => a.reportAndKeep m address s analysis
    | none => a.fetchAndReport m next address s
  { done with trace := Trace.ofLog [record] ++ done.trace }

/-- Audits what is deployed at an address. -/
def auditAddress (a : Auditor) (m : Moment) (next : NextReplies) (address : Text) (s : AuditState) :
    Audited :=
  let (kept, reports, record) := s.reports.get m.clock address
  let s := { s with reports := reports }
  match kept with
  | some r => ⟨.ok { r with cached := true }, s, .ofLog [record]⟩
  | none =>
    let done := a.auditUnreported m next address s
    { done with trace := Trace.ofLog [record] ++ done.trace }

/-- Audits a source that is said to be that of an address. Nothing is kept. -/
def auditSource (a : Auditor) (m : Moment) (source address : Text) (s : AuditState) : Audited :=
  match a.analyse m address source s.nextIssue with
  | .error f => ⟨.error (.fault f), s, .ofLog []⟩
  | .ok (analysis, log) =>
    let (outcome, reportLog) := a.report m analysis
    ⟨outcome, { s with nextIssue := s.nextIssue + analysis.issueCount }, .ofLog (log ++ reportLog)⟩

end Auditor

end ContractAudit
