import ContractAudit.Text.CodePoint

/-!
# Log records

What the service logs: a level, the channel that logs, and a message.
-/

namespace ContractAudit

/-- How important a record is. -/
inductive LogLevel where
  | debug
  | info
  | warning
  | error
  deriving DecidableEq, Repr

/-- The name of a level. -/
def LogLevel.name : LogLevel → String
  | .debug => "DEBUG"
  | .info => "INFO"
  | .warning => "WARNING"
  | .error => "ERROR"

/-- A part of the service that logs. -/
inductive Channel where
  | parser
  | pipeline
  | analyzer
  | scoring
  | cache
  | sources
  | audit
  | address
  | routes
  | application
  deriving DecidableEq, Repr

/-- The channel above all others. -/
def rootChannel : String := "defyshield"

/-- The name of a channel. -/
def Channel.name : Channel → String
  | .parser => rootChannel ++ ".parsers.solidity_parser"
  | .pipeline => rootChannel ++ ".analyzers.pipeline"
  | .analyzer => rootChannel ++ ".analyzers.static_analyzer"
  | .scoring => rootChannel ++ ".services.scoring_service"
  | .cache => rootChannel ++ ".services.cache_service"
  | .sources => rootChannel ++ ".services.contract_source_service"
  | .audit => rootChannel ++ ".services.audit_service"
  | .address => rootChannel ++ ".api.deps"
  | .routes => rootChannel ++ ".api.routes.audit"
  | .application => rootChannel ++ ".main"

/-- A record of the log. -/
structure LogRecord where
  level : LogLevel
  channel : Channel
  message : Text
  deriving DecidableEq, Repr

end ContractAudit
