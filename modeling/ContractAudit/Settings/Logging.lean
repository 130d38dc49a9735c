import ContractAudit.Log
import ContractAudit.Settings.Basic
import ContractAudit.Text.Quoted

/-!
# Logging setup

How much is logged: everything in development, otherwise from the level of the settings on. Two
levels have two names each.
-/

namespace ContractAudit

/-- How the loggers are set up. -/
structure LogSetup where
  /-- The level from which the service logs. -/
  level : String
  /-- The level from which requests to other services are logged. -/
  requestLevel : String
  /-- How many places the log is written to. -/
  handlers : Nat
  /-- How a record is written. -/
  format : String

/-- A level that has no meaning. -/
structure UnknownLevel where
  name : Text
  deriving DecidableEq, Repr

/-- The error in words. -/
def UnknownLevel.message (e : UnknownLevel) : Text :=
  Text.ofString "Unknown level: " ++ e.name.quoted

/-- The names of levels with the level that they stand for. -/
def levelNames : List (String × String) :=
  [("CRITICAL", "CRITICAL"), ("FATAL", "CRITICAL"), ("ERROR", "ERROR"), ("WARN", "WARNING"),
   ("WARNING", "WARNING"), ("INFO", "INFO"), ("DEBUG", "DEBUG"), ("NOTSET", "NOTSET")]

/-- How a record is written. -/
def recordFormat : String := "%(asctime)s %(levelname)s %(name)s: %(message)s"

/-- The name of the level at which the settings ask to log. -/
def Settings.askedLevel (s : Settings) : Text :=
  if s.appEnv == Text.ofString "development" then "DEBUG" else s.logLevel

/-- The logging setup that the settings ask for. -/
def logSetup (s : Settings) : Except UnknownLevel LogSetup :=
  match (s.askedLevel.toString?).bind fun name => lookup? name levelNames with
  | some level => .ok ⟨level, "WARNING", 1, recordFormat⟩
  | none => .error ⟨s.askedLevel⟩

end ContractAudit
