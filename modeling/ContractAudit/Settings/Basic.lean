import ContractAudit.Json.Reader
import ContractAudit.Score.Weights
import ContractAudit.Settings.Value
import ContractAudit.Text.Case

/-!
# Settings

What the service is set up with. Values come from the environment, whose names may be in any letter
case, and from the caller, whose values win. Every field that is wrong is reported, in the order of
the fields; names that the caller gives and nobody knows come last.
-/

namespace ContractAudit

/-- The settings of the service. -/
structure Settings where
  appEnv : Text
  appDebug : Bool
  logLevel : Text
  nodeUrl : Text
  explorerUrl : Text
  explorerKey : Option Text
  /-- In seconds. -/
  requestTimeout : Float
  /-- In seconds, not zero. -/
  cacheTtl : Nat
  /-- Not zero. -/
  cacheEntries : Nat
  /-- The most that one category can cost. -/
  scoreCap : Option Nat
  corsOrigins : List Text

/-- Why there are no settings. -/
inductive SettingsError where
  /-- A text in the environment that has to be JSON is none. -/
  | unreadable
  /-- Such a text is nested too deeply. -/
  | tooDeep
  /-- Values are wrong. -/
  | invalid (problems : List Problem)
  deriving DecidableEq, Repr

namespace Settings

/-- The name of each field, in order. -/
def fieldNames : List String :=
  ["app_env", "app_debug", "log_level", "rpc_url", "explorer_api_url", "explorer_api_key",
   "request_timeout_seconds", "cache_ttl_seconds", "cache_max_entries", "score_category_cap",
   "cors_origins"]

/-- The field whose text in the environment is JSON. -/
def listField : String := "cors_origins"

/-- The text that the environment has for a field; of several spellings the last one counts. -/
def environmentText? (env : List (Text × Text)) (field : String) : Option Text :=
  lookup? (Text.ofString field) ((env.map fun (k, v) => (k.lower, v)).reverse)

/-- The value that the environment has for a field; JSON may be nested up to `limit`. -/
def environmentValue (limit : Nat) (env : List (Text × Text)) (field : String) :
    Except SettingsError (Option Json) :=
  match environmentText? env field with
  | none => .ok none
  | some t =>
    if field == listField then
      match Json.readUnmarked limit t with
      | .ok v => .ok (some v)
      | .error .tooDeep => .error .tooDeep
      | .error _ => .error .unreadable
    else .ok (some (.str t))

/-- The values that are given for the fields, those of the caller first. -/
def givenValues (limit : Nat) (env : List (Text × Text)) (given : List (Text × Json)) :
    Except SettingsError (List (Text × Json)) := do
  let values ← fieldNames.mapM fun name => do
    return (← environmentValue limit env name).map fun v => (Text.ofString name, v)
  return given ++ values.filterMap id

/-- The field of some values, or what stands for it if it is not given. -/
def field {α : Type} (values : List (Text × Json)) (name : String) (default : α)
    (read : Json → Except Defect α) : Except (List Problem) α :=
  match lookup? (Text.ofString name) values with
  | none => .ok default
  | some v => (read v).mapError fun d => [⟨[.member (Text.ofString name)], d⟩]

/-- The problems of a field. -/
def problemsOf {α : Type} : Except (List Problem) α → List Problem
  | .ok _ => []
  | .error ps => ps

/-- What is said about a number that has to be positive. -/
def positiveReason (name : String) : String :=
  name ++ " must be greater than zero"

/-- A whole number above zero. -/
def readPositive (name : String) (v : Json) : Except Defect Nat :=
  (SettingValue.checked SettingValue.readInt (fun n => 0 < n) (positiveReason name) v).map Int.toNat

/-- The usual origins of requests from browsers. -/
def defaultOrigins : List Text := [Text.ofString "http://localhost:3000"]

/-- The settings that some values stand for. -/
def ofValues (values : List (Text × Json)) : Except (List Problem) Settings :=
  let text (name default : String) :=
    field values name (Text.ofString default) SettingValue.readText
  let appEnv := text "app_env" "development"
  let appDebug := field values "app_debug" false SettingValue.readBool
  let logLevel := text "log_level" "INFO"
  let nodeUrl := text "rpc_url" "https://rpc.sepolia-api.lisk.com"
  let explorerUrl := text "explorer_api_url" "https://sepolia-blockscout.lisk.com/api"
  let explorerKey :=
    field values "explorer_api_key" none (SettingValue.readOptional SettingValue.readText)
  let requestTimeout :=
    field values "request_timeout_seconds" 10.0
      (SettingValue.checked SettingValue.readFloat (fun x => !(x ≤ 0.0))
        (positiveReason "request_timeout_seconds"))
  let cacheTtl := field values "cache_ttl_seconds" 3600 (readPositive "cache_ttl_seconds")
  let cacheEntries := field values "cache_max_entries" 1024 (readPositive "cache_max_entries")
  let scoreCap :=
    field values "score_category_cap" (some (Weights.defaultCap : Int))
      (SettingValue.checked (SettingValue.readOptional SettingValue.readInt)
        (fun n => (n.map fun c => decide (0 ≤ c)).getD true)
        "score_category_cap must be non-negative")
  let corsOrigins : Except (List Problem) (List Text) :=
    match lookup? (Text.ofString listField) values with
    | none => .ok defaultOrigins
    | some v => SettingValue.readTexts [.member (Text.ofString listField)] v
  let extra := (values.filter fun (k, _) => !(fieldNames.map Text.ofString).contains k).map
    fun (k, _) => Problem.mk [.member k] .extra
  let problems := problemsOf appEnv ++ problemsOf appDebug ++ problemsOf logLevel
    ++ problemsOf nodeUrl ++ problemsOf explorerUrl ++ problemsOf explorerKey
    ++ problemsOf requestTimeout ++ problemsOf cacheTtl ++ problemsOf cacheEntries
    ++ problemsOf scoreCap ++ problemsOf corsOrigins ++ extra
  if problems.isEmpty then do
    return {
      appEnv := ← appEnv
      appDebug := ← appDebug
      logLevel := (← logLevel).upper
      nodeUrl := ← nodeUrl
      explorerUrl := ← explorerUrl
      explorerKey := ← explorerKey
      requestTimeout := ← requestTimeout
      cacheTtl := ← cacheTtl
      cacheEntries := ← cacheEntries
      scoreCap := (← scoreCap).map Int.toNat
      corsOrigins := ← corsOrigins }
  else .error problems

/-- The settings from the environment and the values of the caller. -/
def make (limit : Nat) (env : List (Text × Text)) (given : List (Text × Json)) :
    Except SettingsError Settings :=
  match givenValues limit env given with
  | .error e => .error e
  | .ok values =>
    match ofValues values with
    | .error ps => .error (.invalid ps)
    | .ok s => .ok s

/-- Whether the service runs for the public. -/
def isProduction (s : Settings) : Bool :=
  s.appEnv == Text.ofString "production"

/-- The weights that the settings ask for. -/
def weights (s : Settings) : Weights :=
  ⟨Weights.defaultSeverity, Weights.defaultCategory, s.scoreCap⟩

/-- The settings as a value to show. -/
def toJson (s : Settings) : Json :=
  Json.ofFields
    [("app_env", .str s.appEnv), ("app_debug", .bool s.appDebug), ("log_level", .str s.logLevel),
     ("rpc_url", .str s.nodeUrl), ("explorer_api_url", .str s.explorerUrl),
     ("explorer_api_key", match s.explorerKey with
       | some k => .str k
       | none => .null),
     ("request_timeout_seconds", .ofString (Decimal.render Decimal.shown s.requestTimeout)),
     ("cache_ttl_seconds", .int s.cacheTtl), ("cache_max_entries", .int s.cacheEntries),
     ("score_category_cap", match s.scoreCap with
       | some c => .int c
       | none => .null),
     ("cors_origins", .array (s.corsOrigins.map .str))]

end Settings

end ContractAudit
