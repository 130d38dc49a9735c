import ContractAudit.Api.Message
import ContractAudit.Json.Reader
import ContractAudit.Request
import ContractAudit.Text.Blank
import ContractAudit.Text.Case

/-!
# Request bodies

A body is read as JSON if its type says so, and as text otherwise. Every problem is reported with
its kind, its place, a sentence, and the value that has it.
-/

namespace ContractAudit

/-- Why a body gives no request. -/
inductive BodyProblem where
  /-- The body cannot be read at all. -/
  | unreadable
  /-- The body has problems; each is reported in this form. -/
  | invalid (reports : List Json)

/-- The main type and the subtype of a content type in lower case. -/
def contentTypeParts (t : Text) : Option (Text × Text) :=
  let front : Text := t.takeWhile fun p => !p.isChar ';'
  let essence := front.strip.lower
  match Target.segments essence with
  | [main, sub] => some (main, sub)
  | _ => none

/-- Whether a content type says that a body is JSON. -/
def isJsonType (contentType : Option Text) : Bool :=
  match contentType.bind contentTypeParts with
  | some (main, sub) =>
    main == Text.ofString "application" && (sub == Text.ofString "json" || sub.endsWith "+json")
  | none => false

/-- The numbers and patterns that a defect speaks of. -/
def Defect.context? : Defect → Option Json
  | .tooShort n => some (Json.ofFields [("min_length", .int n)])
  | .tooLong n => some (Json.ofFields [("max_length", .int n)])
  | .patternMismatch p => some (Json.ofFields [("pattern", .ofString p)])
  | .tooSmall n => some (Json.ofFields [("ge", .int n)])
  | .tooLarge n => some (Json.ofFields [("le", .int n)])
  | _ => none

/-- A step on the way to a part of a value. -/
def PathStep.toJson : PathStep → Json
  | .member name => .str name
  | .item i => .int i

/-- A report on a problem of a body. -/
def problemReport (kind : String) (path : List Json) (message : Text) (input : Json)
    (context : Option Json) : Json :=
  Json.ofFields ([("type", .ofString kind), ("loc", .array (Json.ofString "body" :: path)),
    ("msg", .str message), ("input", input)]
    ++ (context.map fun c => ("ctx", c)).toList)

/-- A report on a problem of a request. -/
def RequestProblem.report (p : RequestProblem) : Json :=
  problemReport p.problem.defect.kind (p.problem.path.map PathStep.toJson) p.problem.defect.message
    p.input p.problem.defect.context?

/-- The report on a body that is no JSON. -/
def malformedReport (problem : Json.Problem) (position : Nat) : Json :=
  problemReport "json_invalid" [.int position] "JSON decode error" (.object [])
    (some (Json.ofFields [("error", .ofString problem.message)]))

/-- The value of a body that is not empty; JSON may be nested up to `limit`. -/
def bodyContent (limit : Nat) (contentType : Option Text) (body : List UInt8) :
    Except BodyProblem Json :=
  if isJsonType contentType then
    match Json.readBody limit body with
    | .ok v => .ok v
    | .error (.text _ (.malformed problem position)) =>
      .error (.invalid [malformedReport problem position])
    | .error _ => .error .unreadable
  else .ok (.ofString (Utf8.decodeLossy body))

/-- The request in a body. -/
def AuditRequest.ofBody (limit : Nat) (contentType : Option Text) (body : List UInt8) :
    Except BodyProblem AuditRequest :=
  if body.isEmpty then .error (.invalid [RequestProblem.report ⟨⟨[], .missing⟩, .null⟩])
  else
    match bodyContent limit contentType body with
    | .error e => .error e
    | .ok v => (ofJson .notRecord v).mapError fun ps => .invalid (ps.map RequestProblem.report)

end ContractAudit
