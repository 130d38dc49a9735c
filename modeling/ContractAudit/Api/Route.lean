import ContractAudit.Address
import ContractAudit.Api.Target

/-!
# Routes

A path and a method lead to an operation of the service. A path may have a line feed after it. A
path that leads nowhere is tried without its trailing slashes, or with one if it has none.
-/

namespace ContractAudit

/-- An operation of the service. -/
inductive Operation where
  | auditAddress (address : Text)
  | auditSource
  | health
  deriving DecidableEq, Repr

/-- A method and the paths that it is for. -/
structure Route where
  method : String
  operation? : Text → Option Operation

namespace Route

/-- Where audits live. -/
def auditRoot : String := "/api/audit/"

/-- The address in a path: one segment that is not empty. -/
def addressOf? (path : Text) : Option Operation :=
  let address := path.drop auditRoot.length
  if path.startsWith auditRoot && !address.isEmpty && !address.any (fun p => p.isChar '/') then
    some (.auditAddress address)
  else none

/-- The operation of one path. -/
def fixed? (route : String) (operation : Operation) (path : Text) : Option Operation :=
  if dropLineFeed path == Text.ofString route then some operation else none

/-- The routes, those that are tried first in front. -/
def all : List Route :=
  [⟨"GET", addressOf?⟩, ⟨"POST", fixed? (auditRoot ++ "source") .auditSource⟩,
   ⟨"GET", fixed? "/health" .health⟩]

end Route

/-- Where a request leads. -/
inductive Routing where
  | found (operation : Operation)
  /-- The path is for another method. -/
  | wrongMethod (allowed : String)
  /-- Another path is meant. -/
  | elsewhere (path : Text)
  | nowhere
  deriving DecidableEq, Repr

/-- The path with its trailing slashes taken off, or with one if it has none. -/
def slashVariant (path : Text) : Text :=
  if path.endsWith "/" then (path.reverse.dropWhile fun p => p.isChar '/').reverse
  else path ++ Text.ofString "/"

/-- The operations of a path with their methods. -/
def operationsAt (path : Text) : List (String × Operation) :=
  Route.all.filterMap fun r => (r.operation? path).map fun o => (r.method, o)

/-- Where a method and a path lead. -/
def routing (method path : Text) : Routing :=
  let operations := operationsAt path
  match operations.find? fun (m, _) => Text.ofString m == method with
  | some (_, operation) => .found operation
  | none =>
    match operations with
    | (allowed, _) :: _ => .wrongMethod allowed
    | [] =>
      if path == Text.ofString "/" then .nowhere
      else if (operationsAt (slashVariant path)).isEmpty then .nowhere
      else .elsewhere (slashVariant path)

end ContractAudit
