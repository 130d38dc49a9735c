import ContractAudit.Api.Message

/-!
# Requests from other origins

A browser names the origin of a request. Answers say whether the origin may read them; a browser may
also ask beforehand.
-/

namespace ContractAudit

namespace Cors

/-- The methods that any origin may use. -/
def methods : List String :=
  ["DELETE", "GET", "HEAD", "OPTIONS", "PATCH", "POST", "PUT"]

/-- The origin that stands for all. -/
def anyOrigin : Text := Text.ofString "*"

/-- Whether an origin may read answers. -/
def isAllowed (origins : List Text) (origin : Text) : Bool :=
  origins.contains anyOrigin || origins.contains origin

/-- Says that an origin may read the answer. -/
def allowOrigin (origin : Text) : String × Text :=
  ("access-control-allow-origin", origin)

/-- Says that the answer may depend on who asks. -/
def allowCredentials : String × Text :=
  ("access-control-allow-credentials", Text.ofString "true")

/-- What an answer to an origin says about origins. -/
def headers (origins : List Text) (origin : Text) (hasCookie : Bool) : List (String × Text) :=
  if origins.contains anyOrigin then
    [allowCredentials, allowOrigin (if hasCookie then origin else anyOrigin)]
  else if origins.contains origin then [allowCredentials, allowOrigin origin]
  else [allowCredentials]

/-- The answer to an origin that asks beforehand whether it may use a method. -/
def preflight (origins : List Text) (origin method : Text) : ApiResponse :=
  let allowed := isAllowed origins origin
  let failures := (if allowed then [] else ["origin"])
    ++ (if (methods.map Text.ofString).contains method then [] else ["method"])
  let headers := allowCredentials :: (if allowed then [allowOrigin origin] else [])
  if failures.isEmpty then ⟨200, headers, .text "OK"⟩
  else ⟨400, headers, .text ("Disallowed CORS " ++ ", ".intercalate failures)⟩

end Cors

end ContractAudit
