import ContractAudit.Api.Target
import ContractAudit.Json.Sendable

/-!
# Requests and responses

Header names are in lower case. A response holds a JSON value or plain text.
-/

namespace ContractAudit

/-- A request to the service. -/
structure ApiRequest where
  method : Text
  target : Target
  headers : List (Text × Text)
  body : List UInt8

/-- The value of a header. -/
def ApiRequest.header? (r : ApiRequest) (name : String) : Option Text :=
  lookup? (Text.ofString name) r.headers

/-- What a response holds. -/
inductive Content where
  | json (value : Json)
  | text (words : String)

/-- A response of the service. -/
structure ApiResponse where
  status : Nat
  headers : List (String × Text)
  content : Content

namespace ApiResponse

/-- A response with a JSON value, if the value can be sent. -/
def json? (status : Nat) (value : Json) : Option ApiResponse :=
  if value.isSendable then some ⟨status, [], .json value⟩ else none

/-- A response that says what is wrong, if it can be sent. -/
def detail? (status : Nat) (detail : Json) : Option ApiResponse :=
  json? status (Json.ofFields [("detail", detail)])

/-- The response to a request that broke the service. -/
def broken : ApiResponse :=
  ⟨500, [], .text "Internal Server Error"⟩

/-- The response with more headers. -/
def withHeaders (headers : List (String × Text)) (r : ApiResponse) : ApiResponse :=
  { r with headers := r.headers ++ headers }

/-- The response without what it holds. -/
def bare (r : ApiResponse) : ApiResponse :=
  { r with content := .text "" }

end ApiResponse

end ContractAudit
