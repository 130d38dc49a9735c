import ContractAudit.Api.Body
import ContractAudit.Api.Cors
import ContractAudit.Api.Route
import ContractAudit.Audit.Session

/-!
# The service

Requests are routed to audits of addresses and sources. What goes wrong in a known way is answered
with a status and a detail; what goes wrong otherwise breaks the request and leaves the session as
the audit left it.
-/

namespace ContractAudit

/-- What requests are served with. -/
structure Api where
  /-- The origins that may read answers. -/
  origins : List Text
  /-- The form in which the number of an issue is sent. -/
  shownId : Nat → Json
  /-- How deeply the JSON of a request may be nested. -/
  bodyNesting : Nat

/-- A request that was served. There is no response if the request broke the service. -/
structure Served where
  response : Option ApiResponse
  session : Session
  trace : Trace

/-- The name of the service. -/
def serviceName : String := "DefyShield Security Audit API"

/-- The version of the service. -/
def serviceVersion : String := "0.1.0"

/-- What is logged when the service starts. -/
def startRecord (s : Settings) : LogRecord :=
  ⟨.info, .application, Text.ofString (serviceName ++ " starting (") ++ s.appEnv ++ Text.ofString ")"⟩

/-- What is logged when the service stops. -/
def stopRecord : LogRecord :=
  ⟨.info, .application, Text.ofString (serviceName ++ " shutting down")⟩

/-- What the service says about itself. -/
def healthReport : Json :=
  Json.ofFields [("status", .ofString "healthy"), ("service", .ofString serviceName),
    ("version", .ofString serviceVersion)]

namespace Api

/-- The response to the outcome of an audit. -/
def responseOf (api : Api) : Except AuditError Report → Option ApiResponse
  | .ok r => ApiResponse.json? 200 (r.toJson api.shownId)
  | .error (.lookup e) =>
    if e.isSourceError then ApiResponse.detail? 404 (.str e.message) else none
  | .error (.unanalysed m) => ApiResponse.detail? 422 (.str m)
  | .error _ => none

/-- The request after an audit of which this was logged first. -/
def served (api : Api) (first : LogRecord) (r : Audited × Session) : Served :=
  ⟨api.responseOf r.1.outcome, r.2, Trace.ofLog [first] ++ r.1.trace⟩

/-- Serves a request to audit an address. -/
def serveAddress (api : Api) (s : Session) (address : Text) : Served :=
  if isPathAddress address then
    api.served ⟨.info, .routes, Text.ofString "Audit requested for contract: " ++ address⟩
      (s.auditAddress address)
  else
    ⟨ApiResponse.detail? 400 (.ofString invalidAddressDetail), s,
      .ofLog [invalidAddressRecord address]⟩

/-- What is said about a body that cannot be read. -/
def unreadableDetail : String := "There was an error parsing the body"

/-- Serves a request to audit a source. -/
def serveSource (api : Api) (s : Session) (r : ApiRequest) : Served :=
  match AuditRequest.ofBody api.bodyNesting (r.header? "content-type") r.body with
  | .error .unreadable => ⟨ApiResponse.detail? 400 (.ofString unreadableDetail), s, .ofLog []⟩
  | .error (.invalid reports) => ⟨ApiResponse.detail? 422 (.array reports), s, .ofLog []⟩
  | .ok request =>
    api.served
      ⟨.info, .routes, Text.ofString "Source audit requested for contract: " ++ request.address⟩
      (s.auditSource request.source request.address)

/-- The host that a request names. -/
def hostOf (r : ApiRequest) : Text :=
  (r.header? "host").getD "localhost"

/-- Serves a request, whatever its origin. -/
def serveRouted (api : Api) (s : Session) (r : ApiRequest) : Served :=
  match routing r.method r.target.path with
  | .found (.auditAddress address) => api.serveAddress s address
  | .found .auditSource => api.serveSource s r
  | .found .health => ⟨ApiResponse.json? 200 healthReport, s, .ofLog []⟩
  | .wrongMethod allowed =>
    ⟨(ApiResponse.detail? 405 (.ofString "Method Not Allowed")).map
      (ApiResponse.withHeaders [("allow", Text.ofString allowed)]), s, .ofLog []⟩
  | .elsewhere path =>
    ⟨some ⟨307, [("location", r.target.redirectTo (hostOf r) path)], .text ""⟩, s, .ofLog []⟩
  | .nowhere => ⟨ApiResponse.detail? 404 (.ofString "Not Found"), s, .ofLog []⟩

/-- Serves a request from a named origin. -/
def serveFrom (api : Api) (s : Session) (r : ApiRequest) (origin : Text) : Served :=
  let plain : Served :=
    let done := api.serveRouted s r
    let headers := Cors.headers api.origins origin (r.header? "cookie").isSome
    { done with response := done.response.map (ApiResponse.withHeaders headers) }
  if r.method == Text.ofString "OPTIONS" then
    match r.header? "access-control-request-method" with
    | some method => ⟨some (Cors.preflight api.origins origin method), s, .ofLog []⟩
    | none => plain
  else plain

/-- Serves a request. -/
def serve (api : Api) (s : Session) (r : ApiRequest) : Served :=
  match r.header? "origin" with
  | some origin => api.serveFrom s r origin
  | none => api.serveRouted s r

/-- The response that is sent: a broken request has one of its own, and only the head is sent to
those who ask for nothing else. -/
def sent (r : ApiRequest) (done : Served) : ApiResponse :=
  let response := done.response.getD .broken
  if r.method == Text.ofString "HEAD" then response.bare else response

end Api

end ContractAudit
