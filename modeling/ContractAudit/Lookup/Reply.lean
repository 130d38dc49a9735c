import ContractAudit.Json.Reader
import ContractAudit.Json.Display
import ContractAudit.Lookup.Query

/-!
# Replies

What comes back when another service is asked: a transport failure, or a response with a status and
a body. `Query.ask` gives the value in the body or says why there is none.
-/

namespace ContractAudit

/-- What comes back. -/
inductive Reply where
  /-- The service was not reached, or broke off. -/
  | failure (message : Text)
  /-- A response, with its redirect target if it names one. -/
  | response (status : Nat) (location : Option Text) (body : List UInt8)

/-- The phrase of each known status. -/
def statusPhrases : List (Nat × String) :=
  [(100, "Continue"), (101, "Switching Protocols"), (102, "Processing"), (103, "Early Hints"),
   (200, "OK"), (201, "Created"), (202, "Accepted"), (203, "Non-Authoritative Information"),
   (204, "No Content"), (205, "Reset Content"), (206, "Partial Content"), (207, "Multi-Status"),
   (208, "Already Reported"), (226, "IM Used"),
   (300, "Multiple Choices"), (301, "Moved Permanently"), (302, "Found"), (303, "See Other"),
   (304, "Not Modified"), (305, "Use Proxy"), (307, "Temporary Redirect"),
   (308, "Permanent Redirect"),
   (400, "Bad Request"), (401, "Unauthorized"), (402, "Payment Required"), (403, "Forbidden"),
   (404, "Not Found"), (405, "Method Not Allowed"), (406, "Not Acceptable"),
   (407, "Proxy Authentication Required"), (408, "Request Timeout"), (409, "Conflict"),
   (410, "Gone"), (411, "Length Required"), (412, "Precondition Failed"),
   (413, "Request Entity Too Large"), (414, "Request-URI Too Long"),
   (415, "Unsupported Media Type"), (416, "Requested Range Not Satisfiable"),
   (417, "Expectation Failed"), (418, "I'm a teapot"), (421, "Misdirected Request"),
   (422, "Unprocessable Entity"), (423, "Locked"), (424, "Failed Dependency"), (425, "Too Early"),
   (426, "Upgrade Required"), (428, "Precondition Required"), (429, "Too Many Requests"),
   (431, "Request Header Fields Too Large"), (451, "Unavailable For Legal Reasons"),
   (500, "Internal Server Error"), (501, "Not Implemented"), (502, "Bad Gateway"),
   (503, "Service Unavailable"), (504, "Gateway Timeout"), (505, "HTTP Version Not Supported"),
   (506, "Variant Also Negotiates"), (507, "Insufficient Storage"), (508, "Loop Detected"),
   (510, "Not Extended"), (511, "Network Authentication Required")]

/-- The phrase of a status, empty for unknown ones. -/
def statusPhrase (status : Nat) : String :=
  (lookup? status statusPhrases).getD ""

/-- What a status that is no success is called. -/
def statusClass (status : Nat) : String :=
  match status / 100 with
  | 1 => "Informational response"
  | 3 => "Redirect response"
  | 4 => "Client error"
  | 5 => "Server error"
  | _ => "Invalid status code"

/-- Whether a status sends the client elsewhere. -/
def isRedirect (status : Nat) : Bool :=
  [301, 302, 303, 307, 308].contains status

/-- A status that is no success, in words. -/
def statusMessage (url : Text) (status : Nat) (location : Option Text) : Text :=
  let target : Text :=
    match location with
    | some t =>
      if isRedirect status then Text.ofString "Redirect location: '" ++ t ++ Text.ofString "'\n"
      else []
    | none => []
  Text.ofString (statusClass status ++ " '" ++ toString status ++ " " ++ statusPhrase status
      ++ "' for url '")
    ++ url ++ Text.ofString "'\n" ++ target
    ++ Text.ofString ("For more information check: "
      ++ "https://developer.mozilla.org/en-US/docs/Web/HTTP/Status/" ++ toString status)

/-- Why a reply has no value. -/
inductive ReplyError where
  /-- The query cannot be sent, or the reply is no success or no JSON. -/
  | failed (message : Text)
  /-- The body is nested too deeply. -/
  | tooDeep
  deriving DecidableEq, Repr

/-- The value in a body that may be nested up to `limit`. -/
def bodyValue (limit : Nat) (body : List UInt8) : Except ReplyError Json :=
  match Json.readBody limit body with
  | .ok v => .ok v
  | .error (.text _ .tooDeep) => .error .tooDeep
  | .error e => .error (.failed (Text.ofString e.message))

/-- The value of a reply from an address. -/
def Reply.read (limit : Nat) (url : Text) : Reply → Except ReplyError Json
  | .failure message => .error (.failed message)
  | .response status location body =>
    if status / 100 == 2 then bodyValue limit body
    else .error (.failed (statusMessage url status location))

/-- The value of the reply to a query. A query that cannot be sent has none. -/
def Query.ask (limit : Nat) (q : Query) (reply : Reply) : Except ReplyError Json :=
  match q.target with
  | .error e => .error (.failed (Text.ofString e.message))
  | .ok url => reply.read limit url

/-- Why a lookup gave nothing. -/
inductive LookupError where
  /-- The source or bytecode could not be obtained. -/
  | failed (message : Text)
  /-- Nothing is deployed at the address. -/
  | noContract (message : Text)
  /-- A value of this sort has no such method. -/
  | noMethod (sort : String) (method : String)
  /-- A value of this sort cannot be searched. -/
  | notIterable (sort : String)
  /-- A string or a list was asked for a member by name; the flag says that it was a string. -/
  | noMember (isString : Bool)
  /-- The answer is nested too deeply. -/
  | tooDeep
  deriving DecidableEq, Repr

/-- The error in words. -/
def LookupError.message : LookupError → Text
  | .failed message => message
  | .noContract message => message
  | .noMethod sort method => "'" ++ sort ++ "' object has no attribute '" ++ method ++ "'"
  | .notIterable sort => "argument of type '" ++ sort ++ "' is not iterable"
  | .noMember true => "string indices must be integers, not 'str'"
  | .noMember false => "list indices must be integers or slices, not str"
  | .tooDeep => "maximum recursion depth exceeded"

/-- Whether the error says that the source or bytecode could not be obtained. -/
def LookupError.isSourceError : LookupError → Bool
  | .failed _ => true
  | .noContract _ => true
  | _ => false

/-- The members of an object, or the error that it is none. -/
def membersOf : Json → Except LookupError (List (Text × Json))
  | .object members => .ok members
  | v => .error (.noMethod v.sortName "get")

/-- The replies that are still to come; the last one repeats. -/
structure Replies where
  upcoming : List Reply

/-- What is answered when no reply was given. -/
def noReply : Reply :=
  .failure "no response given"

/-- The next reply and those after it. -/
def Replies.next : Replies → Reply × Replies
  | ⟨[]⟩ => (noReply, ⟨[]⟩)
  | ⟨[r]⟩ => (r, ⟨[r]⟩)
  | ⟨r :: rest⟩ => (r, ⟨rest⟩)

end ContractAudit
