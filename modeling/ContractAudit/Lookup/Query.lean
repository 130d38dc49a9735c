import ContractAudit.Json.Sendable
import ContractAudit.Text.Percent

/-!
# Queries

What another service is asked: a form within an address, or a JSON value that is sent to one. Neither
can be sent if it has a surrogate that stands alone.
-/

namespace ContractAudit

/-- What another service is asked. -/
inductive Query where
  /-- A form, sent as part of the address. -/
  | get (url : Text) (fields : List (String × Text))
  /-- A value, sent as JSON. -/
  | post (url : Text) (body : Json)

/-- A text up to the first occurrence of a character, and the rest from there on. -/
def splitAtChar (c : Char) (t : Text) : Text × Text :=
  (t.takeWhile (fun p => !p.isChar c), t.dropWhile fun p => !p.isChar c)

/-- A URL with this query in place of its own. -/
def withQuery (url : Text) (query : Text) : Text :=
  let (front, fragment) := splitAtChar '#' url
  (splitAtChar '?' front).1 ++ Text.ofString "?" ++ query ++ fragment

namespace Query

/-- The address that is asked, or why the query cannot be sent. -/
def target : Query → Except Utf8.EncodeError Text
  | .get url fields => (Percent.form fields).map fun form => withQuery url (Text.ofString form)
  | .post url body => (Utf8.encode body.sentText).map fun _ => url

/-- The query if it can be sent. -/
def sent (q : Query) : List Query :=
  match q.target with
  | .ok _ => [q]
  | .error _ => []

end Query

end ContractAudit
