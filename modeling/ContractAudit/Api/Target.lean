import ContractAudit.Text.Percent

/-!
# Request targets

A target is a path with perhaps a query. The path is relative to the host, dot segments are taken
out of it, and its escapes are decoded twice: once on the way here and once on arrival.
-/

namespace ContractAudit

/-- What a request is for. -/
structure Target where
  /-- The decoded path. -/
  path : Text
  /-- The query as it was sent. -/
  query : Text
  deriving DecidableEq, Repr

namespace Target

/-- The parts of a text between slashes. -/
def segments : Text → List Text
  | [] => [[]]
  | p :: rest =>
    if p.isChar '/' then [] :: segments rest
    else
      match segments rest with
      | s :: more => (p :: s) :: more
      | [] => [[p]]

/-- The segments so far after one more segment. A single dot stays where it is; two dots go up,
but not above the root. -/
def pushSegment (done : List Text) (segment : Text) : List Text :=
  if segment == Text.ofString "." then done
  else if segment == Text.ofString ".." then
    if done.isEmpty || done == [[]] then done else done.dropLast
  else done ++ [segment]

/-- A path without dot segments. -/
def withoutDots (path : Text) : Text :=
  Text.joinWith "/" ((segments path).foldl pushSegment [])

/-- A path without a host in front of it. -/
def withoutHost (path : Text) : Text :=
  if path.startsWith "//" then (path.drop 2).dropWhile fun p => !p.isChar '/' else path

/-- A path that begins with a single slash. -/
def rooted (path : Text) : Text :=
  Text.ofString "/" ++ path.dropWhile fun p => p.isChar '/'

/-- A path with its escapes decoded. -/
def decoded (path : Text) : Text :=
  Text.ofString (Percent.decode path.toStringLossy)

/-- The target that a text spells. What follows a hash sign is not sent. -/
def ofText (t : Text) : Target :=
  let sent := t.takeWhile fun p => !p.isChar '#'
  let path := sent.takeWhile fun p => !p.isChar '?'
  let query := (sent.dropWhile fun p => !p.isChar '?').drop 1
  ⟨decoded (decoded (withoutDots (rooted (withoutHost path)))), query⟩

/-- Whether a byte stands as it is in a redirect. -/
def isPlainInRedirect (b : UInt8) : Bool :=
  Percent.isUnreserved b || (Utf8.encodeString ":/%#?=@[]!$&'()*+,;").contains b

/-- The address of a path on a host, with the query of a target. -/
def redirectTo (host : Text) (path : Text) (t : Target) : Text :=
  let query : Text := if t.query.isEmpty then [] else Text.ofString "?" ++ t.query
  let url := Text.ofString "http://" ++ host ++ path ++ query
  Text.ofString (Percent.encodeBytes isPlainInRedirect (Utf8.encodeString url.toStringLossy))

end Target

end ContractAudit
