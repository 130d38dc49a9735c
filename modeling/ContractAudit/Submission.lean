import ContractAudit.Json.Reader
import ContractAudit.Text.Blank

/-!
# Submissions

A verified contract may have been submitted as several files: as a JSON object with a member
`sources`, perhaps in an extra pair of braces, or as a bare object from paths to files. `flatten`
makes one text of them and leaves everything else as it is.
-/

namespace ContractAudit

namespace Submission

/-- The opening brace. -/
def opening : String := "\x7b"

/-- The closing brace. -/
def closing : String := "\x7d"

/-- What is read as JSON: an extra pair of braces is taken off. -/
def candidate (stripped : Text) : Text :=
  if stripped.startsWith (opening ++ opening) && stripped.endsWith (closing ++ closing) then
    (stripped.drop 1).dropLast
  else stripped

/-- The files of a submission by their paths, if it is an object. -/
def files? : Json → Option (List (Text × Json))
  | .object members =>
    match lookup? (Text.ofString "sources") members with
    | none => some members
    | some (.object files) => some files
    | some _ => none
  | _ => none

/-- A file under its heading, if it has a text. -/
def part? (file : Text × Json) : Option Text :=
  match file.2.get? "content" with
  | some (.str content) =>
    some (Text.ofString "// File: " ++ file.1 ++ Text.ofString "\n" ++ content)
  | _ => none

/-- The files with a text, a blank line between neighbours. -/
def joined (files : List (Text × Json)) : Option Text :=
  match files.filterMap part? with
  | [] => none
  | parts => some (Text.joinWith "\n\n" parts)

/-- The source of a submission as one text. Only nesting beyond `limit` is an error. -/
def flatten (limit : Nat) (code : Text) : Except Json.ReadError Text :=
  let stripped := code.strip
  if !stripped.startsWith opening then .ok code
  else
    match Json.readUnmarked limit (candidate stripped) with
    | .error .tooDeep => .error .tooDeep
    | .error _ => .ok code
    | .ok v => .ok (((files? v).bind joined).getD code)

end Submission

end ContractAudit
