import ContractAudit.Json.Basic

/-!
# Validation

What is wrong with a value that does not have the form that is asked for. Every problem has a place
in the value, the name of its kind and a sentence for people.
-/

namespace ContractAudit

/-- A step on the way to a part of a value. -/
inductive PathStep where
  | member (name : Text)
  | item (index : Nat)
  deriving DecidableEq, Repr

/-- The ways in which a value can have the wrong form. -/
inductive Defect where
  | missing
  | notObject (schema : String)
  | notRecord
  | notString
  | notUnicode
  | tooShort (least : Nat)
  | tooLong (most : Nat)
  | patternMismatch (pattern : String)
  | unreadableInt
  | intSize
  | fractionalInt
  | notInt
  | notFiniteInt
  | tooSmall (least : Int)
  | tooLarge (most : Int)
  | unreadableFloat
  | notFloat
  | unreadableBool
  | notBool
  | notList
  | refused (reason : Text)
  | extra
  deriving DecidableEq, Repr

/-- The plural ending that a count asks for. -/
def pluralEnding (n : Nat) : String :=
  if n == 1 then "" else "s"

/-- The name of the kind of a defect. -/
def Defect.kind : Defect → String
  | .missing => "missing"
  | .notObject _ => "model_type"
  | .notRecord => "model_attributes_type"
  | .notString => "string_type"
  | .notUnicode => "string_unicode"
  | .tooShort _ => "string_too_short"
  | .tooLong _ => "string_too_long"
  | .patternMismatch _ => "string_pattern_mismatch"
  | .unreadableInt => "int_parsing"
  | .intSize => "int_parsing_size"
  | .fractionalInt => "int_from_float"
  | .notInt => "int_type"
  | .notFiniteInt => "finite_number"
  | .tooSmall _ => "greater_than_equal"
  | .tooLarge _ => "less_than_equal"
  | .unreadableFloat => "float_parsing"
  | .notFloat => "float_type"
  | .unreadableBool => "bool_parsing"
  | .notBool => "bool_type"
  | .notList => "list_type"
  | .refused _ => "value_error"
  | .extra => "extra_forbidden"

/-- The defect in words. -/
def Defect.message : Defect → Text
  | .missing => "Field required"
  | .notObject schema => "Input should be a valid dictionary or instance of " ++ schema
  | .notRecord => "Input should be a valid dictionary or object to extract fields from"
  | .notString => "Input should be a valid string"
  | .notUnicode =>
    "Input should be a valid string, unable to parse raw data as a unicode string"
  | .tooShort n =>
    "String should have at least " ++ toString n ++ " character" ++ pluralEnding n
  | .tooLong n => "String should have at most " ++ toString n ++ " character" ++ pluralEnding n
  | .patternMismatch pattern => "String should match pattern '" ++ pattern ++ "'"
  | .unreadableInt => "Input should be a valid integer, unable to parse string as an integer"
  | .intSize => "Unable to parse input string as an integer, exceeded maximum size"
  | .fractionalInt => "Input should be a valid integer, got a number with a fractional part"
  | .notInt => "Input should be a valid integer"
  | .notFiniteInt => "Input should be a finite number"
  | .tooSmall n => "Input should be greater than or equal to " ++ toString n
  | .tooLarge n => "Input should be less than or equal to " ++ toString n
  | .unreadableFloat => "Input should be a valid number, unable to parse string as a number"
  | .notFloat => "Input should be a valid number"
  | .unreadableBool => "Input should be a valid boolean, unable to interpret input"
  | .notBool => "Input should be a valid boolean"
  | .notList => "Input should be a valid list"
  | .refused reason => Text.ofString "Value error, " ++ reason
  | .extra => "Extra inputs are not permitted"

/-- A defect and where it is. -/
structure Problem where
  path : List PathStep
  defect : Defect
  deriving DecidableEq, Repr

end ContractAudit
