import EntityTagger.Text

/-!
Violations: where a field of a record or of a request is wrong, and which rule it breaks.
-/

namespace EntityTagger

inductive Rule
  | missing
  | stringType
  | stringUnicode
  | floatType
  | floatParsing
  | intType
  | intParsing
  | intSize
  | intFraction
  | finite
  | atLeast (bound : Nat)
  | atMost (bound : Nat)
  | pathType
  | frozen
  | listType
  | tooShort
  | recordType
  | jsonText
deriving DecidableEq, Repr

def Rule.name : Rule → Text
  | .missing => text "missing"
  | .stringType => text "string_type"
  | .stringUnicode => text "string_unicode"
  | .floatType => text "float_type"
  | .floatParsing => text "float_parsing"
  | .intType => text "int_type"
  | .intParsing => text "int_parsing"
  | .intSize => text "int_parsing_size"
  | .intFraction => text "int_from_float"
  | .finite => text "finite_number"
  | .atLeast _ => text "greater_than_equal"
  | .atMost _ => text "less_than_equal"
  | .pathType => text "path_type"
  | .frozen => text "frozen_instance"
  | .listType => text "list_type"
  | .tooShort => text "too_short"
  | .recordType => text "model_attributes_type"
  | .jsonText => text "json_invalid"

def Rule.message : Rule → Text
  | .missing => text "Field required"
  | .stringType => text "Input should be a valid string"
  | .stringUnicode =>
    text "Input should be a valid string, unable to parse raw data as a unicode string"
  | .floatType => text "Input should be a valid number"
  | .floatParsing => text "Input should be a valid number, unable to parse string as a number"
  | .intType => text "Input should be a valid integer"
  | .intParsing => text "Input should be a valid integer, unable to parse string as an integer"
  | .intSize => text "Unable to parse input string as an integer, exceeded maximum size"
  | .intFraction => text "Input should be a valid integer, got a number with a fractional part"
  | .finite => text "Input should be a finite number"
  | .atLeast bound => text "Input should be greater than or equal to " ++ Text.ofNat bound
  | .atMost bound => text "Input should be less than or equal to " ++ Text.ofNat bound
  | .pathType => text "Input is not a valid path for <class 'pathlib.Path'>"
  | .frozen => text "Instance is frozen"
  | .listType => text "Input should be a valid list"
  | .tooShort => text "List should have at least 1 item after validation, not 0"
  | .recordType => text "Input should be a valid dictionary or object to extract fields from"
  | .jsonText => text "JSON decode error"

/-- A step from a record to what is wrong in it. -/
inductive Step
  | field (name : Text)
  | index (place : Nat)
deriving DecidableEq, Repr

structure Violation where
  place : List Step
  rule : Rule
deriving DecidableEq, Repr

end EntityTagger
