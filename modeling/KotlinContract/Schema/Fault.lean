/-!
# Faults of documents

A fault says where in a JSON value something is wrong and what it is.
-/
namespace KotlinContract.Schema

/-- One step into a JSON value. -/
inductive Step where
  /-- To the value under a key, or to one of the forms that a value may have. -/
  | key (name : String)
  /-- To an item of a list. -/
  | item (position : Nat)
  deriving DecidableEq

/-- What is wrong with a value. -/
inductive Cause where
  /-- A key that is required is missing. -/
  | missing
  /-- A key that is not known is present. -/
  | unknownKey
  /-- An object is required. -/
  | notAnObject
  /-- An object of free content is required. -/
  | notADictionary
  /-- An object with a discriminating key is required. -/
  | notDiscriminated
  /-- A list is required. -/
  | notAList
  /-- A text is required. -/
  | notAText
  /-- A truth value is required. -/
  | notABoolean
  /-- A text or number does not stand for a truth value. -/
  | unreadableBoolean
  /-- A whole number is required. -/
  | notAnInteger
  /-- A text does not stand for a whole number. -/
  | unreadableInteger
  /-- A number has a fractional part. -/
  | fractional
  /-- A number is too large to be taken for a whole number. -/
  | oversized
  /-- A number is infinite or not a number. -/
  | notFinite
  /-- A floating-point number is required. -/
  | notAReal
  /-- A text is none of the words that are allowed. -/
  | unknownWord
  /-- The discriminating key is missing. -/
  | tagMissing
  /-- The value under the discriminating key is none of those allowed. -/
  | tagUnknown
  deriving DecidableEq

/-- The word for a cause in reports. -/
def Cause.code : Cause → String
  | .missing => "missing"
  | .unknownKey => "extra_forbidden"
  | .notAnObject => "model_type"
  | .notADictionary => "dict_type"
  | .notDiscriminated => "model_attributes_type"
  | .notAList => "list_type"
  | .notAText => "string_type"
  | .notABoolean => "bool_type"
  | .unreadableBoolean => "bool_parsing"
  | .notAnInteger => "int_type"
  | .unreadableInteger => "int_parsing"
  | .fractional => "int_from_float"
  | .oversized => "int_parsing_size"
  | .notFinite => "finite_number"
  | .notAReal => "float_type"
  | .unknownWord => "enum"
  | .tagMissing => "union_tag_not_found"
  | .tagUnknown => "union_tag_invalid"

/-- A place in a JSON value and what is wrong there. -/
structure Fault where
  /-- The steps from the outside to the place. -/
  path : List Step
  /-- What is wrong. -/
  cause : Cause
  deriving DecidableEq

/-- The fault as seen one step further outside. -/
def Fault.under (step : Step) (fault : Fault) : Fault :=
  { fault with path := step :: fault.path }

end KotlinContract.Schema
