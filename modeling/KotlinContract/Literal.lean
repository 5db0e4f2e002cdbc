import KotlinContract.Decimal.Real
import KotlinContract.Json.Value

/-!
# Literals

The scalar values that a document or a caller may give for a constant, and the token that each
of them is in source text. A text is its own token, so it may be any source text at all.
-/
namespace KotlinContract

/-- The token of the null literal. -/
def nullToken : String := "null"

/-- A scalar value. -/
inductive Literal where
  /-- The null value. -/
  | null
  /-- A truth value. -/
  | boolean (value : Bool)
  /-- A whole number. -/
  | integer (value : Int)
  /-- A floating-point number. -/
  | real (value : Float)
  /-- A token in its own words. -/
  | verbatim (value : String)

namespace Literal

/-- The token of a value. A whole number has all its digits, however many they are; the limit
on digits holds for numbers that are read, not for those that are written. -/
def token : Literal → String
  | .null => nullToken
  | .boolean true => "true"
  | .boolean false => "false"
  | .integer value => Decimal.integerText value
  | .real value => Decimal.realText value
  | .verbatim value => value

/-- The kind of JSON value that a scalar is written as. -/
def kind : Literal → Json.Kind
  | .null => .null
  | .boolean _ => .boolean
  | .integer _ => .integer
  | .real _ => .real
  | .verbatim _ => .text

/-- The scalar that a JSON value is, if it is one. -/
def ofJson? : Json → Option Literal
  | .null => some .null
  | .boolean value => some (.boolean value)
  | .integer value => some (.integer value)
  | .real value => some (.real value)
  | .text value => some (.verbatim value)
  | .array _ => none
  | .object _ => none

/-- The scalar as a JSON value. -/
def toJson : Literal → Json
  | .null => .null
  | .boolean value => .boolean value
  | .integer value => .integer value
  | .real value => .real value
  | .verbatim value => .text value

/-- A scalar is the one that its JSON value is. -/
@[simp] theorem ofJson?_toJson (value : Literal) : ofJson? value.toJson = some value := by
  cases value <;> rfl

end Literal

end KotlinContract
