import KotlinContract.Text.Separated

/-!
# Type names

A type is a class, named by its package and the classes it is nested in, or a function type
with parameters, a result and possibly a receiver. Either may be nullable.
-/
namespace KotlinContract

/-- The name of a class. -/
structure ClassName where
  /-- The package, as dotted text; empty for a class outside every package. -/
  package : String
  /-- The simple name of the outermost class. -/
  outermost : String
  /-- The simple names of the classes nested inside it, from the outside inwards. -/
  nested : List String
  deriving DecidableEq

namespace ClassName

/-- The simple names from the outermost class inwards. -/
def simpleNames (name : ClassName) : List String := name.outermost :: name.nested

/-- A class has a simple name. -/
theorem simpleNames_ne_nil (name : ClassName) : name.simpleNames ≠ [] := List.cons_ne_nil _ _

/-- The name as dotted text. -/
def dotted (name : ClassName) : String :=
  let names := Text.join "." name.simpleNames
  if name.package = "" then names else name.package ++ "." ++ names

end ClassName

/-- A type reference. -/
inductive TypeName where
  /-- A class. -/
  | classType (name : ClassName) (nullable : Bool)
  /-- A function type. -/
  | functionType (parameters : List TypeName) (result : TypeName) (receiver : Option TypeName)
      (nullable : Bool)

namespace TypeName

mutual

/-- Equality of type names is decidable. -/
def decideEq : (left right : TypeName) → Decidable (left = right)
  | .classType leftName leftNullable, .classType rightName rightNullable =>
    decidable_of_iff (leftName = rightName ∧ leftNullable = rightNullable) (by simp)
  | .functionType leftParameters leftResult leftReceiver leftNullable,
      .functionType rightParameters rightResult rightReceiver rightNullable =>
    match decideEqList leftParameters rightParameters, decideEq leftResult rightResult,
        decideEqOption leftReceiver rightReceiver with
    | isTrue parameters, isTrue result, isTrue receiver =>
      decidable_of_iff (leftNullable = rightNullable) (by simp [parameters, result, receiver])
    | isFalse parameters, _, _ => isFalse (by simp [parameters])
    | _, isFalse result, _ => isFalse (by simp [result])
    | _, _, isFalse receiver => isFalse (by simp [receiver])
  | .classType .., .functionType .. => isFalse (by simp)
  | .functionType .., .classType .. => isFalse (by simp)

/-- Equality of lists of type names is decidable. -/
def decideEqList : (left right : List TypeName) → Decidable (left = right)
  | [], [] => isTrue rfl
  | [], _ :: _ => isFalse (by simp)
  | _ :: _, [] => isFalse (by simp)
  | left :: lefts, right :: rights =>
    match decideEq left right, decideEqList lefts rights with
    | isTrue first, isTrue rest => isTrue (by rw [first, rest])
    | isFalse first, _ => isFalse (by simp [first])
    | _, isFalse rest => isFalse (by simp [rest])

/-- Equality of optional type names is decidable. -/
def decideEqOption : (left right : Option TypeName) → Decidable (left = right)
  | none, none => isTrue rfl
  | none, some _ => isFalse (by simp)
  | some _, none => isFalse (by simp)
  | some left, some right =>
    match decideEq left right with
    | isTrue same => isTrue (by rw [same])
    | isFalse same => isFalse (by simp [same])

end

instance : DecidableEq TypeName := decideEq

/-- Whether the type is nullable. -/
def nullable : TypeName → Bool
  | .classType _ nullable => nullable
  | .functionType _ _ _ nullable => nullable

/-- The type with its nullability replaced. -/
def withNullable (nullable : Bool) : TypeName → TypeName
  | .classType name _ => .classType name nullable
  | .functionType parameters result receiver _ =>
    .functionType parameters result receiver nullable

/-- Whether the type is a function type. -/
def isFunction : TypeName → Bool
  | .classType .. => false
  | .functionType .. => true

/-- A class of the standard package. -/
def standard (name : String) : TypeName := .classType ⟨"kotlin", name, []⟩ false

/-- The type of every value but null. -/
def any : TypeName := standard "Any"

/-- The type of truth values. -/
def boolean : TypeName := standard "Boolean"

/-- The type of 32-bit whole numbers. -/
def int : TypeName := standard "Int"

/-- The type of 64-bit whole numbers. -/
def long : TypeName := standard "Long"

/-- The type of texts. -/
def string : TypeName := standard "String"

/-- The type of functions that return nothing of interest. -/
def unit : TypeName := standard "Unit"

/-- The type without values. -/
def nothing : TypeName := standard "Nothing"

/-- A function type. Without a result it returns the unit type. -/
def function (parameters : List TypeName) (result receiver : Option TypeName)
    (nullable : Bool) : TypeName :=
  .functionType parameters (result.getD unit) receiver nullable

/-- A text in parentheses. -/
def parenthesized (text : String) : String := "(" ++ text ++ ")"

mutual

/-- The source text of a type. A function type that is a receiver, and a nullable function
type, stand in parentheses. -/
def render : TypeName → String
  | .classType name nullable => name.dotted ++ if nullable then "?" else ""
  | .functionType parameters result receiver nullable =>
    let arrow := parenthesized (Text.join ", " (renderAll parameters)) ++ " -> " ++ result.render
    let signature := match receiver with
      | none => arrow
      | some receiver =>
        (if receiver.isFunction then parenthesized receiver.render else receiver.render) ++
          "." ++ arrow
    if nullable then parenthesized signature ++ "?" else signature

/-- The source texts of several types. -/
def renderAll : List TypeName → List String
  | [] => []
  | type :: types => type.render :: renderAll types

end

/-- The source texts of several types are the texts of each. -/
theorem renderAll_eq_map (types : List TypeName) : renderAll types = types.map render := by
  induction types with
  | nil => rfl
  | cons type types hypothesis => simp [renderAll, hypothesis]

end TypeName

end KotlinContract
