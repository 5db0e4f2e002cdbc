import KotlinContract.Document.Type
import KotlinContract.Expression.Draft

/-!
# Written expressions

A document writes an expression as an object with the parts of a draft. The joined expressions
stand under `and` and `or`, or under a longer key for each; where both are there, the short one
counts and the other is not looked at.
-/
namespace KotlinContract

/-- An expression as a document writes it. -/
structure ExpressionForm where
  /-- The parameter that is spoken about. -/
  index : Option Int
  /-- Whether the opposite is meant. -/
  negated : Bool
  /-- Whether the parameter is compared with null. -/
  nullCheck : Bool
  /-- The constant. -/
  constant : Option Literal
  /-- The type that the parameter is tested for. -/
  instanceType : Option TypeForm
  /-- The expressions joined by a conjunction. -/
  conjuncts : List ExpressionForm
  /-- The expressions joined by a disjunction. -/
  disjuncts : List ExpressionForm

namespace ExpressionForm

open Schema

/-- A list under its short key or else under its long one. -/
def joined {α : Type} (short long : String) (underShort underLong : Option (Checked (List α))) :
    Checked (List α) :=
  match underShort with
  | some found => part short [] (some found)
  | none => part long [] underLong

mutual

/-- An expression. -/
def read : Json → Checked ExpressionForm
  | .object members =>
    ExpressionForm.mk <$> optional (nullable integer) none "parameter_index" members <*>
      optional boolean false "negated" members <*>
      optional boolean false "null_check" members <*>
      optional (nullable Schema.constant) none "constant_value" members <*>
      optional (nullable TypeForm.read) none "instance_type" members <*>
      joined "and" "and_arguments" (readUnder "and" members)
        (readUnder "and_arguments" members) <*>
      joined "or" "or_arguments" (readUnder "or" members) (readUnder "or_arguments" members)
  | _ => .fault .notAnObject

/-- The expressions under a key, if it is there. -/
def readUnder (key : String) : List (String × Json) → Option (Checked (List ExpressionForm))
  | [] => none
  | (name, value) :: rest =>
    if name = key then some (readList value) else readUnder key rest

/-- A list of expressions. -/
def readList : Json → Checked (List ExpressionForm)
  | .array values => readItems 0 values
  | _ => .fault .notAList

/-- Expressions from a position on. -/
def readItems (position : Nat) : List Json → Checked (List ExpressionForm)
  | [] => .valid []
  | value :: rest =>
    ((read value).under (.item position)).cons (readItems (position + 1) rest)

end

end ExpressionForm

end KotlinContract
