import KotlinContract.Schema.Scalar
import KotlinContract.TypeName.Guess

/-!
# Written types

A document writes a type as a shorthand text, as an object that names a class, or as an object
that describes a function type. An object is tried as a class and as a function type; where
neither fits, the faults of all three forms are reported. Both objects refuse keys that they do
not know.
-/
namespace KotlinContract

/-- A type as a document writes it. -/
inductive TypeForm where
  /-- A dotted class name, possibly with a question mark. -/
  | shorthand (text : String)
  /-- A class by its dotted name. -/
  | classForm (name : String) (nullable : Bool)
  /-- A function type. -/
  | functionForm (parameters : List TypeForm) (returns receiver : Option TypeForm)
      (nullable : Bool)

namespace TypeForm

open Schema

/-- The keys of a class. -/
def classKeys : List String := ["class_name", "nullable"]

/-- The keys of a function type. -/
def functionKeys : List String := ["parameters", "returns", "receiver", "nullable"]

/-- A class object. -/
def readClass (members : List (String × Json)) : Checked TypeForm :=
  classForm <$> required text "class_name" members <*>
    optional boolean false "nullable" members <* noOtherKeys classKeys members

/-- Choose between the readings of a value that is not a text: the one without faults, or the
faults of all. -/
def choose (asClass asFunction : Checked TypeForm) : Checked TypeForm :=
  match asClass, asFunction with
  | .valid form, _ => .valid form
  | _, .valid form => .valid form
  | asClass, asFunction =>
    (Checked.fault (α := Unit) .notAText).under (.key "str") *>
      asClass.under (.key "ClassTypeDocument") *>
      asFunction.under (.key "LambdaTypeDocument")

mutual

/-- A type. -/
def read : Json → Checked TypeForm
  | .text value => .valid (.shorthand value)
  | .object members =>
    choose (readClass members)
      (functionForm <$> part "parameters" [] (readListUnder "parameters" members) <*>
        part "returns" none (readTypeUnder "returns" members) <*>
        part "receiver" none (readTypeUnder "receiver" members) <*>
        optional boolean false "nullable" members <* noOtherKeys functionKeys members)
  | _ => choose (.fault .notAnObject) (.fault .notAnObject)

/-- The types under a key, if it is there. -/
def readListUnder (key : String) : List (String × Json) → Option (Checked (List TypeForm))
  | [] => none
  | (name, value) :: rest =>
    if name = key then some (readList value) else readListUnder key rest

/-- The type under a key, if it is there; it may be null. -/
def readTypeUnder (key : String) : List (String × Json) → Option (Checked (Option TypeForm))
  | [] => none
  | (name, value) :: rest =>
    if name = key then some (unlessNull value (read value)) else readTypeUnder key rest

/-- A list of types. -/
def readList : Json → Checked (List TypeForm)
  | .array values => readItems 0 values
  | _ => .fault .notAList

/-- Types from a position on. -/
def readItems (position : Nat) : List Json → Checked (List TypeForm)
  | [] => .valid []
  | value :: rest =>
    ((read value).under (.item position)).cons (readItems (position + 1) rest)

end

end TypeForm

end KotlinContract
