import KotlinContract.Json.Value
import KotlinContract.Schema.Fault

/-!
# Checked values

Reading a form from a JSON value gives the form or all of the faults, in the order in which the
parts of the form are declared. Two checked values are combined by combining the values or by
putting the faults one after the other.
-/
namespace KotlinContract.Schema

/-- A value, or the faults of what was read. -/
inductive Checked (α : Type) where
  /-- The value. -/
  | valid (value : α)
  /-- The faults. -/
  | invalid (faults : List Fault)

namespace Checked

variable {α β : Type}

/-- Apply a function to the value. -/
def map (f : α → β) : Checked α → Checked β
  | .valid value => .valid (f value)
  | .invalid faults => .invalid faults

/-- Apply a checked function to a checked value; the faults of the function come first. -/
def apply : Checked (α → β) → Checked α → Checked β
  | .valid f, .valid value => .valid (f value)
  | .valid _, .invalid faults => .invalid faults
  | .invalid faults, .valid _ => .invalid faults
  | .invalid faults, .invalid more => .invalid (faults ++ more)

instance : Applicative Checked where
  map := map
  pure := .valid
  seq function value := apply function (value ())

/-- A single fault at the place itself. -/
def fault (cause : Cause) : Checked α := .invalid [⟨[], cause⟩]

/-- What was read, seen one step further outside. -/
def under (step : Step) : Checked α → Checked α
  | .valid value => .valid value
  | .invalid faults => .invalid (faults.map (·.under step))

/-- Put a checked value in front of a checked list. -/
def cons (head : Checked α) (tail : Checked (List α)) : Checked (List α) :=
  apply (map List.cons head) tail

end Checked

/-- A key that has to be there. -/
def required {α : Type} (read : Json → Checked α) (key : String)
    (members : List (String × Json)) : Checked α :=
  (match Json.member? members key with
    | some value => read value
    | none => .fault .missing).under (.key key)

/-- A key that may be left out. -/
def optional {α : Type} (read : Json → Checked α) (default : α) (key : String)
    (members : List (String × Json)) : Checked α :=
  match Json.member? members key with
  | some value => (read value).under (.key key)
  | none => .valid default

/-- What was read from a value, or nothing if the value is null. -/
def unlessNull {α : Type} (value : Json) (found : Checked α) : Checked (Option α) :=
  match value with
  | .null => .valid none
  | _ => found.map some

/-- A value that may be null. -/
def nullable {α : Type} (read : Json → Checked α) (value : Json) : Checked (Option α) :=
  unlessNull value (read value)

/-- A part of a form, from the reading of the value under its key if the key is there. -/
def part {α : Type} (key : String) (default : α) (found : Option (Checked α)) : Checked α :=
  found.elim (.valid default) (·.under (.key key))

/-- Items from a position on. -/
def items {α : Type} (read : Json → Checked α) (position : Nat) : List Json → Checked (List α)
  | [] => .valid []
  | item :: rest =>
    ((read item).under (.item position)).cons (items read (position + 1) rest)

/-- A list. -/
def list {α : Type} (read : Json → Checked α) : Json → Checked (List α)
  | .array values => items read 0 values
  | _ => .fault .notAList

/-- Refuse every key that is not among the ones known. -/
def noOtherKeys (known : List String) (members : List (String × Json)) : Checked Unit :=
  match (members.map (·.1)).filter (· ∉ known) with
  | [] => .valid ()
  | others => .invalid (others.map fun key => ⟨[.key key], .unknownKey⟩)

end KotlinContract.Schema
