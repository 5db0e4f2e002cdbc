import KotlinContract.Proofs.Json.Members
import KotlinContract.Proofs.Schema.Checked
import Mathlib.Data.List.Forall2
import Mathlib.Data.Option.Basic

/-!
# Readings that come to the same

Two readings come to the same if they have the same value, or both have faults, whichever these are
(`Checked.SameValue`). Forms come to the same if their parts do, so that two objects may be compared
key by key: what is found under a key has to be there in both or in neither, and to come to the
same.
-/
namespace KotlinContract.Schema

variable {α β : Type}

namespace Checked

/-- Two readings have the same value or both have none. -/
def SameValue (left right : Checked α) : Prop := ∀ value, left = .valid value ↔ right = .valid value

namespace SameValue

variable {left right : Checked α}

/-- A reading comes to the same as itself. -/
theorem refl (checked : Checked α) : SameValue checked checked := fun _ => .rfl

/-- The order of the readings does not matter. -/
theorem symm (same : SameValue left right) : SameValue right left := fun value => (same value).symm

/-- Three readings come to the same if they do one after the other. -/
theorem trans {third : Checked α} (first : SameValue left right) (second : SameValue right third) :
    SameValue left third := fun value => (first value).trans (second value)

/-- A function of what is read comes to the same. -/
theorem map (change : α → β) (same : SameValue left right) :
    SameValue (change <$> left) (change <$> right) := by
  intro value
  simp only [map_eq_valid_iff, same _]

/-- A form with one more part comes to the same if both do. -/
theorem seq {form form' : Checked (α → β)} (forms : SameValue form form')
    (parts : SameValue left right) : SameValue (form <*> left) (form' <*> right) := by
  intro value
  simp only [seq_eq_valid_iff, forms _, parts _]

/-- From wherever it is seen, what is read comes to the same. -/
theorem under (step step' : Step) (same : SameValue left right) :
    SameValue (left.under step) (right.under step') := by
  intro value
  rw [under_eq_valid_iff, under_eq_valid_iff, same]

/-- Lists come to the same if their first items and the rest do. -/
theorem cons {tail tail' : Checked (List α)} (heads : SameValue left right)
    (tails : SameValue tail tail') : SameValue (left.cons tail) (right.cons tail') := by
  intro values
  simp only [cons_eq_valid_iff, heads _, tails _]

end SameValue

end Checked

open Checked (SameValue)

/-- What is found under two keys is read alike: nothing, or values that come to the same. -/
def ReadAlike (read : Json → Checked α) : Option Json → Option Json → Prop :=
  Option.Rel fun left right => SameValue (read left) (read right)

variable {read : Json → Checked α} {key : String} {left right : List (String × Json)}

/-- A key that has to be there comes to the same if what is under it is read alike. -/
theorem ReadAlike.required
    (alike : ReadAlike read (Json.member? left key) (Json.member? right key)) :
    SameValue (required read key left) (required read key right) := by
  rw [Schema.required, Schema.required]
  generalize Json.member? left key = found, Json.member? right key = found' at alike
  cases alike with
  | none => exact .refl _
  | some same => exact same.under _ _

/-- A key that may be left out comes to the same if what is under it is read alike. -/
theorem ReadAlike.optional (default : α)
    (alike : ReadAlike read (Json.member? left key) (Json.member? right key)) :
    SameValue (optional read default key left) (optional read default key right) := by
  rw [Schema.optional, Schema.optional]
  generalize Json.member? left key = found, Json.member? right key = found' at alike
  cases alike with
  | none => exact .refl _
  | some same => exact same.under _ _

/-- Values that may be null come to the same if they are null at once and else come to the same. -/
theorem sameValue_nullable {value value' : Json} (null : value = .null ↔ value' = .null)
    (same : SameValue (read value) (read value')) :
    SameValue (nullable read value) (nullable read value') := by
  intro result
  simp only [nullable_eq_valid_iff, same _, null, ne_eq]

/-- Lists come to the same if their items do, place by place. -/
theorem sameValue_list {values values' : List Json}
    (each : List.Forall₂ (fun value value' => SameValue (read value) (read value'))
      values values') :
    SameValue (list read (.array values)) (list read (.array values')) := by
  have along (position : Nat) :
      SameValue (items read position values) (items read position values') := by
    induction each generalizing position with
    | nil => exact .refl _
    | cons first _ hypothesis => exact (first.under _ _).cons (hypothesis (position + 1))
  exact along 0

end KotlinContract.Schema
