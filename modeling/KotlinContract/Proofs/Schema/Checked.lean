import KotlinContract.Schema.Checked

/-!
# Readings without faults

A form is read without faults if each of its parts is, and a part under a key is if the value under
that key is. The lemmas are stated so that a reading of several parts is taken apart from its end.
-/
namespace KotlinContract.Schema

variable {α β : Type}

namespace Checked

/-- A function of what was read has a value if what was read has one. -/
theorem map_eq_valid_iff {change : α → β} {checked : Checked α} {result : β} :
    change <$> checked = .valid result ↔
      ∃ value, checked = .valid value ∧ change value = result := by
  change Checked.map change checked = _ ↔ _
  cases checked <;> simp [Checked.map]

/-- A form with one more part is read without faults if both are. -/
theorem seq_eq_valid_iff {form : Checked (α → β)} {last : Checked α} {result : β} :
    form <*> last = .valid result ↔
      ∃ change value, form = .valid change ∧ last = .valid value ∧ change value = result := by
  change Checked.apply form last = _ ↔ _
  cases form <;> cases last <;> simp [Checked.apply]

/-- A check beside a form leaves the form as it is. -/
theorem seqLeft_eq_valid_iff {form : Checked α} {check : Checked β} {value : α} :
    form <* check = .valid value ↔ form = .valid value ∧ ∃ passed, check = .valid passed := by
  change Function.const β <$> form <*> check = _ ↔ _
  rw [seq_eq_valid_iff]
  simp only [map_eq_valid_iff]
  constructor
  · rintro ⟨_, passed, ⟨value, read, rfl⟩, checked, rfl⟩
    exact ⟨read, passed, checked⟩
  · rintro ⟨read, passed, checked⟩
    exact ⟨_, passed, ⟨value, read, rfl⟩, checked, rfl⟩

/-- A list is read without faults if its first item and the rest are. -/
theorem cons_eq_valid_iff {head : Checked α} {tail : Checked (List α)} {values : List α} :
    head.cons tail = .valid values ↔
      ∃ first rest, head = .valid first ∧ tail = .valid rest ∧ first :: rest = values := by
  cases head <;> cases tail <;> simp [Checked.cons, Checked.map, Checked.apply]

/-- What was read has a value if it has one seen from further outside. -/
theorem under_eq_valid_iff {step : Step} {checked : Checked α} {value : α} :
    checked.under step = .valid value ↔ checked = .valid value := by
  cases checked <;> simp [Checked.under]

end Checked

variable {read : Json → Checked α} {key : String} {members : List (String × Json)}

/-- A key that has to be there is read without faults if it is there and its value is. -/
theorem required_eq_valid_iff {value : α} :
    required read key members = .valid value ↔
      ∃ found, Json.member? members key = some found ∧ read found = .valid value := by
  rw [required, Checked.under_eq_valid_iff]
  cases Json.member? members key <;> simp [Checked.fault]

/-- A key that may be left out is read without faults if it is, or else its value is. -/
theorem optional_eq_valid_iff {default value : α} :
    optional read default key members = .valid value ↔
      Json.member? members key = none ∧ default = value ∨
        ∃ found, Json.member? members key = some found ∧ read found = .valid value := by
  rw [optional]
  cases Json.member? members key <;> simp [Checked.under_eq_valid_iff]

/-- There is no key besides those known if every key is one of them. -/
theorem noOtherKeys_eq_valid_iff {known : List String} {members : List (String × Json)} :
    (∃ passed, noOtherKeys known members = .valid passed) ↔
      ∀ key ∈ members.map (·.1), key ∈ known := by
  rw [noOtherKeys]
  cases others : (members.map (·.1)).filter (· ∉ known) with
  | nil => simpa [List.filter_eq_nil_iff] using others
  | cons key rest =>
    refine iff_of_false (by simp) fun every => ?_
    have other := List.mem_filter.mp (others ▸ List.mem_cons_self (a := key) (l := rest))
    simp [every key other.1] at other

/-- A value that may be null is read without faults if it is null, or else it is read. -/
theorem nullable_eq_valid_iff {value : Json} {result : Option α} :
    nullable read value = .valid result ↔
      value = .null ∧ result = none ∨
        value ≠ .null ∧ ∃ found, read value = .valid found ∧ some found = result := by
  by_cases null : value = .null
  · subst null
    simp [nullable, unlessNull, eq_comm]
  · have passed : nullable read value = some <$> read value := by
      cases value with
      | null => contradiction
      | _ => rfl
    rw [passed, Checked.map_eq_valid_iff]
    simp [null]

end KotlinContract.Schema
