import KotlinContract.Json.Value
import Mathlib.Data.List.Basic

/-!
# Look-ups of members

Where a key is found among the members of an object, by how the members are put together.
-/
namespace KotlinContract.Json

/-- The first member is found under its own key only. -/
theorem member?_cons (name : String) (value : Json) (rest : List (String × Json)) (key : String) :
    member? ((name, value) :: rest) key = if name = key then some value else member? rest key := by
  rw [member?, List.lookup_cons]
  by_cases same : name = key
  · subst same
    simp
  · have other : (key == name) = false := beq_eq_false_iff_ne.mpr (Ne.symm same)
    rw [other, if_neg same]
    rfl

/-- Members that come first are found first. -/
theorem member?_append (first second : List (String × Json)) (key : String) :
    member? (first ++ second) key = (member? first key).or (member? second key) :=
  List.lookup_append

/-- A member between others is found under its own key, if nothing in front of it is. -/
theorem member?_between (before : List (String × Json)) (name : String) (value : Json)
    (after : List (String × Json)) (key : String) :
    member? (before ++ (name, value) :: after) key =
      (member? before key).or (if name = key then some value else member? after key) := by
  rw [member?_append, member?_cons]

/-- A member between others is not found under another key. -/
theorem member?_between_of_ne {before after : List (String × Json)} {name key : String}
    (value : Json) (other : name ≠ key) :
    member? (before ++ (name, value) :: after) key = member? (before ++ after) key := by
  rw [member?_between, if_neg other, member?_append]

/-- Nothing is found under a key that no member has. -/
theorem member?_eq_none {members : List (String × Json)} {key : String}
    (absent : ∀ member ∈ members, member.1 ≠ key) : member? members key = none := by
  rw [member?, List.lookup_eq_none_iff]
  exact fun member among => by simpa using (absent member among).symm

/-- Something is found under a key that a member has. -/
theorem exists_member?_eq_some {members : List (String × Json)} {key : String}
    (present : key ∈ members.map (·.1)) : ∃ value, member? members key = some value := by
  induction members with
  | nil => contradiction
  | cons first rest hypothesis =>
    obtain ⟨name, value⟩ := first
    rw [member?_cons]
    by_cases same : name = key
    · exact ⟨value, if_pos same⟩
    · rw [if_neg same]
      obtain here | later := List.mem_cons.mp present
      · exact absurd here.symm same
      · exact hypothesis later

/-- A key is found among the members whose keys are kept if it is kept itself. -/
theorem member?_filter (keep : String → Bool) (members : List (String × Json)) (key : String) :
    member? (members.filter fun member => keep member.1) key =
      if keep key then member? members key else none := by
  induction members with
  | nil => simp [member?]
  | cons first rest hypothesis =>
    obtain ⟨name, value⟩ := first
    by_cases same : name = key
    · subst same
      cases kept : keep name <;> simp [kept, hypothesis, member?_cons]
    · cases kept : keep name <;> simp [kept, hypothesis, member?_cons, same]

end KotlinContract.Json
