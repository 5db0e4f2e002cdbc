import KotlinContract.Proofs.Text.Cut
import KotlinContract.Text.CharacterClass

/-!
# Composed texts

Texts are composed of smaller ones by writing them one after the other and by putting them in
parentheses. A property of texts that survives both holds of whatever is composed of texts of
which it holds (`Composable`). Three such properties are used: that every character satisfies a
condition, that the text is balanced, and that it is whole with respect to an operator. The
smallest texts are plain words, of which all three can be told at once.
-/
namespace KotlinContract.Text

/-- A property of texts that survives composition. -/
structure Composable (holds : String → Prop) : Prop where
  /-- It holds of the empty text. -/
  empty : holds ""
  /-- It holds of two texts, one after the other, if it holds of both. -/
  append {left right : String} (first : holds left) (second : holds right) : holds (left ++ right)
  /-- It holds of a text in parentheses if it holds of the text. -/
  parenthesized {text : String} (inside : holds text) : holds (TypeName.parenthesized text)

/-- A composable property holds of joined texts if it holds of each and of the separator. -/
theorem Composable.join {holds : String → Prop} (composable : Composable holds)
    {separator : String} {segments : List String} (between : holds separator)
    (each : ∀ segment ∈ segments, holds segment) : holds (join separator segments) := by
  fun_induction Text.join separator segments with
  | case1 => exact composable.empty
  | case2 segment => exact each segment List.mem_cons_self
  | case3 segment others _ hypothesis =>
    have here := composable.append (each segment List.mem_cons_self) between
    have later := hypothesis fun other found => each other (List.mem_cons_of_mem segment found)
    exact composable.append here later

/-- Every character of the text satisfies the condition. -/
def Every (good : Char → Prop) (text : String) : Prop := ∀ c ∈ text.toList, good c

-- without this instance all characters there are would be tried
instance (good : Char → Prop) [DecidablePred good] (text : String) : Decidable (Every good text) :=
  List.decidableBAll good text.toList

section Every

variable {good : Char → Prop}

theorem Every.append {left right : String} (first : Every good left) (second : Every good right) :
    Every good (left ++ right) := by
  intro c member
  rw [String.toList_append, List.mem_append] at member
  exact member.elim (first c) (second c)

theorem Every.join {separator : String} {segments : List String} (between : Every good separator)
    (each : ∀ segment ∈ segments, Every good segment) : Every good (join separator segments) := by
  fun_induction Text.join separator segments with
  | case1 => simp [Every]
  | case2 segment => exact each segment List.mem_cons_self
  | case3 segment others _ hypothesis =>
    have later := hypothesis fun other found => each other (List.mem_cons_of_mem segment found)
    exact ((each segment List.mem_cons_self).append between).append later

end Every

/-- A text without parentheses is balanced. -/
theorem Balanced.of_every {text : String} (free : Every (fun c => c ≠ '(' ∧ c ≠ ')') text) :
    Balanced text.toList := .of_free free

/-- A condition that parentheses satisfy is composable. -/
theorem composable_every {good : Char → Prop} (opening : good '(') (closing : good ')') :
    Composable (Every good) where
  empty := by simp [Every]
  append first second := first.append second
  parenthesized inside := by
    intro c member
    simp only [TypeName.parenthesized, String.toList_append, List.mem_append] at member
    rcases member with (first | middle) | last
    · rwa [show c = '(' by simpa using first]
    · exact inside c middle
    · rwa [show c = ')' by simpa using last]

/-- Being balanced is composable. -/
theorem composable_balanced : Composable (Balanced ·.toList) where
  empty := .nil
  append first second := by
    rw [String.toList_append]
    exact first.append second
  parenthesized inside := inside.parenthesized

/-- Being whole with respect to an operator is composable. -/
theorem composable_whole (mark : Char) : Composable (Whole mark ·.toList) where
  empty := .nil
  append first second := by
    rw [String.toList_append]
    exact first.append second
  parenthesized inside := .parenthesized inside.balanced

/-- The characters of operators and parentheses. -/
def reserved : List Char := ['(', ')', '&', '|']

/-- A word: a nonempty text without white space and without the characters of operators and
parentheses. -/
def Plain (text : String) : Prop :=
  text ≠ "" ∧ Every (fun c => isBlank c = false ∧ c ∉ reserved) text

instance (text : String) : Decidable (Plain text) :=
  inferInstanceAs (Decidable (text ≠ "" ∧ Every (fun c => isBlank c = false ∧ c ∉ reserved) text))

/-- A plain word has no space in it. -/
theorem Plain.space_not_mem {text : String} (plain : Plain text) : ' ' ∉ text.toList :=
  fun member => absurd (plain.2 ' ' member).1 (by decide)

/-- A plain word is balanced. -/
theorem Plain.balanced {text : String} (plain : Plain text) : Balanced text.toList := by
  apply Balanced.of_free
  intro c member
  have unreserved := (plain.2 c member).2
  simp only [reserved, List.mem_cons, not_or] at unreserved
  exact ⟨unreserved.1, unreserved.2.1⟩

/-- A plain word is whole with respect to every operator. -/
theorem Plain.whole {mark : Char} {text : String} (plain : Plain text) (among : mark ∈ reserved) :
    Whole mark text.toList :=
  .of_balanced plain.balanced fun member => (plain.2 mark member).2 among

/-- A plain word, and whatever begins with one, does not begin with a parenthesis. -/
theorem Plain.head?_append_ne {text : String} (plain : Plain text) (rest : List Char) :
    (text.toList ++ rest).head? ≠ some '(' := by
  cases found : text.toList with
  | nil => exact absurd (String.toList_eq_nil_iff.mp found) plain.1
  | cons c others =>
    have unreserved := (plain.2 c (by rw [found]; exact List.mem_cons_self)).2
    intro first
    rw [List.cons_append, List.head?_cons, Option.some.injEq] at first
    exact unreserved (by rw [first]; decide)

end KotlinContract.Text
