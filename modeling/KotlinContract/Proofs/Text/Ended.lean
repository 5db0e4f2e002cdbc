import KotlinContract.Text.Separated

/-!
# Texts one after the other

Texts joined without a separator. They cannot be told from the whole in general, but a text without
a certain character ends where the character follows it: of two texts ended in this way and
followed by anything both the texts and what follows are the same if the whole is, and lines can
be told from their concatenation.
-/
namespace KotlinContract.Text

/-- The characters of texts that are joined without a separator are those of each. -/
theorem toList_join_empty (texts : List String) :
    (join "" texts).toList = texts.flatMap String.toList := by
  fun_induction join "" texts with
  | case1 => rfl
  | case2 text => simp
  | case3 text others _ hypothesis => simp [hypothesis]

/-- Two lists of texts, one after the other, are joined without a separator one after the other. -/
theorem join_empty_append (first second : List String) :
    join "" (first ++ second) = join "" first ++ join "" second := by
  apply String.toList_injective
  rw [String.toList_append, toList_join_empty, toList_join_empty, toList_join_empty,
    List.flatMap_append]

/-- A text and several others after it are joined without a separator one after the other. -/
theorem join_empty_cons (text : String) (others : List String) :
    join "" (text :: others) = text ++ join "" others :=
  join_empty_append [text] others

/-- The first mark tells a text without it from what follows. -/
theorem ended_inj {α : Type} {mark : α} {left right leftRest rightRest : List α}
    (free : mark ∉ left) (free' : mark ∉ right)
    (same : left ++ mark :: leftRest = right ++ mark :: rightRest) :
    left = right ∧ leftRest = rightRest := by
  induction left generalizing right with
  | nil =>
    cases right with
    | nil => exact ⟨rfl, (List.cons.inj same).2⟩
    | cons d others => exact absurd ((List.cons.inj same).1 ▸ List.mem_cons_self) free'
  | cons c rest hypothesis =>
    cases right with
    | nil => exact absurd ((List.cons.inj same).1 ▸ List.mem_cons_self) free
    | cons d others =>
      rw [List.mem_cons, not_or] at free free'
      obtain ⟨first, later⟩ := List.cons.inj same
      obtain ⟨tail, remainder⟩ := hypothesis free.2 free'.2 later
      exact ⟨by rw [first, tail], remainder⟩

/-- Lines, each ended by a mark, can be told from their concatenation. -/
theorem flatMap_ended_inj {α : Type} {mark : α} {left right : List (List α)}
    (free : ∀ line ∈ left, mark ∉ line) (free' : ∀ line ∈ right, mark ∉ line)
    (same : left.flatMap (· ++ [mark]) = right.flatMap (· ++ [mark])) : left = right := by
  induction left generalizing right with
  | nil =>
    cases right with
    | nil => rfl
    | cons line others => simp at same
  | cons line rest hypothesis =>
    cases right with
    | nil => simp at same
    | cons line' others =>
      simp only [List.flatMap_cons, List.append_assoc, List.singleton_append] at same
      rw [List.forall_mem_cons] at free free'
      obtain ⟨first, later⟩ := ended_inj free.1 free'.1 same
      rw [first, hypothesis free.2 free'.2 later]

end KotlinContract.Text
