import KotlinContract.Proofs.Text.Nesting

/-!
# Cutting outside parentheses

A text is cut at every occurrence of an operator at depth zero. A text is whole with respect to
the character of an operator if it is balanced and the character stands in it only between
parentheses; no cut falls into such a text, so whole texts joined by the operator are cut into
the same texts (`cut_joined`). The character also tells such a text from what follows it, so whole
texts joined by any separator that begins with it are told from the result (`joinChars_inj`).
-/
namespace KotlinContract.Text

/-- An operator: a character twice, with a space on either side. -/
def operator (mark : Char) : List Char := [' ', mark, mark, ' ']

/-- The pieces of a text from a position of some depth on, after `skip` more characters of the
operator at which it was cut. -/
def cutFrom (mark : Char) : (skip depth : Nat) → List Char → List (List Char)
  | _, _, [] => [[]]
  | skip + 1, depth, _ :: rest => cutFrom mark skip depth rest
  | 0, depth, c :: rest =>
    if depth = 0 ∧ operator mark <+: c :: rest then [] :: cutFrom mark 3 0 rest
    else (cutFrom mark 0 ((nextDepth? depth c).getD 0) rest).modifyHead (c :: ·)

/-- The pieces of a text between the operators outside parentheses. -/
def cut (mark : Char) (text : List Char) : List (List Char) := cutFrom mark 0 0 text

/-- A character at which no operator outside parentheses begins stays with what follows it. -/
theorem cutFrom_cons {mark : Char} {depth next : Nat} {c : Char} {rest : List Char}
    (inner : depth ≠ 0 ∨ ¬ operator mark <+: c :: rest) (step : nextDepth? depth c = some next) :
    cutFrom mark 0 depth (c :: rest) = (cutFrom mark 0 next rest).modifyHead (c :: ·) := by
  have apart : ¬ (depth = 0 ∧ operator mark <+: c :: rest) := by
    rintro ⟨top, begins⟩
    exact inner.elim (· top) (· begins)
  rw [cutFrom, if_neg apart, step, Option.getD_some]

/-- An operator outside parentheses is a cut. -/
theorem cut_operator (mark : Char) (rest : List Char) :
    cut mark (operator mark ++ rest) = [] :: cut mark rest := by
  have begins : operator mark <+: ' ' :: ([mark, mark, ' '] ++ rest) := ⟨rest, rfl⟩
  calc
    cut mark (operator mark ++ rest) = cutFrom mark 0 0 (' ' :: ([mark, mark, ' '] ++ rest)) := rfl
    _ = [] :: cutFrom mark 3 0 ([mark, mark, ' '] ++ rest) := by
      rw [cutFrom, if_pos ⟨rfl, begins⟩]
    _ = [] :: cut mark rest := rfl

/-- Between parentheses a balanced text is not cut. -/
theorem cutFrom_balanced {mark : Char} {text : List Char} (balanced : Balanced text)
    (depth : Nat) (rest : List Char) :
    cutFrom mark 0 (depth + 1) (text ++ rest) =
      (cutFrom mark 0 (depth + 1) rest).modifyHead (text ++ ·) := by
  induction balanced generalizing depth rest with
  | nil =>
    rw [List.nil_append]
    cases cutFrom mark 0 (depth + 1) rest <;> rfl
  | @char c later opens closes _ hypothesis =>
    have step : nextDepth? (depth + 1) c = some (depth + 1) := by
      simp [nextDepth?, opens, closes]
    rw [List.cons_append, cutFrom_cons (.inl (Nat.succ_ne_zero depth)) step, hypothesis,
      List.modifyHead_modifyHead]
    rfl
  | @group inner later _ _ insideHypothesis afterHypothesis =>
    have opening : nextDepth? (depth + 1) '(' = some (depth + 1 + 1) := by simp [nextDepth?]
    have closing : nextDepth? (depth + 1 + 1) ')' = some (depth + 1) := by simp [nextDepth?]
    rw [List.cons_append, List.append_assoc, List.cons_append,
      cutFrom_cons (.inl (Nat.succ_ne_zero depth)) opening, insideHypothesis,
      cutFrom_cons (.inl (Nat.succ_ne_zero _)) closing, afterHypothesis]
    simp only [List.modifyHead_modifyHead]
    congr 1
    funext piece
    simp

/-- A balanced text in which a character stands between parentheses only. -/
inductive Whole (mark : Char) : List Char → Prop where
  /-- The empty text is whole. -/
  | nil : Whole mark []
  /-- Any other character than a parenthesis and the mark may stand anywhere. -/
  | char {c : Char} {rest : List Char} (unmarked : c ≠ mark) (opens : c ≠ '(') (closes : c ≠ ')')
      (after : Whole mark rest) : Whole mark (c :: rest)
  /-- A pair of parentheses stands around a balanced text, in which the mark may stand too. -/
  | group {inner rest : List Char} (inside : Balanced inner) (after : Whole mark rest) :
      Whole mark ('(' :: (inner ++ ')' :: rest))

/-- A balanced text without the mark is whole. -/
theorem Whole.of_balanced {mark : Char} {text : List Char} (balanced : Balanced text)
    (absent : mark ∉ text) : Whole mark text := by
  induction balanced with
  | nil => exact .nil
  | char opens closes _ hypothesis =>
    rw [List.mem_cons, not_or] at absent
    exact .char (Ne.symm absent.1) opens closes (hypothesis absent.2)
  | group inside _ _ hypothesis =>
    simp only [List.mem_cons, List.mem_append, not_or] at absent
    exact .group inside (hypothesis absent.2.2.2)

/-- A whole text is balanced. -/
theorem Whole.balanced {mark : Char} {text : List Char} (whole : Whole mark text) :
    Balanced text := by
  induction whole with
  | nil => exact .nil
  | char _ opens closes _ hypothesis => exact .char opens closes hypothesis
  | group inside _ hypothesis => exact .group inside hypothesis

/-- A balanced text in parentheses is whole. -/
theorem Whole.parenthesized {mark : Char} {text : String} (inside : Balanced text.toList) :
    Whole mark (TypeName.parenthesized text).toList := by
  have whole : Whole mark ('(' :: (text.toList ++ [')'])) := .group inside .nil
  simpa [TypeName.parenthesized] using whole

/-- Two whole texts, one after the other, are whole. -/
theorem Whole.append {mark : Char} {left right : List Char} (first : Whole mark left)
    (second : Whole mark right) : Whole mark (left ++ right) := by
  induction first with
  | nil => exact second
  | char unmarked opens closes _ hypothesis => exact .char unmarked opens closes hypothesis
  | group inside _ hypothesis =>
    rw [List.cons_append, List.append_assoc, List.cons_append]
    exact .group inside hypothesis

/-- Whole texts, one after the other, are whole. -/
theorem Whole.flatMap {mark : Char} {α : Type} {items : List α} {text : α → List Char}
    (each : ∀ item ∈ items, Whole mark (text item)) : Whole mark (items.flatMap text) := by
  induction items with
  | nil => exact .nil
  | cons item rest hypothesis =>
    rw [List.flatMap_cons]
    exact (each item List.mem_cons_self).append
      (hypothesis fun other member => each other (List.mem_cons_of_mem item member))

/-- A whole text does not begin with the mark. -/
theorem Whole.head?_ne {mark : Char} {text : List Char} (whole : Whole mark text)
    (opens : mark ≠ '(') : text.head? ≠ some mark := by
  cases whole with
  | nil => simp
  | char unmarked _ _ _ => simpa using unmarked
  | group _ _ => simpa using Ne.symm opens

/-- A whole text is not cut, nor is it cut from what follows it in any other place than where
that text is cut. -/
theorem cut_whole {mark : Char} {text : List Char} (whole : Whole mark text)
    (opens : mark ≠ '(') (rest : List Char) (gap : rest.head? ≠ some mark) :
    cut mark (text ++ rest) = (cut mark rest).modifyHead (text ++ ·) := by
  induction whole with
  | nil =>
    rw [List.nil_append]
    cases cut mark rest <;> rfl
  | @char c later unmarked opens' closes after hypothesis =>
    -- an operator that began here would have the mark next, where the later text begins
    have apart : ¬ operator mark <+: c :: (later ++ rest) := by
      intro begins
      obtain ⟨tail, same⟩ := begins
      have next : (later ++ rest).head? = some mark := by
        rw [← (List.cons.inj same).2]
        rfl
      cases later with
      | nil => exact gap next
      | cons d others => exact after.head?_ne opens next
    have step : nextDepth? 0 c = some 0 := by simp [nextDepth?, opens', closes]
    rw [List.cons_append, cut, cutFrom_cons (.inr apart) step, ← cut, hypothesis,
      List.modifyHead_modifyHead]
    rfl
  | @group inner later inside _ hypothesis =>
    have apart : ¬ operator mark <+: '(' :: (inner ++ ')' :: (later ++ rest)) := by
      intro begins
      obtain ⟨tail, same⟩ := begins
      exact absurd (List.cons.inj same).1 (by decide)
    have opening : nextDepth? 0 '(' = some 1 := by decide
    have closing : nextDepth? 1 ')' = some 0 := by decide
    rw [List.cons_append, List.append_assoc, List.cons_append, cut,
      cutFrom_cons (.inr apart) opening, cutFrom_balanced inside 0,
      cutFrom_cons (.inl Nat.one_ne_zero) closing, ← cut, hypothesis]
    simp only [List.modifyHead_modifyHead]
    congr 1
    funext piece
    simp

/-- Whole texts joined by the operator are cut into these texts. -/
theorem cut_joined {mark : Char} {first : List Char} {others : List (List Char)}
    (whole : Whole mark first) (each : ∀ text ∈ others, Whole mark text) (opens : mark ≠ '(')
    (space : mark ≠ ' ') :
    cut mark (first ++ others.flatMap (operator mark ++ ·)) = first :: others := by
  induction others generalizing first with
  | nil =>
    rw [List.flatMap_nil, cut_whole whole opens [] (by simp)]
    simp [cut, cutFrom]
  | cons second later hypothesis =>
    have gap : ((second :: later).flatMap (operator mark ++ ·)).head? ≠ some mark := by
      simpa [operator] using Ne.symm space
    rw [cut_whole whole opens _ gap, List.flatMap_cons, List.append_assoc, cut_operator,
      hypothesis (each second List.mem_cons_self)
        fun text member => each text (List.mem_cons_of_mem second member)]
    simp

section Ended

variable {mark : Char} (opens : mark ≠ '(')

include opens

/-- The mark after a whole text is where it is in every reading. -/
theorem Whole.ended_inj {left right leftRest rightRest : List Char} (first : Whole mark left)
    (second : Whole mark right) (same : left ++ mark :: leftRest = right ++ mark :: rightRest) :
    left = right ∧ leftRest = rightRest := by
  induction first generalizing right with
  | nil =>
    cases second with
    | nil => exact ⟨rfl, (List.cons.inj same).2⟩
    | char unmarked _ _ _ => exact absurd (List.cons.inj same).1.symm unmarked
    | group _ _ => exact absurd (List.cons.inj same).1 opens
  | char unmarked begins _ _ hypothesis =>
    cases second with
    | nil => exact absurd (List.cons.inj same).1 unmarked
    | char _ _ _ after =>
      obtain ⟨rfl, later⟩ := List.cons.inj same
      obtain ⟨rfl, rest⟩ := hypothesis after later
      exact ⟨rfl, rest⟩
    | group _ _ => exact absurd (List.cons.inj same).1 begins
  | group inside _ hypothesis =>
    cases second with
    | nil => exact absurd (List.cons.inj same).1.symm opens
    | char _ begins _ _ => exact absurd (List.cons.inj same).1.symm begins
    | group inside' after =>
      simp only [List.cons_append, List.append_assoc, List.cons.injEq, true_and] at same
      obtain ⟨rfl, later⟩ := inside.close_inj inside' same
      obtain ⟨rfl, rest⟩ := hypothesis after later
      exact ⟨rfl, rest⟩

/-- A text with the mark after a whole text is not whole. -/
theorem Whole.not_whole_append {left : List Char} (first : Whole mark left) (rest : List Char) :
    ¬ Whole mark (left ++ mark :: rest) := by
  intro whole
  have same : left ++ mark :: (rest ++ [mark]) = (left ++ mark :: rest) ++ mark :: [] := by simp
  have longer := congrArg List.length (first.ended_inj opens whole same).1
  rw [List.length_append, List.length_cons] at longer
  omega

/-- Whole texts, joined by a separator that begins with the mark, can be told from the result. -/
theorem joinChars_inj {tail : List Char} {first second : List (List Char)}
    (whole : ∀ segment ∈ first, Whole mark segment ∧ segment ≠ [])
    (whole' : ∀ segment ∈ second, Whole mark segment ∧ segment ≠ [])
    (same : joinChars (mark :: tail) first = joinChars (mark :: tail) second) :
    first = second := by
  have begins {segment : List Char} {others : List (List Char)} (nonempty : segment ≠ []) :
      joinChars (mark :: tail) (segment :: others) ≠ [] := by
    cases others <;> simp [joinChars, nonempty]
  induction first generalizing second with
  | nil =>
    cases second with
    | nil => rfl
    | cons segment others => exact absurd same.symm (begins (whole' segment List.mem_cons_self).2)
  | cons segment rest hypothesis =>
    obtain ⟨here, later⟩ := List.forall_mem_cons.mp whole
    cases second with
    | nil => exact absurd same (begins here.2)
    | cons segment' rest' =>
      obtain ⟨here', later'⟩ := List.forall_mem_cons.mp whole'
      -- where only one of the lists goes on, its first mark would stand in a text of the other
      by_cases ends : rest = [] <;> by_cases ends' : rest' = []
      · subst ends ends'
        rw [show segment = segment' from same]
      · subst ends
        rw [joinChars_cons _ _ ends', List.append_assoc] at same
        exact absurd ((show segment = _ from same) ▸ here.1) (here'.1.not_whole_append opens _)
      · subst ends'
        rw [joinChars_cons _ _ ends, List.append_assoc] at same
        exact absurd ((show segment' = _ from same.symm) ▸ here'.1)
          (here.1.not_whole_append opens _)
      · rw [joinChars_cons _ _ ends, joinChars_cons _ _ ends', List.append_assoc,
          List.append_assoc] at same
        obtain ⟨heads, tails⟩ := here.1.ended_inj opens here'.1 same
        rw [heads, hypothesis later later' (List.append_cancel_left tails)]

end Ended

/-- No piece of a text is longer than the text. -/
theorem length_le_of_mem_cutFrom {mark : Char} {piece : List Char} :
    ∀ {skip depth : Nat} {text : List Char}, piece ∈ cutFrom mark skip depth text →
      piece.length ≤ text.length := by
  intro skip depth text
  fun_induction cutFrom mark skip depth text generalizing piece with
  | case1 => simp
  | case2 skip depth c rest hypothesis =>
    intro member
    exact Nat.le_succ_of_le (hypothesis member)
  | case3 depth c rest begins hypothesis =>
    intro member
    rcases List.mem_cons.mp member with rfl | later
    · exact Nat.zero_le _
    · exact Nat.le_succ_of_le (hypothesis later)
  | case4 depth c rest apart hypothesis =>
    intro member
    cases found : cutFrom mark 0 ((nextDepth? depth c).getD 0) rest with
    | nil => simp [found] at member
    | cons head others =>
      rw [found, List.modifyHead_cons, List.mem_cons] at member
      rcases member with rfl | later
      · exact Nat.succ_le_succ (hypothesis (by rw [found]; exact List.mem_cons_self))
      · exact Nat.le_succ_of_le (hypothesis (by rw [found]; exact List.mem_cons_of_mem _ later))

end KotlinContract.Text
