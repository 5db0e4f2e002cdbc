import KotlinContract.TypeName.Basic

/-!
# Nesting of parentheses

The depth of a position in a text is the number of parentheses that are open there. A text is
balanced if each of its parentheses has its partner in it; then reading it leaves the depth as it
was, and in `x)r` the closing parenthesis after a balanced `x` is determined by the whole
(`Balanced.close_inj`).
-/
namespace KotlinContract.Text

/-- The depth after a character; a closing parenthesis at depth zero has no partner. -/
def nextDepth? (depth : Nat) (c : Char) : Option Nat :=
  if c = '(' then some (depth + 1)
  else if c = ')' then if depth = 0 then none else some (depth - 1)
  else some depth

/-- The depth after a text, unless a closing parenthesis in it has no partner. -/
def depthAfter? (depth : Nat) (text : List Char) : Option Nat := text.foldlM nextDepth? depth

/-- A text in which every parenthesis has its partner. -/
inductive Balanced : List Char → Prop where
  /-- The empty text is balanced. -/
  | nil : Balanced []
  /-- A character other than a parenthesis may stand anywhere. -/
  | char {c : Char} {rest : List Char} (opens : c ≠ '(') (closes : c ≠ ')')
      (after : Balanced rest) : Balanced (c :: rest)
  /-- A pair of parentheses stands around a balanced text. -/
  | group {inner rest : List Char} (inside : Balanced inner) (after : Balanced rest) :
      Balanced ('(' :: (inner ++ ')' :: rest))

/-- A text without parentheses is balanced. -/
theorem Balanced.of_free {text : List Char} (free : ∀ c ∈ text, c ≠ '(' ∧ c ≠ ')') :
    Balanced text := by
  induction text with
  | nil => exact .nil
  | cons c rest hypothesis =>
    have here := free c List.mem_cons_self
    exact .char here.1 here.2 (hypothesis fun d member => free d (List.mem_cons_of_mem c member))

/-- Two balanced texts, one after the other, are balanced. -/
theorem Balanced.append {left right : List Char} (first : Balanced left)
    (second : Balanced right) : Balanced (left ++ right) := by
  induction first with
  | nil => exact second
  | char opens closes _ hypothesis => exact .char opens closes hypothesis
  | group inside _ _ hypothesis =>
    rw [List.cons_append, List.append_assoc, List.cons_append]
    exact .group inside hypothesis

/-- A balanced text in parentheses is balanced. -/
theorem Balanced.parenthesized {text : String} (inside : Balanced text.toList) :
    Balanced (TypeName.parenthesized text).toList := by
  have whole := Balanced.group inside .nil
  simpa [TypeName.parenthesized] using whole

/-- Reading a balanced text leaves the depth as it was. -/
theorem Balanced.depthAfter? {text : List Char} (balanced : Balanced text) (depth : Nat) :
    depthAfter? depth text = some depth := by
  induction balanced generalizing depth with
  | nil => rfl
  | char opens closes _ hypothesis =>
    simp only [Text.depthAfter?, List.foldlM_cons, nextDepth?, if_neg opens, if_neg closes]
    exact hypothesis depth
  | group inside after insideHypothesis afterHypothesis =>
    have within := insideHypothesis (depth + 1)
    have beyond := afterHypothesis depth
    simp only [Text.depthAfter?] at within beyond ⊢
    rw [List.foldlM_cons, nextDepth?, if_pos rfl]
    simp only [Option.bind_eq_bind, Option.bind_some, List.foldlM_append, within,
      List.foldlM_cons]
    simpa [nextDepth?] using beyond

/-- The closing parenthesis after a balanced text is where it is in every reading. -/
theorem Balanced.close_inj {left right leftRest rightRest : List Char} (first : Balanced left)
    (second : Balanced right) (same : left ++ ')' :: leftRest = right ++ ')' :: rightRest) :
    left = right ∧ leftRest = rightRest := by
  induction first generalizing right leftRest rightRest with
  | nil =>
    cases second with
    | nil => simpa using same
    | char opens closes _ => exact absurd (List.cons.inj same).1.symm closes
    | group inside after => simp at same
  | char opens closes _ hypothesis =>
    cases second with
    | nil => exact absurd (List.cons.inj same).1 closes
    | char _ _ after =>
      obtain ⟨rfl, rest⟩ := List.cons.inj same
      obtain ⟨rfl, rfl⟩ := hypothesis after rest
      exact ⟨rfl, rfl⟩
    | group inside after => exact absurd (List.cons.inj same).1 opens
  | group inside _ insideHypothesis afterHypothesis =>
    cases second with
    | nil => simp at same
    | char opens closes _ => exact absurd (List.cons.inj same).1.symm opens
    | group otherInside otherAfter =>
      simp only [List.cons_append, List.append_assoc, List.cons.injEq, true_and] at same
      obtain ⟨rfl, later⟩ := insideHypothesis otherInside same
      obtain ⟨rfl, rfl⟩ := afterHypothesis otherAfter later
      exact ⟨rfl, rfl⟩

/-- What stands between the parentheses of a text that is one pair of parentheses with the rest
between them. -/
def enclosed? : List Char → Option (List Char)
  | [] => none
  | c :: rest =>
    if c = '(' ∧ rest.getLast? = some ')' ∧ depthAfter? 0 rest.dropLast = some 0 then
      some rest.dropLast
    else none

/-- A balanced text in parentheses is enclosed in them. -/
theorem enclosed?_group {inner : List Char} (balanced : Balanced inner) :
    enclosed? ('(' :: (inner ++ [')'])) = some inner := by
  simp [enclosed?, balanced.depthAfter? 0]

/-- A text that does not begin with a parenthesis is not enclosed in parentheses. -/
theorem enclosed?_eq_none {text : List Char} (first : text.head? ≠ some '(') :
    enclosed? text = none := by
  cases text with
  | nil => rfl
  | cons c rest =>
    have other : c ≠ '(' := by simpa using first
    simp [enclosed?, other]

/-- What is enclosed in parentheses is shorter than the whole. -/
theorem length_lt_of_enclosed? {text inner : List Char} (found : enclosed? text = some inner) :
    inner.length < text.length := by
  cases text with
  | nil => simp [enclosed?] at found
  | cons c rest =>
    simp only [enclosed?] at found
    split at found
    · cases found
      rw [List.length_dropLast, List.length_cons]
      omega
    · contradiction

end KotlinContract.Text
