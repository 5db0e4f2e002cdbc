import KotlinContract.Proofs.Expression.Tokens

/-!
# Templates

A template is a text that speaks about parameters before their tokens are known: a list of
characters and of places for tokens. Where no other part of it can be taken for a placeholder, a
template can be told from the text that it has with placeholders in these places
(`Template.spell_inj`), and so can the text that it has with any other tokens. Legible templates are
put together from marks and from words that hold no placeholder, with a mark after each word and
each place.
-/
namespace KotlinContract

/-- A piece of a template. -/
inductive Piece where
  /-- A character as it is. -/
  | literal (c : Char)
  /-- The place for the token of a parameter. -/
  | parameter (index : Nat)
  deriving DecidableEq

namespace Piece

/-- The characters of a piece. -/
def chars (token : Nat → String) : Piece → List Char
  | .literal c => [c]
  | .parameter index => (token index).toList

/-- The parameter that a piece speaks about. -/
def index? : Piece → Option Nat
  | .literal _ => none
  | .parameter index => some index

end Piece

namespace Template

/-- The template of a text that speaks about no parameter. -/
def ofText (text : String) : List Piece := text.toList.map .literal

/-- The characters of a template. -/
def spell (token : Nat → String) (template : List Piece) : List Char :=
  template.flatMap (Piece.chars token)

/-- The parameters that a template speaks about, in the order in which they occur there. -/
def parameters (template : List Piece) : List Nat := template.filterMap Piece.index?

@[simp] theorem spell_nil (token : Nat → String) : spell token [] = [] := rfl

@[simp] theorem spell_literal (token : Nat → String) (c : Char) (rest : List Piece) :
    spell token (.literal c :: rest) = c :: spell token rest := rfl

@[simp] theorem spell_parameter (token : Nat → String) (index : Nat) (rest : List Piece) :
    spell token (.parameter index :: rest) = (token index).toList ++ spell token rest := rfl

@[simp] theorem spell_append (token : Nat → String) (left right : List Piece) :
    spell token (left ++ right) = spell token left ++ spell token right :=
  List.flatMap_append

@[simp] theorem spell_map_literal (token : Nat → String) (text : List Char) :
    spell token (text.map .literal) = text := by
  rw [spell, List.flatMap_map]
  exact List.flatMap_singleton' text

@[simp] theorem spell_ofText (token : Nat → String) (text : String) :
    spell token (ofText text) = text.toList :=
  spell_map_literal token text.toList

/-- The template of two texts is that of one and then of the other. -/
theorem ofText_append (left right : String) :
    ofText (left ++ right) = ofText left ++ ofText right := by
  rw [ofText, String.toList_append, List.map_append]
  rfl

/-- A character of a text is a piece of its template. -/
@[simp] theorem literal_mem_ofText {c : Char} {text : String} :
    .literal c ∈ ofText text ↔ c ∈ text.toList := by
  simp [ofText]

@[simp] theorem parameters_nil : parameters [] = [] := rfl

@[simp] theorem parameters_literal (c : Char) (rest : List Piece) :
    parameters (.literal c :: rest) = parameters rest := rfl

@[simp] theorem parameters_parameter (index : Nat) (rest : List Piece) :
    parameters (.parameter index :: rest) = index :: parameters rest := rfl

@[simp] theorem parameters_append (left right : List Piece) :
    parameters (left ++ right) = parameters left ++ parameters right :=
  List.filterMap_append

@[simp] theorem parameters_ofText (text : String) : parameters (ofText text) = [] := by
  simp [parameters, ofText, Piece.index?]

/-- The reference to the receiver of a function that is not known yet. -/
def reference : List Char := (placeholder 0).toList

/-- Whether a text begins with what can be taken for a placeholder: the reference to a receiver, or
a dollar sign and a digit. -/
def Opens (text : List Char) : Prop :=
  reference <+: text ∨ text.head? = some '$' ∧ text.tail.head?.any Char.isDigit = true

instance (text : List Char) : Decidable (Opens text) :=
  inferInstanceAs (Decidable (_ ∨ _ ∧ _))

/-- Whether a text goes on with neither a digit nor a character of the reference to a receiver, so
that it does not complete a placeholder that begins before it. -/
def Apart (text : List Char) : Prop := ∀ c ∈ text.head?, c.isDigit = false ∧ c ∉ reference

instance (text : List Char) : Decidable (Apart text) :=
  match text with
  | [] => isTrue (by simp [Apart])
  | c :: _ => decidable_of_iff (c.isDigit = false ∧ c ∉ reference) (by simp [Apart])

/-- Whether nothing but the places for tokens can be taken for a placeholder, and each of these is
told from what follows it. -/
def Legible : List Piece → Prop
  | [] => True
  | .literal c :: rest => ¬ Opens (c :: spell placeholder rest) ∧ Legible rest
  | .parameter _ :: rest => Apart (spell placeholder rest) ∧ Legible rest

instance decideLegible : (template : List Piece) → Decidable (Legible template)
  | [] => isTrue trivial
  | .literal c :: rest =>
    have := decideLegible rest
    inferInstanceAs (Decidable (¬ Opens (c :: spell placeholder rest) ∧ Legible rest))
  | .parameter _ :: rest =>
    have := decideLegible rest
    inferInstanceAs (Decidable (Apart (spell placeholder rest) ∧ Legible rest))

/-- A numbered placeholder is a dollar sign and the digits of the number. -/
theorem toList_placeholder {index : Nat} (numbered : index ≠ 0) :
    (placeholder index).toList = '$' :: Nat.toDigits 10 index := by
  rw [placeholder, if_neg numbered, String.toList_append, Text.toList_toString]
  rfl

/-- All characters of a number are digits. -/
theorem isDigit_of_mem_toDigits {number : Nat} {c : Char} (member : c ∈ Nat.toDigits 10 number) :
    c.isDigit = true :=
  Nat.isDigit_of_mem_toDigits (by decide) (by decide) member

/-- A placeholder can be taken for one. -/
theorem opens_placeholder (index : Nat) (rest : List Char) :
    Opens ((placeholder index).toList ++ rest) := by
  by_cases receiver : index = 0
  · subst receiver
    exact .inl (List.prefix_append _ _)
  · right
    rw [toList_placeholder receiver]
    refine ⟨rfl, ?_⟩
    cases digits : Nat.toDigits 10 index with
    | nil => exact absurd digits Nat.toDigits_ne_nil
    | cons c others =>
      have first : c ∈ Nat.toDigits 10 index := by simp [digits]
      exact isDigit_of_mem_toDigits first

/-- Digits are told from what follows them, if that does not go on with a digit. -/
theorem digits_append_inj {left right : List Char} (digits : ∀ c ∈ left, c.isDigit = true)
    (digits' : ∀ c ∈ right, c.isDigit = true) {leftRest rightRest : List Char}
    (apart : Apart leftRest) (apart' : Apart rightRest)
    (same : left ++ leftRest = right ++ rightRest) : left = right ∧ leftRest = rightRest := by
  have stops {rest : List Char} (apart : Apart rest) : rest.takeWhile Char.isDigit = [] := by
    cases rest with
    | nil => rfl
    | cons c others => simp [(apart c rfl).1]
  have front := congrArg (List.takeWhile Char.isDigit) same
  rw [List.takeWhile_append_of_pos digits, List.takeWhile_append_of_pos digits', stops apart,
    stops apart', List.append_nil, List.append_nil] at front
  subst front
  exact ⟨rfl, List.append_cancel_left same⟩

/-- A placeholder is told from what follows it. -/
theorem placeholder_append_inj {left right : Nat} {leftRest rightRest : List Char}
    (apart : Apart leftRest) (apart' : Apart rightRest)
    (same : (placeholder left).toList ++ leftRest = (placeholder right).toList ++ rightRest) :
    left = right ∧ leftRest = rightRest := by
  -- a reference to the receiver begins with another character than a numbered placeholder
  by_cases receiver : left = 0 <;> by_cases receiver' : right = 0
  · subst receiver receiver'
    exact ⟨rfl, List.append_cancel_left same⟩
  · rw [toList_placeholder receiver', receiver] at same
    exact absurd (List.cons.inj same).1 (by decide)
  · rw [toList_placeholder receiver, receiver'] at same
    exact absurd (List.cons.inj same).1 (by decide)
  · rw [toList_placeholder receiver, toList_placeholder receiver', List.cons_append,
      List.cons_append] at same
    obtain ⟨digits, rest⟩ := digits_append_inj (fun _ => isDigit_of_mem_toDigits)
      (fun _ => isDigit_of_mem_toDigits) apart apart' (List.cons.inj same).2
    have numbers := congrArg (fun digits => Nat.ofDigitChars 10 digits 0) digits
    exact ⟨by simpa only [Nat.ofDigitChars_ten_toDigits] using numbers, rest⟩

/-- A legible template is told from its text with placeholders. -/
theorem spell_inj {left right : List Piece} (legible : Legible left) (legible' : Legible right)
    (same : spell placeholder left = spell placeholder right) : left = right := by
  have empty {index : Nat} {rest : List Char} : (placeholder index).toList ++ rest ≠ [] := by
    intro nothing
    have opened := opens_placeholder index rest
    rw [nothing] at opened
    exact absurd opened (by decide)
  induction left generalizing right with
  | nil =>
    rcases right with _ | ⟨c | index, rest⟩
    · rfl
    · contradiction
    · exact absurd same.symm empty
  | cons piece rest hypothesis =>
    -- where a character stands beside a place for a token, it would begin a placeholder
    rcases piece with c | index <;> rcases right with _ | ⟨c' | index', rest'⟩
    · contradiction
    · obtain ⟨first, later⟩ := List.cons.inj same
      rw [first, hypothesis legible.2 legible'.2 later]
    · rw [spell_literal, spell_parameter] at same
      exact absurd (same ▸ opens_placeholder index' _) legible.1
    · exact absurd same empty
    · rw [spell_literal, spell_parameter] at same
      exact absurd (same ▸ opens_placeholder index _) legible'.1
    · obtain ⟨first, later⟩ := placeholder_append_inj legible.1 legible'.1 same
      rw [first, hypothesis legible.2 legible'.2 later]

/-- Nothing in the text can be taken for a placeholder. -/
def Unmistakable (text : String) : Prop := Legible (ofText text)

instance (text : String) : Decidable (Unmistakable text) := decideLegible (ofText text)

/-- What may follow a word or a place for a token. -/
structure Follows (rest : List Piece) : Prop where
  /-- It is legible. -/
  legible : Legible rest
  /-- It completes no placeholder that begins before it. -/
  apart : Apart (spell placeholder rest)

/-- What does not go on with the rest of a placeholder makes none of what stands before it. -/
theorem not_opens_append_of_apart {text following : List Char} (nonempty : text ≠ [])
    (closed : ¬ Opens text) (apart : Apart following) : ¬ Opens (text ++ following) := by
  rintro (begins | ⟨dollar, digit⟩)
  · rcases List.prefix_or_prefix_of_prefix begins (List.prefix_append text following) with
      whole | ⟨remainder, split⟩
    · exact closed (.inl whole)
    -- otherwise the text is a part of the reference, and the rest of it follows
    · rw [← split, List.prefix_append_right_inj] at begins
      cases remainder with
      | nil => exact closed (.inl (by simp [← split]))
      | cons c others =>
        obtain ⟨_, rfl⟩ := begins
        exact (apart c rfl).2 (split ▸ List.mem_append_right _ List.mem_cons_self)
  · rcases text with _ | ⟨c, _ | ⟨d, others⟩⟩
    · contradiction
    · cases following with
      | nil => contradiction
      | cons d others => exact absurd digit (by simp [(apart d rfl).1])
    · exact closed (.inr ⟨dollar, digit⟩)

/-- A text that is neither a part of the reference to a receiver nor a dollar sign is not made a
placeholder by what follows it. -/
theorem not_opens_append_of_sealed {text following : List Char} (closed : ¬ Opens text)
    (incomplete : ¬ text <+: reference) (number : text ≠ ['$']) : ¬ Opens (text ++ following) := by
  rintro (begins | ⟨dollar, digit⟩)
  · rcases List.prefix_or_prefix_of_prefix begins (List.prefix_append text following) with
      whole | part
    · exact closed (.inl whole)
    · exact incomplete part
  · rcases text with _ | ⟨c, _ | ⟨d, others⟩⟩
    · exact incomplete List.nil_prefix
    · exact number (by rw [Option.some.inj dollar])
    · exact closed (.inr ⟨dollar, digit⟩)

/-- Whether no part of a text can be taken for a placeholder, whatever follows. -/
def Sealed : List Char → Prop
  | [] => True
  | c :: rest =>
    (¬ Opens (c :: rest) ∧ ¬ c :: rest <+: reference ∧ c :: rest ≠ ['$']) ∧ Sealed rest

instance decideSealed : (text : List Char) → Decidable (Sealed text)
  | [] => isTrue trivial
  | c :: rest =>
    have := decideSealed rest
    inferInstanceAs (Decidable ((¬ Opens (c :: rest) ∧ ¬ c :: rest <+: reference ∧
      c :: rest ≠ ['$']) ∧ Sealed rest))

/-- Whether a text may stand anywhere: it neither makes nor completes a placeholder. -/
def IsMark (text : String) : Prop := text ≠ "" ∧ Apart text.toList ∧ Sealed text.toList

instance (text : String) : Decidable (IsMark text) :=
  inferInstanceAs (Decidable (text ≠ "" ∧ Apart text.toList ∧ Sealed text.toList))

/-- A word is legible with what may follow it. -/
theorem legible_word_append {word : String} {rest : List Piece} (unmistakable : Unmistakable word)
    (follows : Follows rest) : Legible (ofText word ++ rest) := by
  rw [Unmistakable, ofText] at unmistakable
  rw [ofText]
  generalize word.toList = chars at unmistakable
  induction chars with
  | nil => exact follows.legible
  | cons c others hypothesis =>
    obtain ⟨closed, later⟩ := unmistakable
    refine ⟨?_, hypothesis later⟩
    change ¬ Opens (c :: spell placeholder (others.map .literal ++ rest))
    rw [spell_append]
    exact not_opens_append_of_apart (List.cons_ne_nil _ _) closed follows.apart

/-- A mark may follow a word, whatever comes after it. -/
theorem follows_mark_append (mark : String) {rest : List Piece} (isMark : IsMark mark)
    (legible : Legible rest) : Follows (ofText mark ++ rest) := by
  obtain ⟨nonempty, apart, closed⟩ := isMark
  constructor
  · rw [ofText]
    generalize mark.toList = chars at closed
    induction chars with
    | nil => exact legible
    | cons c others hypothesis =>
      obtain ⟨⟨here, incomplete, number⟩, later⟩ := closed
      refine ⟨?_, hypothesis later⟩
      change ¬ Opens (c :: spell placeholder (others.map .literal ++ rest))
      rw [spell_append, spell_map_literal]
      exact not_opens_append_of_sealed here incomplete number
  · rw [spell_append, spell_ofText]
    cases begins : mark.toList with
    | nil => exact absurd (String.toList_eq_nil_iff.mp begins) nonempty
    | cons c others =>
      rw [begins] at apart
      exact fun d first => apart d first

/-- A place for a token is legible with what may follow it. -/
theorem legible_parameter_cons {rest : List Piece} (index : Nat) (follows : Follows rest) :
    Legible (.parameter index :: rest) :=
  ⟨follows.apart, follows.legible⟩

/-- A template in parentheses. -/
def parenthesized (template : List Piece) : List Piece := ofText "(" ++ template ++ ofText ")"

@[simp] theorem spell_parenthesized (token : Nat → String) (template : List Piece) :
    spell token (parenthesized template) = '(' :: spell token template ++ [')'] := by
  simp [parenthesized]

@[simp] theorem parameters_parenthesized (template : List Piece) :
    parameters (parenthesized template) = parameters template := by
  simp [parenthesized]

/-- A character other than a parenthesis stands in parentheses if it stands inside. -/
theorem literal_mem_parenthesized {c : Char} {template : List Piece} (other : c ∉ ['(', ')']) :
    .literal c ∈ parenthesized template ↔ .literal c ∈ template := by
  simp_all [parenthesized]

/-- A template that is legible with what may follow it may follow a word in parentheses, whatever
comes after it. -/
theorem follows_parenthesized_append {template rest : List Piece}
    (inside : ∀ {following : List Piece}, Follows following → Legible (template ++ following))
    (legible : Legible rest) : Follows (parenthesized template ++ rest) := by
  have closing := follows_mark_append ")" (by decide) legible
  have opening := follows_mark_append "(" (by decide) (inside closing)
  rw [parenthesized]
  simpa only [List.append_assoc] using opening

end Template

end KotlinContract
