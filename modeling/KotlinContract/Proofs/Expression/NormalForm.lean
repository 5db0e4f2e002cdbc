import KotlinContract.Proofs.Expression.Pieces
import KotlinContract.Proofs.Expression.Tokens
import KotlinContract.Proofs.Text.Ended

/-!
# Normal forms of expressions

The normal form of an expression keeps what its text shows: of a bare token the token alone, and
otherwise the index, the test and the normal forms of the joined expressions. A comparison with
null is one with the null token, a type is its text, and negation is part of the tests that show
it. The text of an expression is that of its normal form, and with words of which no placeholder is
made the text tells the normal form (`Expression.canonical_eq_iff`).
-/
namespace KotlinContract

open Text (Plain)

/-- What the text shows of a test. -/
inductive NormalTest where
  /-- The parameter itself is the proposition. -/
  | holds
  /-- The parameter equals, or does not equal, a constant. -/
  | equals (negated : Bool) (constant : String)
  /-- The parameter is, or is not, of a type. -/
  | isInstance (negated : Bool) (type : String)
  deriving DecidableEq

/-- What the text shows of an expression. -/
inductive NormalForm where
  /-- A token as it is. -/
  | token (constant : String)
  /-- A test of a parameter, and what is joined to it. -/
  | about (index : Nat) (test : NormalTest) (conjuncts disjuncts : List NormalForm)

namespace NormalTest

/-- What the text shows of a test, negated or not. -/
def ofTest (negated : Bool) : Test → NormalTest
  | .holds => .holds
  | .isNull => .equals negated nullToken
  | .equals constant => .equals negated constant
  | .isInstance type => .isInstance negated type.render

/-- The text of a test after the token of the parameter. -/
def text : NormalTest → String
  | .holds => ""
  | .equals negated constant => Proposition.equalsText negated ++ constant
  | .isInstance negated type => Proposition.instanceText negated ++ type

/-- The text of a proposition about a parameter is the token and the text of the test. -/
theorem text_about (token : Nat → String) (negated : Bool) (index : Nat) (test : Test) :
    (Proposition.about index test).text token negated =
      token index ++ (ofTest negated test).text := by
  cases test <;> simp [Proposition.text, ofTest, text, String.append_assoc]

/-- The text of a test is empty or begins with a space. -/
theorem text_cases (test : NormalTest) :
    test.text.toList = [] ∨ ∃ rest, test.text.toList = ' ' :: rest := by
  cases test with
  | holds => exact .inl rfl
  | equals negated constant =>
    cases negated <;> exact .inr ⟨_, String.toList_append⟩
  | isInstance negated type =>
    cases negated <;> exact .inr ⟨_, String.toList_append⟩

/-- The text of a test tells the test. -/
theorem text_injective {left right : NormalTest} (same : left.text = right.text) :
    left = right := by
  have chars := congrArg String.toList same
  clear same
  -- the operators differ within their first three characters
  rcases left with _ | ⟨_ | _, constant⟩ | ⟨_ | _, type⟩ <;>
    rcases right with _ | ⟨_ | _, constant'⟩ | ⟨_ | _, type'⟩ <;>
      simp_all [text, Proposition.equalsText, Proposition.instanceText, String.toList_inj]

/-- A plain token and the text of a test after it can be told apart. -/
theorem append_text_inj {first second : String} {left right : NormalTest} (firstPlain : Plain first)
    (secondPlain : Plain second) (same : first ++ left.text = second ++ right.text) :
    first = second ∧ left = right := by
  have chars : first.toList ++ left.text.toList = second.toList ++ right.text.toList := by
    rw [← String.toList_append, same, String.toList_append]
  have free := firstPlain.space_not_mem
  have free' := secondPlain.space_not_mem
  have apart : first.toList = second.toList ∧ left.text.toList = right.text.toList := by
    rcases left.text_cases with empty | ⟨rest, begins⟩ <;>
      rcases right.text_cases with empty' | ⟨rest', begins'⟩
    · simpa [empty, empty'] using chars
    · rw [empty, begins', List.append_nil] at chars
      exact absurd (chars ▸ List.mem_append_right _ List.mem_cons_self) free
    · rw [begins, empty', List.append_nil] at chars
      exact absurd (chars ▸ List.mem_append_right _ List.mem_cons_self) free'
    · rw [begins, begins'] at chars ⊢
      obtain ⟨tokens, tests⟩ := Text.ended_inj free free' chars
      exact ⟨tokens, by rw [tests]⟩
  exact ⟨String.toList_injective apart.1, text_injective (String.toList_injective apart.2)⟩

end NormalTest

namespace NormalForm

variable (token : Nat → String)

mutual

/-- The text of a normal form without the parentheses around it. -/
def innerText : NormalForm → String
  | .token constant => constant
  | .about index test conjuncts disjuncts =>
    token index ++ test.text ++ joinedText Expression.conjunction conjuncts ++
      joinedText Expression.disjunction disjuncts

/-- The texts of normal forms, each in parentheses and with the operator before it. -/
def joinedText (operator : String) : List NormalForm → String
  | [] => ""
  | form :: rest =>
    operator ++ TypeName.parenthesized form.innerText ++ joinedText operator rest

end

end NormalForm

namespace Expression

mutual

/-- What the text shows of an expression. -/
def normalForm : Expression → NormalForm
  | ⟨.bare constant, _, _, _, _⟩ => .token constant
  | ⟨.about index test, negated, conjuncts, disjuncts, _⟩ =>
    .about index (.ofTest negated test) (normalForms conjuncts) (normalForms disjuncts)

/-- What the texts show of several expressions. -/
def normalForms : List Expression → List NormalForm
  | [] => []
  | expression :: rest => expression.normalForm :: normalForms rest

end

mutual

/-- The text of an expression is that of its normal form. -/
theorem innerText_normalForm (token : Nat → String) : ∀ expression : Expression,
    expression.normalForm.innerText token = expression.innerText token
  | ⟨.bare constant, negated, conjuncts, disjuncts, tags⟩ => rfl
  | ⟨.about index test, negated, conjuncts, disjuncts, tags⟩ => by
    rw [normalForm, NormalForm.innerText, joinedText_normalForms token _ conjuncts,
      joinedText_normalForms token _ disjuncts, innerText, NormalTest.text_about]

/-- The texts of joined expressions are those of their normal forms. -/
theorem joinedText_normalForms (token : Nat → String) (operator : String) :
    ∀ expressions : List Expression,
      NormalForm.joinedText token operator (normalForms expressions) =
        joinedText token operator expressions
  | [] => rfl
  | expression :: rest => by
    rw [normalForms, NormalForm.joinedText, innerText_normalForm token expression,
      joinedText_normalForms token operator rest, joinedText]

end

/-- The text of an expression tells that of its inner text. -/
theorem innerText_eq_of_text_eq {token : Nat → String} {first second : Expression}
    (same : first.text token = second.text token) :
    first.innerText token = second.innerText token := by
  simpa [text, TypeName.parenthesized] using same

/-- The text of an expression tells what it says by itself and the texts of what is joined to it. -/
theorem pieces_inj {token : Nat → String} (tokens : ∀ index, Plain (token index))
    {first second : Expression} (plain : ∀ word ∈ first.words, Plain word)
    (plain' : ∀ word ∈ second.words, Plain word)
    (same : first.innerText token = second.innerText token) :
    first.ownText token = second.ownText token ∧
      first.writtenConjuncts.map (text token) = second.writtenConjuncts.map (text token) ∧
      first.writtenDisjuncts.map (text token) = second.writtenDisjuncts.map (text token) := by
  have toList_map (expressions : List Expression) :
      expressions.map (fun expression => (expression.text token).toList) =
        (expressions.map (text token)).map String.toList := by
    rw [List.map_map]
    rfl
  have injective {left right : List String}
      (chars : left.map String.toList = right.map String.toList) : left = right :=
    (List.map_inj_right fun _ _ => String.toList_injective).mp chars
  have alternatives := congrArg (fun inner => Text.cut '|' inner.toList) same
  simp only [cut_innerText tokens plain, cut_innerText tokens plain', toList_map] at alternatives
  obtain ⟨firstAlternatives, disjuncts⟩ := List.cons.inj alternatives
  have pieces := congrArg (Text.cut '&') firstAlternatives
  simp only [cut_firstAlternative tokens plain, cut_firstAlternative tokens plain',
    toList_map] at pieces
  obtain ⟨own, conjuncts⟩ := List.cons.inj pieces
  exact ⟨String.toList_injective own, injective conjuncts, injective disjuncts⟩

/-- With unmarked words, the text before a function is known tells the same. -/
theorem placeholder_pieces_inj {first second : Expression}
    (unmarked : ∀ word ∈ first.words, Unmarked word)
    (unmarked' : ∀ word ∈ second.words, Unmarked word)
    (same : first.innerText placeholder = second.innerText placeholder) :
    first.ownText placeholder = second.ownText placeholder ∧
      first.writtenConjuncts.map (text placeholder) =
        second.writtenConjuncts.map (text placeholder) ∧
      first.writtenDisjuncts.map (text placeholder) =
        second.writtenDisjuncts.map (text placeholder) :=
  pieces_inj plain_placeholder (fun word member => (unmarked word member).1)
    (fun word member => (unmarked' word member).1) same

mutual

/-- Expressions with unmarked words and one text have one normal form. -/
theorem normalForm_eq_of_innerText_eq : ∀ {first second : Expression},
    (∀ word ∈ first.words, Unmarked word) → (∀ word ∈ second.words, Unmarked word) →
      first.innerText placeholder = second.innerText placeholder →
        first.normalForm = second.normalForm
  | ⟨.bare constant, _, _, _, _⟩, ⟨.bare constant', _, _, _, _⟩, _, _, same =>
    congrArg NormalForm.token same
  | ⟨.bare constant, negated, conjuncts, disjuncts, tags⟩, ⟨.about index test, negated',
      conjuncts', disjuncts', tags'⟩, unmarked, unmarked', same => by
    obtain ⟨own, -, -⟩ := placeholder_pieces_inj unmarked unmarked' same
    rw [ownText, ownText, NormalTest.text_about] at own
    have word := unmarked constant (by simp [words, Proposition.words])
    exact absurd own (word.ne_placeholder_append index _)
  | ⟨.about index test, negated, conjuncts, disjuncts, tags⟩, ⟨.bare constant, negated',
      conjuncts', disjuncts', tags'⟩, unmarked, unmarked', same => by
    obtain ⟨own, -, -⟩ := placeholder_pieces_inj unmarked unmarked' same
    rw [ownText, ownText, NormalTest.text_about] at own
    have word := unmarked' constant (by simp [words, Proposition.words])
    exact absurd own.symm (word.ne_placeholder_append index _)
  | ⟨.about index test, negated, conjuncts, disjuncts, tags⟩, ⟨.about index' test', negated',
      conjuncts', disjuncts', tags'⟩, unmarked, unmarked', same => by
    obtain ⟨own, all, any⟩ := placeholder_pieces_inj unmarked unmarked' same
    rw [ownText, ownText, NormalTest.text_about, NormalTest.text_about] at own
    obtain ⟨tokens, tests⟩ :=
      NormalTest.append_text_inj (plain_placeholder index) (plain_placeholder index') own
    have conjunctForms := normalForms_eq_of_texts_eq
      (fun word member => unmarked word (List.mem_append_left _ (List.mem_append_right _ member)))
      (fun word member => unmarked' word (List.mem_append_left _ (List.mem_append_right _ member)))
      all
    have disjunctForms := normalForms_eq_of_texts_eq
      (fun word member => unmarked word (List.mem_append_right _ member))
      (fun word member => unmarked' word (List.mem_append_right _ member)) any
    rw [normalForm, normalForm, placeholder_inj tokens, tests, conjunctForms, disjunctForms]

/-- Lists of expressions with unmarked words and the same texts have the same normal forms. -/
theorem normalForms_eq_of_texts_eq : ∀ {firsts seconds : List Expression},
    (∀ word ∈ wordsAll firsts, Unmarked word) → (∀ word ∈ wordsAll seconds, Unmarked word) →
      firsts.map (text placeholder) = seconds.map (text placeholder) →
        normalForms firsts = normalForms seconds
  | [], [], _, _, _ => rfl
  | first :: firsts, second :: seconds, unmarked, unmarked', same => by
    obtain ⟨here, later⟩ := List.cons.inj same
    have form := normalForm_eq_of_innerText_eq
      (fun word member => unmarked word (List.mem_append_left _ member))
      (fun word member => unmarked' word (List.mem_append_left _ member))
      (innerText_eq_of_text_eq here)
    have forms := normalForms_eq_of_texts_eq
      (fun word member => unmarked word (List.mem_append_right _ member))
      (fun word member => unmarked' word (List.mem_append_right _ member)) later
    rw [normalForms, normalForms, form, forms]

end

/-- With unmarked words, two expressions have one canonical text if and only if they have one
normal form. -/
theorem canonical_eq_iff {first second : Expression}
    (unmarked : ∀ word ∈ first.words, Unmarked word)
    (unmarked' : ∀ word ∈ second.words, Unmarked word) :
    first.canonical = second.canonical ↔ first.normalForm = second.normalForm := by
  constructor
  · intro same
    exact normalForm_eq_of_innerText_eq unmarked unmarked' (innerText_eq_of_text_eq same)
  · intro same
    rw [canonical, canonical, text, text, ← innerText_normalForm, same, innerText_normalForm]

end Expression

end KotlinContract
