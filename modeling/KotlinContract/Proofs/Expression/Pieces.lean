import KotlinContract.Expression.Basic
import KotlinContract.Proofs.TypeName.Words

/-!
# The pieces of an expression

The text of an expression is composed of its words, which are its constants and the words of its
types, of the tokens of parameters, and of a few marks (`Expression.composed_innerText`). If all
of these are plain, then cutting the text at the disjunctions outside parentheses and the first
piece at the conjunctions recovers the text of the proposition and the texts of the joined
expressions (`Expression.cut_innerText`, `Expression.cut_firstAlternative`).
-/
namespace KotlinContract

open Text (Composable Balanced Every Whole Plain)

namespace Proposition

/-- The constant of a proposition or the words of its type. -/
def words : Proposition → List String
  | .bare constant => [constant]
  | .about _ (.equals constant) => [constant]
  | .about _ (.isInstance type) => type.words
  | .about _ _ => []

/-- What the text of a proposition has besides its words and a token. -/
def marks : List String := nullToken :: [" == ", " != ", " is ", " !is "] ++ TypeName.marks

/-- The text of a proposition is composed of its words, the token of its parameter and the
marks. -/
theorem composed_text {holds : String → Prop} (composable : Composable holds)
    (given : ∀ mark ∈ marks, holds mark) {token : Nat → String}
    (tokens : ∀ index, holds (token index)) {proposition : Proposition}
    (words : ∀ word ∈ proposition.words, holds word) (negated : Bool) :
    holds (proposition.text token negated) := by
  have equal : holds (equalsText negated) := by cases negated <;> exact given _ (by decide)
  have membership : holds (instanceText negated) := by cases negated <;> exact given _ (by decide)
  cases proposition with
  | bare constant => exact words constant (List.mem_singleton_self constant)
  | about index test =>
    cases test with
    | holds => exact tokens index
    | isNull =>
      exact composable.append (composable.append (tokens index) equal) (given _ (by decide))
    | equals constant =>
      exact composable.append (composable.append (tokens index) equal)
        (words constant (List.mem_singleton_self constant))
    | isInstance type =>
      have typeMarks : ∀ mark ∈ TypeName.marks, holds mark := fun mark member =>
        given mark (List.mem_append_right _ member)
      exact composable.append (composable.append (tokens index) membership)
        (TypeName.composed_render composable typeMarks type words)

end Proposition

namespace Expression

mutual

/-- The constants in an expression and the words of the types in it. -/
def words : Expression → List String
  | ⟨proposition, _, conjuncts, disjuncts, _⟩ =>
    proposition.words ++ wordsAll conjuncts ++ wordsAll disjuncts

/-- The words of several expressions. -/
def wordsAll : List Expression → List String
  | [] => []
  | expression :: rest => expression.words ++ wordsAll rest

end

/-- The conjuncts in the text of an expression; a bare token is written without them. -/
def writtenConjuncts : Expression → List Expression
  | ⟨.bare _, _, _, _, _⟩ => []
  | ⟨.about _ _, _, conjuncts, _, _⟩ => conjuncts

/-- The disjuncts in the text of an expression; a bare token is written without them. -/
def writtenDisjuncts : Expression → List Expression
  | ⟨.bare _, _, _, _, _⟩ => []
  | ⟨.about _ _, _, _, disjuncts, _⟩ => disjuncts

section Text

variable (token : Nat → String)

/-- What an expression says by itself, as text. -/
def ownText (expression : Expression) : String :=
  expression.proposition.text token expression.negated

/-- The text of an expression up to its first disjunct. -/
def firstAlternative (expression : Expression) : String :=
  expression.ownText token ++ joinedText token conjunction expression.writtenConjuncts

/-- The text of an expression is what it says by itself, then the conjuncts, then the
disjuncts. -/
theorem innerText_eq (expression : Expression) :
    expression.innerText token =
      expression.firstAlternative token ++
        joinedText token disjunction expression.writtenDisjuncts := by
  obtain ⟨proposition, negated, conjuncts, disjuncts, tags⟩ := expression
  cases proposition with
  | bare constant => simp [innerText, firstAlternative, ownText, writtenConjuncts,
      writtenDisjuncts, joinedText]
  | about index test => rfl

/-- The texts of joined expressions, each after the operator. -/
theorem toList_joinedText (operator : String) (expressions : List Expression) :
    (joinedText token operator expressions).toList =
      (expressions.map fun expression => (expression.text token).toList).flatMap
        (operator.toList ++ ·) := by
  induction expressions with
  | nil => rfl
  | cons expression rest hypothesis =>
    simp only [joinedText, String.toList_append, hypothesis, List.map_cons, List.flatMap_cons,
      text]

end Text

section Composed

variable {holds : String → Prop} {token : Nat → String}

/-- What the text of an expression has besides its words, the tokens and the parentheses. -/
def marks : List String := conjunction :: disjunction :: Proposition.marks

mutual

/-- The text of an expression is composed of its words, the tokens of parameters and the marks. -/
theorem composed_innerText (composable : Composable holds) (given : ∀ mark ∈ marks, holds mark)
    (tokens : ∀ index, holds (token index)) :
    ∀ expression : Expression, (∀ word ∈ expression.words, holds word) →
      holds (expression.innerText token)
  | ⟨proposition, negated, conjuncts, disjuncts, tags⟩, words => by
    have own : holds (proposition.text token negated) :=
      Proposition.composed_text composable
        (fun mark member => given mark (List.mem_cons_of_mem _ (List.mem_cons_of_mem _ member)))
        tokens
        (fun word member => words word (List.mem_append_left _ (List.mem_append_left _ member)))
        negated
    cases proposition with
    | bare constant => exact own
    | about index test =>
      have all := composed_joinedText composable given tokens conjuncts
        (fun word member => words word (List.mem_append_left _ (List.mem_append_right _ member)))
        conjunction (given _ (by decide))
      have any := composed_joinedText composable given tokens disjuncts
        (fun word member => words word (List.mem_append_right _ member)) disjunction
        (given _ (by decide))
      exact composable.append (composable.append own all) any

/-- The texts of joined expressions are composed of their words, the tokens of parameters and the
marks. -/
theorem composed_joinedText (composable : Composable holds) (given : ∀ mark ∈ marks, holds mark)
    (tokens : ∀ index, holds (token index)) :
    ∀ expressions : List Expression, (∀ word ∈ wordsAll expressions, holds word) →
      ∀ operator, holds operator → holds (joinedText token operator expressions)
  | [], _, _, _ => composable.empty
  | expression :: rest, words, operator, between => by
    have first := composed_innerText composable given tokens expression fun word member =>
      words word (List.mem_append_left _ member)
    have others := composed_joinedText composable given tokens rest
      (fun word member => words word (List.mem_append_right _ member)) operator between
    exact composable.append (composable.append between (composable.parenthesized first)) others

end

end Composed

/-- The words of several expressions are the words of each. -/
theorem wordsAll_eq_flatMap (expressions : List Expression) :
    wordsAll expressions = expressions.flatMap words := by
  induction expressions with
  | nil => rfl
  | cons expression rest hypothesis => rw [wordsAll, hypothesis, List.flatMap_cons]

/-- The words of a written conjunct are words of the expression. -/
theorem mem_words_of_conjunct {expression conjunct : Expression} {word : String}
    (written : conjunct ∈ expression.writtenConjuncts) (member : word ∈ conjunct.words) :
    word ∈ expression.words := by
  obtain ⟨proposition, negated, conjuncts, disjuncts, tags⟩ := expression
  cases proposition with
  | bare constant => contradiction
  | about index test =>
    rw [words, wordsAll_eq_flatMap]
    exact List.mem_append_left _
      (List.mem_append_right _ (List.mem_flatMap.mpr ⟨conjunct, written, member⟩))

/-- The words of a written disjunct are words of the expression. -/
theorem mem_words_of_disjunct {expression disjunct : Expression} {word : String}
    (written : disjunct ∈ expression.writtenDisjuncts) (member : word ∈ disjunct.words) :
    word ∈ expression.words := by
  obtain ⟨proposition, negated, conjuncts, disjuncts, tags⟩ := expression
  cases proposition with
  | bare constant => contradiction
  | about index test =>
    rw [words, wordsAll_eq_flatMap disjuncts]
    exact List.mem_append_right _ (List.mem_flatMap.mpr ⟨disjunct, written, member⟩)

section Plain

variable {token : Nat → String} (tokens : ∀ index, Plain (token index)) {expression : Expression}
  (plain : ∀ word ∈ expression.words, Plain word)

include tokens plain

/-- Parentheses stand in the text of an expression in pairs. -/
theorem balanced_innerText : Balanced (expression.innerText token).toList := by
  have given : ∀ mark ∈ marks, Balanced mark.toList := by
    have free : ∀ mark ∈ marks, Every (fun c => c ≠ '(' ∧ c ≠ ')') mark := by decide
    exact fun mark member => .of_free (free mark member)
  exact composed_innerText Text.composable_balanced given (fun index => (tokens index).balanced)
    expression fun word member => (plain word member).balanced

/-- What an expression says by itself is whole with respect to both operators. -/
theorem whole_ownText {mark : Char} (among : mark ∈ ['&', '|']) :
    Whole mark (expression.ownText token).toList := by
  have reserved : mark ∈ Text.reserved := List.mem_cons_of_mem _ (List.mem_cons_of_mem _ among)
  have given : ∀ text ∈ Proposition.marks, Whole mark text.toList := by
    have free : ∀ text ∈ Proposition.marks, Every (· ∉ Text.reserved) text := by decide
    intro text member
    refine .of_balanced (.of_free fun c found => ?_) fun found =>
      free text member mark found reserved
    have unreserved := free text member c found
    simp only [Text.reserved, List.mem_cons, not_or] at unreserved
    exact ⟨unreserved.1, unreserved.2.1⟩
  refine Proposition.composed_text (Text.composable_whole mark) given
    (fun index => (tokens index).whole reserved) (fun word member => ?_) expression.negated
  refine (plain word ?_).whole reserved
  obtain ⟨proposition, negated, conjuncts, disjuncts, tags⟩ := expression
  exact List.mem_append_left _ (List.mem_append_left _ member)

/-- What an expression says by itself does not begin with a parenthesis. -/
theorem head?_ownText_ne : (expression.ownText token).toList.head? ≠ some '(' := by
  obtain ⟨proposition, negated, conjuncts, disjuncts, tags⟩ := expression
  cases proposition with
  | bare constant =>
    have word := plain constant (by simp [words, Proposition.words])
    simpa [ownText, Proposition.text] using word.head?_append_ne []
  | about index test =>
    have begins := (tokens index).head?_append_ne
    cases test with
    | holds => simpa [ownText, Proposition.text] using begins []
    | isNull =>
      simpa [ownText, Proposition.text] using
        begins ((Proposition.equalsText negated).toList ++ nullToken.toList)
    | equals constant =>
      simpa [ownText, Proposition.text] using
        begins ((Proposition.equalsText negated).toList ++ constant.toList)
    | isInstance type =>
      simpa [ownText, Proposition.text] using
        begins ((Proposition.instanceText negated).toList ++ type.render.toList)

/-- The text of an expression has something between its parentheses. -/
theorem innerText_ne_empty : expression.innerText token ≠ "" := by
  obtain ⟨proposition, negated, conjuncts, disjuncts, tags⟩ := expression
  cases proposition with
  | bare constant => exact (plain constant (by simp [words, Proposition.words])).1
  | about index test =>
    intro empty
    have subject : token index = "" := by
      cases test <;> simp_all [innerText, Proposition.text]
    exact (tokens index).1 subject

/-- The text up to the first disjunct is whole with respect to the disjunction. -/
theorem whole_firstAlternative : Whole '|' (expression.firstAlternative token).toList := by
  rw [firstAlternative, String.toList_append, toList_joinedText]
  refine (whole_ownText tokens plain (by decide)).append (.flatMap fun text member => ?_)
  obtain ⟨conjunct, written, rfl⟩ := List.mem_map.mp member
  have free : Every (fun c => c ≠ '(' ∧ c ≠ ')') conjunction := by decide
  have between : Whole '|' conjunction.toList := .of_balanced (.of_free free) (by decide)
  have inside : Balanced (conjunct.innerText token).toList :=
    balanced_innerText tokens fun word found => plain word (mem_words_of_conjunct written found)
  exact between.append (.parenthesized inside)

/-- At the disjunctions outside parentheses the text of an expression is cut into the text up to
the first disjunct and the texts of the disjuncts. -/
theorem cut_innerText :
    Text.cut '|' (expression.innerText token).toList =
      (expression.firstAlternative token).toList ::
        expression.writtenDisjuncts.map fun disjunct => (disjunct.text token).toList := by
  have each : ∀ text ∈ expression.writtenDisjuncts.map fun disjunct => (disjunct.text token).toList,
      Whole '|' text := by
    intro text member
    obtain ⟨disjunct, written, rfl⟩ := List.mem_map.mp member
    exact .parenthesized
      (balanced_innerText tokens fun word found => plain word (mem_words_of_disjunct written found))
  rw [innerText_eq, String.toList_append, toList_joinedText]
  exact Text.cut_joined (whole_firstAlternative tokens plain) each (by decide) (by decide)

/-- At the conjunctions outside parentheses the text up to the first disjunct is cut into what the
expression says by itself and the texts of the conjuncts. -/
theorem cut_firstAlternative :
    Text.cut '&' (expression.firstAlternative token).toList =
      (expression.ownText token).toList ::
        expression.writtenConjuncts.map fun conjunct => (conjunct.text token).toList := by
  have each : ∀ text ∈ expression.writtenConjuncts.map fun conjunct => (conjunct.text token).toList,
      Whole '&' text := by
    intro text member
    obtain ⟨conjunct, written, rfl⟩ := List.mem_map.mp member
    exact .parenthesized
      (balanced_innerText tokens fun word found => plain word (mem_words_of_conjunct written found))
  rw [firstAlternative, String.toList_append, toList_joinedText]
  exact Text.cut_joined (whole_ownText tokens plain (by decide)) each (by decide) (by decide)

end Plain

end Expression

end KotlinContract
