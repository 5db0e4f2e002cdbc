import KotlinContract.Proofs.Expression.Formula
import KotlinContract.Proofs.Expression.Indices
import KotlinContract.Proofs.Expression.Pieces
import KotlinContract.Proofs.Expression.Tokens

/-!
# What the text of an expression means

Under every truth assignment to the atoms, the rendered text of an expression, read back as a
formula, has the truth value of the expression (`Expression.holds_read_render`). The equation is
proved for any plain tokens and then for those of a function, which stand for the names of the
parameters that the indices select.
-/
namespace KotlinContract

open Text (Plain)

/-- The name that an index selects: the receiver at zero, then the parameters in order. -/
def Declaration.subject (function : Declaration) (index : Nat) : String :=
  (("this@" ++ function.name) :: function.parameters.map Parameter.name).getD index ""

namespace Proposition

variable (assignment : Atom → Bool) (subject : Nat → String)

/-- The truth value of a proposition. Negation turns a comparison and a test for a type into their
opposites; a token and a parameter that is itself the proposition are the atoms of their texts,
negated or not. -/
def holds (negated : Bool) : Proposition → Bool
  | .bare constant => assignment (.token constant)
  | .about index .holds => assignment (.token (subject index))
  | .about index .isNull => negated ^^ assignment (.equal (subject index) nullToken)
  | .about index (.equals constant) => negated ^^ assignment (.equal (subject index) constant)
  | .about index (.isInstance type) =>
    negated ^^ assignment (.ofType (subject index) type.render)

/-- The truth value of a proposition if negation also turns a parameter that is itself the
proposition into its opposite. -/
def holdsStrictly (negated : Bool) : Proposition → Bool
  | .about index .holds => negated ^^ assignment (.token (subject index))
  | proposition => proposition.holds assignment subject negated

end Proposition

namespace Expression

mutual

/-- The truth value of an expression, given those of propositions: what the expression says by
itself and all conjuncts, or any disjunct. A bare token says no more than it says by itself. -/
def meaning (own : Bool → Proposition → Bool) : Expression → Bool
  | ⟨.bare constant, negated, _, _, _⟩ => own negated (.bare constant)
  | ⟨.about index test, negated, conjuncts, disjuncts, _⟩ =>
    (own negated (.about index test) && meaningAll own conjuncts) || meaningAny own disjuncts

/-- Whether all expressions hold. -/
def meaningAll (own : Bool → Proposition → Bool) : List Expression → Bool
  | [] => true
  | expression :: rest => expression.meaning own && meaningAll own rest

/-- Whether any of the expressions holds. -/
def meaningAny (own : Bool → Proposition → Bool) : List Expression → Bool
  | [] => false
  | expression :: rest => expression.meaning own || meaningAny own rest

end

/-- Tests that agree on the members of a list agree on whether all of them pass. -/
theorem all_congr_of_mem {α : Type} {items : List α} {first second : α → Bool}
    (same : ∀ item ∈ items, first item = second item) : items.all first = items.all second := by
  rw [Bool.eq_iff_iff, List.all_eq_true, List.all_eq_true]
  exact forall₂_congr fun item member => by rw [same item member]

/-- Tests that agree on the members of a list agree on whether any of them passes. -/
theorem any_congr_of_mem {α : Type} {items : List α} {first second : α → Bool}
    (same : ∀ item ∈ items, first item = second item) : items.any first = items.any second := by
  rw [← Bool.not_inj_iff, List.not_any_eq_all_not, List.not_any_eq_all_not]
  exact all_congr_of_mem fun item member => by rw [same item member]

/-- All expressions hold if each does. -/
theorem meaningAll_eq_all (own : Bool → Proposition → Bool) (expressions : List Expression) :
    meaningAll own expressions = expressions.all (meaning own) := by
  induction expressions with
  | nil => rfl
  | cons expression rest hypothesis => rw [meaningAll, hypothesis, List.all_cons]

/-- Any of the expressions holds if one does. -/
theorem meaningAny_eq_any (own : Bool → Proposition → Bool) (expressions : List Expression) :
    meaningAny own expressions = expressions.any (meaning own) := by
  induction expressions with
  | nil => rfl
  | cons expression rest hypothesis => rw [meaningAny, hypothesis, List.any_cons]

/-- The truth value of an expression by its written parts. -/
theorem meaning_eq (own : Bool → Proposition → Bool) (expression : Expression) :
    expression.meaning own =
      ((own expression.negated expression.proposition &&
        expression.writtenConjuncts.all (meaning own)) ||
          expression.writtenDisjuncts.any (meaning own)) := by
  obtain ⟨proposition, negated, conjuncts, disjuncts, tags⟩ := expression
  cases proposition with
  | bare constant => simp [meaning, writtenConjuncts, writtenDisjuncts]
  | about index test =>
    rw [meaning, meaningAll_eq_all, meaningAny_eq_any]
    rfl

section Reading

variable {token : Nat → String} (tokens : ∀ index, Plain (token index))
  (assignment : Atom → Bool)

include tokens

/-- What an expression says by itself is read as that. -/
theorem holds_readLiteral {expression : Expression}
    (plain : ∀ word ∈ expression.words, Plain word) :
    (Formula.readLiteral (expression.ownText token).toList).holds assignment =
      expression.proposition.holds assignment token expression.negated := by
  obtain ⟨proposition, negated, conjuncts, disjuncts, tags⟩ := expression
  cases proposition with
  | bare constant =>
    have word := plain constant (by simp [words, Proposition.words])
    rw [ownText, Proposition.text, Formula.readLiteral_token word, Formula.holds,
      Proposition.holds]
  | about index test =>
    have cutoff := Formula.takeWhile_subject (tokens index)
    cases test with
    | holds =>
      rw [ownText, Proposition.text, Formula.readLiteral_token (tokens index), Formula.holds,
        Proposition.holds]
    | isNull =>
      cases negated <;>
        simp [ownText, Proposition.text, Proposition.equalsText, Formula.readLiteral, cutoff,
          Formula.holds, Proposition.holds]
    | equals constant =>
      cases negated <;>
        simp [ownText, Proposition.text, Proposition.equalsText, Formula.readLiteral, cutoff,
          Formula.holds, Proposition.holds]
    | isInstance type =>
      cases negated <;>
        simp [ownText, Proposition.text, Proposition.instanceText, Formula.readLiteral, cutoff,
          Formula.holds, Proposition.holds]

/-- The inner text of an expression is what stands between the parentheses of its text. -/
theorem enclosed?_text {expression : Expression} (plain : ∀ word ∈ expression.words, Plain word) :
    Text.enclosed? (expression.text token).toList =
      some (expression.innerText token).toList := by
  simpa [text, TypeName.parenthesized] using
    Text.enclosed?_group (balanced_innerText tokens plain)

/-- An expression among others is read as what stands in its parentheses. -/
theorem readPiece_text {expression : Expression} (plain : ∀ word ∈ expression.words, Plain word) :
    Formula.readPiece (expression.text token).toList =
      Formula.read (expression.innerText token).toList := by
  rw [Formula.readPiece, enclosed?_text tokens plain]

/-- What an expression says by itself is read as a literal. -/
theorem readPiece_ownText {expression : Expression}
    (plain : ∀ word ∈ expression.words, Plain word) :
    Formula.readPiece (expression.ownText token).toList =
      Formula.readLiteral (expression.ownText token).toList := by
  rw [Formula.readPiece, Text.enclosed?_eq_none (head?_ownText_ne tokens plain)]

/-- A text with its conjuncts holds if what it says by itself and all of them do. -/
theorem all_cut_firstAlternative {expression : Expression}
    (plain : ∀ word ∈ expression.words, Plain word) :
    ((Text.cut '&' (expression.firstAlternative token).toList).all fun piece =>
        (Formula.readPiece piece).holds assignment) =
      (expression.proposition.holds assignment token expression.negated &&
        expression.writtenConjuncts.all fun conjunct =>
          (Formula.read (conjunct.innerText token).toList).holds assignment) := by
  rw [cut_firstAlternative tokens plain, List.all_cons, readPiece_ownText tokens plain,
    holds_readLiteral tokens assignment plain, List.all_map]
  congr 1
  refine all_congr_of_mem fun conjunct written => ?_
  rw [Function.comp_apply,
    readPiece_text tokens fun word member => plain word (mem_words_of_conjunct written member)]

/-- A disjunct holds if what stands in its parentheses does. -/
theorem all_cut_text {expression : Expression}
    (plain : ∀ word ∈ expression.words, Plain word) :
    ((Text.cut '&' (expression.text token).toList).all fun piece =>
        (Formula.readPiece piece).holds assignment) =
      (Formula.read (expression.innerText token).toList).holds assignment := by
  have whole : Text.Whole '&' (expression.text token).toList :=
    .parenthesized (balanced_innerText tokens plain)
  have single : Text.cut '&' (expression.text token).toList = [(expression.text token).toList] := by
    simpa using @Text.cut_joined '&' _ [] whole (by simp) (by decide) (by decide)
  rw [single, List.all_cons, List.all_nil, Bool.and_true, readPiece_text tokens plain]

/-- A text holds if what it says by itself and all its conjuncts do, or any disjunct does. -/
theorem holds_read_innerText_eq {expression : Expression}
    (plain : ∀ word ∈ expression.words, Plain word) :
    (Formula.read (expression.innerText token).toList).holds assignment =
      ((expression.proposition.holds assignment token expression.negated &&
        expression.writtenConjuncts.all fun conjunct =>
          (Formula.read (conjunct.innerText token).toList).holds assignment) ||
        expression.writtenDisjuncts.any fun disjunct =>
          (Formula.read (disjunct.innerText token).toList).holds assignment) := by
  rw [Formula.holds_read, cut_innerText tokens plain, List.any_cons,
    all_cut_firstAlternative tokens assignment plain, List.any_map]
  congr 1
  refine any_congr_of_mem fun disjunct written => ?_
  exact all_cut_text tokens assignment fun word member =>
    plain word (mem_words_of_disjunct written member)

end Reading

mutual

/-- The text of an expression, read back, has the truth value of the expression. -/
theorem holds_read_innerText {token : Nat → String} (tokens : ∀ index, Plain (token index))
    (assignment : Atom → Bool) : ∀ expression : Expression,
    (∀ word ∈ expression.words, Plain word) →
      (Formula.read (expression.innerText token).toList).holds assignment =
        expression.meaning fun negated => Proposition.holds assignment token negated
  | ⟨.bare constant, negated, conjuncts, disjuncts, tags⟩, plain => by
    rw [holds_read_innerText_eq tokens assignment plain, meaning_eq]
    rfl
  | ⟨.about index test, negated, conjuncts, disjuncts, tags⟩, plain => by
    have all := holds_read_members tokens assignment conjuncts fun word member =>
      plain word (List.mem_append_left _ (List.mem_append_right _ member))
    have any := holds_read_members tokens assignment disjuncts fun word member =>
      plain word (List.mem_append_right _ member)
    rw [holds_read_innerText_eq tokens assignment plain, meaning_eq]
    congr 1
    · congr 1
      exact all_congr_of_mem all
    · exact any_congr_of_mem any

/-- The text of each of several expressions, read back, has the truth value of the expression. -/
theorem holds_read_members {token : Nat → String} (tokens : ∀ index, Plain (token index))
    (assignment : Atom → Bool) : ∀ expressions : List Expression,
    (∀ word ∈ wordsAll expressions, Plain word) → ∀ expression ∈ expressions,
      (Formula.read (expression.innerText token).toList).holds assignment =
        expression.meaning fun negated => Proposition.holds assignment token negated
  | [], _ => by simp
  | first :: rest, plain => by
    intro expression member
    rw [List.mem_cons] at member
    rcases member with rfl | later
    · exact holds_read_innerText tokens assignment expression fun word found =>
        plain word (List.mem_append_left _ found)
    · exact holds_read_members tokens assignment rest
        (fun word found => plain word (List.mem_append_right _ found)) expression later

end

mutual

/-- The truth value of an expression is decided by those of the propositions of its nodes. -/
theorem meaning_congr {first second : Bool → Proposition → Bool} : ∀ expression : Expression,
    (∀ node ∈ expression.nodes,
      first node.negated node.proposition = second node.negated node.proposition) →
      expression.meaning first = expression.meaning second
  | ⟨.bare constant, negated, conjuncts, disjuncts, tags⟩, same => same _ (mem_nodes_self _)
  | ⟨.about index test, negated, conjuncts, disjuncts, tags⟩, same => by
    rw [nodes, List.cons_append] at same
    have all := meaning_congr_of_mem conjuncts fun node member =>
      same node (List.mem_cons_of_mem _ (List.mem_append_left _ member))
    have any := meaning_congr_of_mem disjuncts fun node member =>
      same node (List.mem_cons_of_mem _ (List.mem_append_right _ member))
    simp only [meaning, meaningAll_eq_all, meaningAny_eq_any]
    rw [same _ List.mem_cons_self, all_congr_of_mem all, any_congr_of_mem any]

/-- The truth value of each of several expressions is decided by those of the propositions of their
nodes. -/
theorem meaning_congr_of_mem {first second : Bool → Proposition → Bool} :
    ∀ expressions : List Expression,
      (∀ node ∈ nodesAll expressions,
        first node.negated node.proposition = second node.negated node.proposition) →
        ∀ expression ∈ expressions, expression.meaning first = expression.meaning second
  | [], _ => by simp
  | expression :: rest, same => by
    have here := meaning_congr expression fun node member =>
      same node (List.mem_append_left _ member)
    have later := meaning_congr_of_mem rest fun node member =>
      same node (List.mem_append_right _ member)
    exact List.forall_mem_cons.mpr ⟨here, later⟩

end

end Expression

/-- The token of an index that the function has is the name that the index selects. -/
theorem Declaration.token_eq_subject {function : Declaration} {index : Nat}
    (declared : index ≤ function.parameters.length) :
    function.token index = function.subject index := by
  cases index with
  | zero => rfl
  | succ position =>
    have found := List.getElem?_eq_getElem (l := function.parameters) declared
    rw [token, if_neg (Nat.succ_ne_zero position), Nat.add_sub_cancel, found, subject,
      List.getD_cons_succ, List.getD_eq_getElem?_getD, List.getElem?_map, found]
    rfl

namespace Expression

/-- The truth value of an expression depends on the tokens of its indices only. -/
theorem meaning_holds_congr {first second : Nat → String} (assignment : Atom → Bool)
    {expression : Expression} (same : ∀ index ∈ expression.indices, first index = second index) :
    (expression.meaning fun negated => Proposition.holds assignment first negated) =
      expression.meaning fun negated => Proposition.holds assignment second negated := by
  refine meaning_congr expression fun node member => ?_
  obtain ⟨proposition, negated, conjuncts, disjuncts, tags⟩ := node
  cases proposition with
  | bare constant => rfl
  | about index test =>
    have token := same index (mem_indices.mpr ⟨_, member, rfl⟩)
    cases test <;> simp only [Proposition.holds, token]

/-- Where no parameter that is itself a proposition is negated, negation turns every proposition
about a parameter into its opposite. -/
theorem meaning_holdsStrictly (assignment : Atom → Bool) (subject : Nat → String)
    {expression : Expression}
    (direct : ∀ node ∈ expression.nodes, ∀ index, node.proposition = .about index .holds →
      node.negated = false) :
    (expression.meaning fun negated => Proposition.holdsStrictly assignment subject negated) =
      expression.meaning fun negated => Proposition.holds assignment subject negated := by
  refine meaning_congr expression fun node member => ?_
  obtain ⟨proposition, negated, conjuncts, disjuncts, tags⟩ := node
  cases proposition with
  | bare constant => rfl
  | about index test =>
    cases test with
    | holds =>
      have plain : negated = false := direct _ member index rfl
      rw [Proposition.holdsStrictly, Proposition.holds, plain, Bool.false_xor]
    | isNull => rfl
    | equals constant => rfl
    | isInstance type => rfl

/-- Rendering keeps the meaning. An expression with plain words is rendered for every function with
plain names that has its indices, and what stands between the outer parentheses, read back, has the
truth value of the expression under every assignment. Where no parameter that is itself a
proposition is negated, that is the truth value in which negation turns every proposition about a
parameter into its opposite. -/
theorem holds_read_render (expression : Expression) (function : Declaration)
    (declared : ∀ index ∈ expression.indices, index ≤ function.parameters.length)
    (words : ∀ word ∈ expression.words, Plain word) (named : Plain function.name)
    (parameters : ∀ parameter ∈ function.parameters, Plain parameter.name) :
    ∃ text inner, expression.render function = .ok text ∧
      Text.enclosed? text.toList = some inner ∧
      (∀ assignment, (Formula.read inner).holds assignment =
        expression.meaning fun negated =>
          Proposition.holds assignment function.subject negated) ∧
      ((∀ node ∈ expression.nodes, ∀ index, node.proposition = .about index .holds →
          node.negated = false) →
        ∀ assignment, (Formula.read inner).holds assignment =
          expression.meaning fun negated =>
            Proposition.holdsStrictly assignment function.subject negated) := by
  have tokens := function.plain_token named parameters
  have granted : function.requireParameters expression.rendered = .ok () :=
    Declaration.requireParameters_eq_ok.mpr fun index member =>
      declared index (mem_indices_of_mem_rendered member)
  have rendered : expression.render function = .ok (expression.text function.token) := by
    rw [render, granted]
    rfl
  have enclosed := enclosed?_text tokens words
  have keeps : ∀ assignment,
      (Formula.read (expression.innerText function.token).toList).holds assignment =
        expression.meaning fun negated =>
          Proposition.holds assignment function.subject negated := by
    intro assignment
    rw [holds_read_innerText tokens assignment expression words]
    exact meaning_holds_congr assignment fun index member =>
      Declaration.token_eq_subject (declared index member)
  refine ⟨_, _, rendered, enclosed, keeps, fun direct assignment => ?_⟩
  rw [keeps, meaning_holdsStrictly assignment function.subject direct]

/-- An expression about the receiver and two parameters, with a conjunct and a disjunct. -/
def layered : Expression where
  proposition := .about 0 .isNull
  negated := true
  conjuncts := [⟨.about 2 (.isInstance (.function [.int] none none false)), true, [], [], .empty⟩]
  disjuncts := [⟨.about 1 (.equals "true"), false, [], [], .empty⟩]
  tags := .empty

end Expression

/-- A function with two parameters. -/
def Declaration.twoParameters : Declaration where
  name := "f"
  parameters := [⟨"flag", .boolean, [], by decide⟩, ⟨"value", .any, [], by decide⟩]
  modifiers := []
  receiver := some .string
  returns := none
  body := []

namespace Expression

/-- The meaning of a comparison of the receiver with null, a conjunct that tests for a function type
and a disjunct, rendered for a function with two parameters, is kept. -/
theorem holds_read_render_layered :
    ∃ text inner, layered.render .twoParameters = .ok text ∧
      Text.enclosed? text.toList = some inner ∧
      ∀ assignment, (Formula.read inner).holds assignment =
        ((!assignment (.equal "this@f" "null") &&
            !assignment (.ofType "value" "(kotlin.Int) -> kotlin.Unit")) ||
          assignment (.equal "flag" "true")) := by
  obtain ⟨text, inner, rendered, enclosed, -, strictly⟩ :=
    holds_read_render layered .twoParameters (by decide) (by decide) (by decide) (by decide)
  refine ⟨text, inner, rendered, enclosed, fun assignment => ?_⟩
  rw [strictly (by simp [layered, nodes, nodesAll]) assignment]
  have type : (TypeName.function [.int] none none false).render =
      "(kotlin.Int) -> kotlin.Unit" := by
    decide
  simp [layered, meaning, meaningAll, meaningAny, Proposition.holdsStrictly, Proposition.holds,
    Declaration.subject, Declaration.twoParameters, nullToken, type]

end Expression

end KotlinContract
