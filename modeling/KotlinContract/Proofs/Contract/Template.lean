import KotlinContract.Proofs.Contract.NormalForm
import KotlinContract.Proofs.Text.Template

/-!
# Templates of contracts

The template of a contract has its text for any tokens of parameters and speaks about the
parameters that are written, in that order. Where none of the constants and types that are shown
holds what can be taken for a placeholder, it is legible; so contracts that are equal then have one
template (`Contract.template_eq_of_beq`), and one text for every function.
-/
namespace KotlinContract

open Template (ofText spell parameters parenthesized Legible Follows Unmistakable IsMark)

namespace NormalTest

/-- The constant or the type that a test shows. -/
def literals : NormalTest → List String
  | .holds => []
  | .equals _ constant => [constant]
  | .isInstance _ type => [type]

/-- A test is legible with what may follow it. -/
theorem follows_text_append {test : NormalTest} {rest : List Piece}
    (unmistakable : ∀ literal ∈ test.literals, Unmistakable literal) (follows : Follows rest) :
    Follows (ofText test.text ++ rest) := by
  have operator (mark word : String) (isMark : IsMark mark) (shown : word ∈ test.literals) :
      Follows (ofText (mark ++ word) ++ rest) := by
    rw [Template.ofText_append, List.append_assoc]
    exact Template.follows_mark_append mark isMark
      (Template.legible_word_append (unmistakable word shown) follows)
  cases test with
  | holds => exact follows
  | equals negated constant =>
    cases negated <;> exact operator _ constant (by decide) (List.mem_singleton_self constant)
  | isInstance negated type =>
    cases negated <;> exact operator _ type (by decide) (List.mem_singleton_self type)

/-- The text of a test stands on one line if what it shows does. -/
theorem newline_not_mem_text {test : NormalTest}
    (oneLine : ∀ literal ∈ test.literals, '\n' ∉ literal.toList) : '\n' ∉ test.text.toList := by
  cases test with
  | holds => decide
  | equals negated constant =>
    have here := oneLine constant (List.mem_singleton_self constant)
    cases negated <;> simpa [text, Proposition.equalsText] using here
  | isInstance negated type =>
    have here := oneLine type (List.mem_singleton_self type)
    cases negated <;> simpa [text, Proposition.instanceText] using here

end NormalTest

namespace Expression

mutual

/-- The template of an expression without the parentheses around it. -/
def template : Expression → List Piece
  | ⟨.bare constant, _, _, _, _⟩ => ofText constant
  | ⟨.about index test, negated, conjuncts, disjuncts, _⟩ =>
    .parameter index :: ofText (NormalTest.ofTest negated test).text ++
      joinedTemplate conjunction conjuncts ++ joinedTemplate disjunction disjuncts

/-- The templates of joined expressions, each in parentheses and with the operator before it. -/
def joinedTemplate (operator : String) : List Expression → List Piece
  | [] => []
  | expression :: rest =>
    ofText operator ++ parenthesized expression.template ++ joinedTemplate operator rest

end

mutual

/-- The constants and types that the text of an expression shows. -/
def literals : Expression → List String
  | ⟨.bare constant, _, _, _, _⟩ => [constant]
  | ⟨.about _ test, negated, conjuncts, disjuncts, _⟩ =>
    (NormalTest.ofTest negated test).literals ++ literalsAll conjuncts ++ literalsAll disjuncts

/-- The constants and types that the texts of several expressions show. -/
def literalsAll : List Expression → List String
  | [] => []
  | expression :: rest => expression.literals ++ literalsAll rest

end

mutual

/-- The template of an expression has its text. -/
theorem spell_template (token : Nat → String) : ∀ expression : Expression,
    spell token expression.template = (expression.innerText token).toList
  | ⟨.bare constant, negated, conjuncts, disjuncts, tags⟩ => Template.spell_ofText token constant
  | ⟨.about index test, negated, conjuncts, disjuncts, tags⟩ => by
    rw [template, innerText, NormalTest.text_about]
    simp [spell_joinedTemplate token _ conjuncts, spell_joinedTemplate token _ disjuncts]

/-- The templates of joined expressions have their texts. -/
theorem spell_joinedTemplate (token : Nat → String) (operator : String) :
    ∀ expressions : List Expression,
      spell token (joinedTemplate operator expressions) =
        (joinedText token operator expressions).toList
  | [] => rfl
  | expression :: rest => by
    rw [joinedTemplate, joinedText]
    simp [TypeName.parenthesized, spell_template token expression,
      spell_joinedTemplate token operator rest]

end

mutual

/-- The template of an expression speaks about the parameters that are written. -/
theorem parameters_template : ∀ expression : Expression,
    parameters expression.template = expression.rendered
  | ⟨.bare constant, negated, conjuncts, disjuncts, tags⟩ => Template.parameters_ofText constant
  | ⟨.about index test, negated, conjuncts, disjuncts, tags⟩ => by
    rw [template, rendered]
    simp [parameters_joinedTemplate _ conjuncts, parameters_joinedTemplate _ disjuncts]

/-- The templates of joined expressions speak about the parameters that are written. -/
theorem parameters_joinedTemplate (operator : String) : ∀ expressions : List Expression,
    parameters (joinedTemplate operator expressions) = renderedAll expressions
  | [] => rfl
  | expression :: rest => by
    rw [joinedTemplate, renderedAll]
    simp [parameters_template expression, parameters_joinedTemplate operator rest]

end

mutual

/-- The template of an expression is legible with what may follow it. -/
theorem legible_template_append : ∀ (expression : Expression) {rest : List Piece},
    (∀ literal ∈ expression.literals, Unmistakable literal) → Follows rest →
      Legible (expression.template ++ rest)
  | ⟨.bare constant, negated, conjuncts, disjuncts, tags⟩, rest, unmistakable, follows =>
    Template.legible_word_append (unmistakable constant (List.mem_singleton_self constant)) follows
  | ⟨.about index test, negated, conjuncts, disjuncts, tags⟩, rest, unmistakable, follows => by
    have any := follows_joinedTemplate_append disjunction (by decide) disjuncts
      (fun literal member => unmistakable literal (List.mem_append_right _ member)) follows
    have all := follows_joinedTemplate_append conjunction (by decide) conjuncts
      (fun literal member =>
        unmistakable literal (List.mem_append_left _ (List.mem_append_right _ member))) any
    have own := NormalTest.follows_text_append
      (fun literal member =>
        unmistakable literal (List.mem_append_left _ (List.mem_append_left _ member))) all
    rw [template, List.append_assoc, List.append_assoc, List.cons_append]
    exact Template.legible_parameter_cons index own

/-- The templates of joined expressions may follow a word, with what may follow one. -/
theorem follows_joinedTemplate_append (operator : String) (isMark : IsMark operator) :
    ∀ (expressions : List Expression) {rest : List Piece},
      (∀ literal ∈ literalsAll expressions, Unmistakable literal) → Follows rest →
        Follows (joinedTemplate operator expressions ++ rest)
  | [], rest, _, follows => follows
  | expression :: others, rest, unmistakable, follows => by
    have later := follows_joinedTemplate_append operator isMark others
      (fun literal member => unmistakable literal (List.mem_append_right _ member)) follows
    have whole := Template.follows_parenthesized_append
      (legible_template_append expression fun literal member =>
        unmistakable literal (List.mem_append_left _ member)) later.legible
    rw [joinedTemplate, List.append_assoc, List.append_assoc]
    exact Template.follows_mark_append operator isMark whole.legible

end

mutual

/-- The template of an expression stands on one line if what it shows does. -/
theorem newline_not_mem_template : ∀ expression : Expression,
    (∀ literal ∈ expression.literals, '\n' ∉ literal.toList) →
      .literal '\n' ∉ expression.template
  | ⟨.bare constant, negated, conjuncts, disjuncts, tags⟩, oneLine => by
    simpa [template, literals] using oneLine
  | ⟨.about index test, negated, conjuncts, disjuncts, tags⟩, oneLine => by
    have any := newline_not_mem_joinedTemplate disjunction (by decide) disjuncts
      fun literal member => oneLine literal (List.mem_append_right _ member)
    have all := newline_not_mem_joinedTemplate conjunction (by decide) conjuncts
      fun literal member =>
        oneLine literal (List.mem_append_left _ (List.mem_append_right _ member))
    have own := NormalTest.newline_not_mem_text
      fun literal member => oneLine literal (List.mem_append_left _ (List.mem_append_left _ member))
    simp [template, all, any, own]

/-- The templates of joined expressions stand on one line if what they show does. -/
theorem newline_not_mem_joinedTemplate (operator : String) (between : '\n' ∉ operator.toList) :
    ∀ expressions : List Expression,
      (∀ literal ∈ literalsAll expressions, '\n' ∉ literal.toList) →
        .literal '\n' ∉ joinedTemplate operator expressions
  | [], _ => by simp [joinedTemplate]
  | expression :: rest, oneLine => by
    have here := newline_not_mem_template expression
      fun literal member => oneLine literal (List.mem_append_left _ member)
    have later := newline_not_mem_joinedTemplate operator between rest
      fun literal member => oneLine literal (List.mem_append_right _ member)
    simp [joinedTemplate, Template.literal_mem_parenthesized, between, here, later]

end

end Expression

namespace Clause

/-- The constants and types that the text of an effect shows. -/
def literals (clause : Clause) : List String := clause.roots.flatMap Expression.literals

/-- The template of what stands in the parentheses of an effect. -/
def insideTemplate : Clause → List Piece
  | .returns value _ => value.elim [] Expression.template
  | .returnsNotNull _ => []
  | .calls target invocation => target.template ++ ofText (", " ++ invocation.token)

/-- The template of what stands after the parentheses of an effect. -/
def impliedTemplate : Clause → List Piece
  | .returns _ conclusion => ofText implication ++ parenthesized conclusion.template
  | .returnsNotNull conclusion => ofText implication ++ parenthesized conclusion.template
  | .calls .. => []

/-- The template of an effect. -/
def template (clause : Clause) : List Piece :=
  ofText clause.kind.keyword ++ parenthesized clause.insideTemplate ++
    clause.impliedTemplate

/-- The template of an effect has its text. -/
theorem spell_template (token : Nat → String) (clause : Clause) :
    spell token clause.template = (clause.text token).toList := by
  have inside : spell token clause.insideTemplate = (clause.inside token).toList := by
    cases clause with
    | returns value conclusion =>
      cases value with
      | none => rfl
      | some value => exact Expression.spell_template token value
    | returnsNotNull conclusion => rfl
    | calls target invocation =>
      simp [insideTemplate, Clause.inside, Expression.spell_template]
  have implied : spell token clause.impliedTemplate = (clause.implied token).toList := by
    cases clause <;> simp [impliedTemplate, Clause.implied, Expression.text,
      TypeName.parenthesized, Expression.spell_template]
  rw [text_eq]
  simp [template, TypeName.parenthesized, inside, implied]

/-- The template of an effect speaks about the parameters that are written. -/
theorem parameters_template (clause : Clause) :
    parameters clause.template = Expression.renderedAll clause.roots := by
  cases clause with
  | returns value conclusion =>
    cases value <;> simp [template, insideTemplate, impliedTemplate, roots, arguments,
      conclusion?, Expression.renderedAll, Expression.parameters_template]
  | returnsNotNull conclusion =>
    simp [template, insideTemplate, impliedTemplate, roots, arguments, conclusion?,
      Expression.renderedAll, Expression.parameters_template]
  | calls target invocation =>
    simp [template, insideTemplate, impliedTemplate, roots, arguments, conclusion?,
      Expression.renderedAll, Expression.parameters_template]

section Literals

variable {clause : Clause}

/-- What an expression of an effect shows is shown by the effect. -/
theorem mem_literals {root : Expression} (among : root ∈ clause.roots) {literal : String}
    (member : literal ∈ root.literals) : literal ∈ clause.literals :=
  List.mem_flatMap.mpr ⟨root, among, member⟩

/-- The template of an expression of an effect is legible with what may follow it. -/
theorem legible_root_append (unmistakable : ∀ literal ∈ clause.literals, Unmistakable literal)
    {root : Expression} (among : root ∈ clause.roots) {rest : List Piece} (follows : Follows rest) :
    Legible (root.template ++ rest) :=
  root.legible_template_append
    (fun literal member => unmistakable literal (mem_literals among member)) follows

/-- What is implied may follow a word, with what may follow one. -/
theorem follows_impliedTemplate_append {rest : List Piece}
    (unmistakable : ∀ literal ∈ clause.literals, Unmistakable literal) (follows : Follows rest) :
    Follows (clause.impliedTemplate ++ rest) := by
  have conclusion {root : Expression} (among : root ∈ clause.roots) :
      Follows (ofText implication ++ parenthesized root.template ++ rest) := by
    rw [List.append_assoc]
    exact Template.follows_mark_append implication (by decide)
      (Template.follows_parenthesized_append (legible_root_append unmistakable among)
        follows.legible).legible
  cases clause with
  | returns value implies => exact conclusion (by simp [roots, conclusion?])
  | returnsNotNull implies => exact conclusion (by simp [roots, conclusion?])
  | calls target invocation => exact follows

/-- What stands in the parentheses of an effect is legible with what may follow it. -/
theorem legible_insideTemplate_append {rest : List Piece}
    (unmistakable : ∀ literal ∈ clause.literals, Unmistakable literal) (follows : Follows rest) :
    Legible (clause.insideTemplate ++ rest) := by
  cases clause with
  | returns value implies =>
    cases value with
    | none => exact follows.legible
    | some value => exact legible_root_append unmistakable (by simp [roots, arguments]) follows
  | returnsNotNull implies => exact follows.legible
  | calls target invocation =>
    have kind : IsMark (", " ++ invocation.token) := by cases invocation <;> decide
    rw [insideTemplate, List.append_assoc]
    exact legible_root_append unmistakable (by simp [roots, arguments])
      (Template.follows_mark_append _ kind follows.legible)

/-- The template of an effect may follow a word, with what may follow one. -/
theorem follows_template_append {rest : List Piece}
    (unmistakable : ∀ literal ∈ clause.literals, Unmistakable literal) (follows : Follows rest) :
    Follows (clause.template ++ rest) := by
  have keyword : IsMark clause.kind.keyword := by cases clause.kind <;> decide
  have implied := follows_impliedTemplate_append unmistakable follows
  have inside := Template.follows_parenthesized_append
    (legible_insideTemplate_append unmistakable) implied.legible
  rw [template, List.append_assoc, List.append_assoc]
  exact Template.follows_mark_append _ keyword inside.legible

/-- The template of an effect stands on one line if what it shows does. -/
theorem newline_not_mem_template (oneLine : ∀ literal ∈ clause.literals, '\n' ∉ literal.toList) :
    .literal '\n' ∉ clause.template := by
  have root {expression : Expression} (among : expression ∈ clause.roots) :
      .literal '\n' ∉ expression.template :=
    Expression.newline_not_mem_template expression fun literal member =>
      oneLine literal (mem_literals among member)
  have keyword : '\n' ∉ clause.kind.keyword.toList := by cases clause.kind <;> decide
  have inside : .literal '\n' ∉ clause.insideTemplate := by
    cases clause with
    | returns value conclusion =>
      cases value with
      | none => exact List.not_mem_nil
      | some value => exact root (by simp [roots, arguments])
    | returnsNotNull conclusion => exact List.not_mem_nil
    | calls target invocation =>
      have called : .literal '\n' ∉ target.template := root (by simp [roots, arguments])
      have token : '\n' ∉ invocation.token.toList := by cases invocation <;> decide
      simp [insideTemplate, called, token]
  have implied : .literal '\n' ∉ clause.impliedTemplate := by
    have implies : '\n' ∉ implication.toList := by decide
    have conclusion {expression : Expression} (among : expression ∈ clause.roots) :
        .literal '\n' ∉ ofText implication ++ parenthesized expression.template := by
      simp [Template.literal_mem_parenthesized, implies, root among]
    cases clause with
    | returns value concluded => exact conclusion (by simp [roots, conclusion?])
    | returnsNotNull concluded => exact conclusion (by simp [roots, conclusion?])
    | calls target invocation => exact List.not_mem_nil
  simp [template, Template.literal_mem_parenthesized, keyword, inside, implied]

end Literals

/-- The template of an effect tells its kind. -/
theorem kind_eq_of_template_eq {first second : Clause} (same : first.template = second.template) :
    first.kind = second.kind := by
  have free (clause : Clause) : .literal '(' ∉ ofText clause.kind.keyword := by
    rw [Template.literal_mem_ofText]
    exact clause.kind.not_mem_keyword
  have opening : ofText "(" = [.literal '('] := rfl
  simp only [template, parenthesized, opening, List.append_assoc,
    List.singleton_append] at same
  obtain ⟨keywords, -⟩ := Text.ended_inj (free first) (free second) same
  have literals : Function.Injective Piece.literal := fun _ _ => Piece.literal.inj
  exact EffectKind.keyword_injective ((List.map_inj_right literals).mp keywords)

end Clause

namespace Contract

/-- The constants and types that the text of a contract shows. -/
def literals (contract : Contract) : List String :=
  contract.effects.flatMap fun effect => effect.clause.literals

/-- The templates of the lines of a contract between the first and the last, one for each effect. -/
def lineTemplates (contract : Contract) : List (List Piece) :=
  contract.effects.map fun effect => ofText "  " ++ effect.clause.template

/-- The template of a contract. -/
def template (contract : Contract) : List Piece :=
  ofText opening ++ contract.lineTemplates.flatMap (· ++ [.literal '\n']) ++ ofText closing

/-- The template of a contract has its text. -/
theorem spell_template (token : Nat → String) (contract : Contract) :
    spell token contract.template = (contract.text token).toList := by
  have lines (effects : List Effect) :
      spell token ((effects.map fun effect => ofText "  " ++ effect.clause.template).flatMap
          (· ++ [.literal '\n'])) =
        ((effects.map (Effect.text token)).map fun line => ("  " ++ line).toList).flatMap
          (· ++ ['\n']) := by
    induction effects with
    | nil => rfl
    | cons effect rest hypothesis =>
      simp only [List.map_cons, List.flatMap_cons, Template.spell_append, hypothesis]
      simp [Clause.spell_template, Effect.text]
  rw [text, toList_block, template, Template.spell_append, Template.spell_append,
    Template.spell_ofText, Template.spell_ofText, lineTemplates, lines]

/-- The template of a contract speaks about the parameters that are written. -/
theorem parameters_template (contract : Contract) :
    parameters contract.template = contract.rendered := by
  have lines (effects : List Effect) :
      parameters ((effects.map fun effect => ofText "  " ++ effect.clause.template).flatMap
          (· ++ [.literal '\n'])) = effects.flatMap Effect.rendered := by
    induction effects with
    | nil => rfl
    | cons effect rest hypothesis =>
      simp [hypothesis, Clause.parameters_template, Effect.rendered]
  simp [template, lineTemplates, lines, rendered]

/-- The template of a contract is legible if nothing that it shows can be taken for a
placeholder. -/
theorem legible_template {contract : Contract}
    (unmistakable : ∀ literal ∈ contract.literals, Unmistakable literal) :
    Legible contract.template := by
  have lines (effects : List Effect) (among : ∀ effect ∈ effects, effect ∈ contract.effects) :
      Follows ((effects.map fun effect => ofText "  " ++ effect.clause.template).flatMap
        (· ++ [.literal '\n']) ++ ofText closing) := by
    induction effects with
    | nil => exact Template.follows_mark_append closing (by decide) trivial
    | cons effect rest hypothesis =>
      have later := hypothesis fun effect member => among effect (List.mem_cons_of_mem _ member)
      have newline := Template.follows_mark_append "\n" (by decide) later.legible
      rw [show ofText "\n" = [.literal '\n'] from rfl] at newline
      have line : Follows (effect.clause.template ++ _) := Clause.follows_template_append
        (fun literal member => unmistakable literal
          (List.mem_flatMap.mpr ⟨effect, among effect List.mem_cons_self, member⟩)) newline
      have indented := Template.follows_mark_append "  " (by decide) line.legible
      simpa using indented
  have whole := Template.follows_mark_append opening (by decide)
    (lines contract.effects fun _ => id).legible
  rw [template, List.append_assoc]
  exact whole.legible

/-- Where nothing that they show can be taken for a placeholder, equal contracts have one
template. -/
theorem template_eq_of_beq {first second : Contract}
    (unmistakable : ∀ literal ∈ first.literals, Unmistakable literal)
    (unmistakable' : ∀ literal ∈ second.literals, Unmistakable literal)
    (equal : (first == second) = true) : first.template = second.template := by
  have same : first.canonical = second.canonical := beq_iff_eq.mp equal
  apply Template.spell_inj (legible_template unmistakable) (legible_template unmistakable')
  rw [spell_template, spell_template]
  exact congrArg String.toList same

/-- Where what they show stands on one line each, contracts of one template have effects of the same
kinds, in order. -/
theorem kinds_eq_of_template_eq {first second : Contract}
    (oneLine : ∀ literal ∈ first.literals, '\n' ∉ literal.toList)
    (oneLine' : ∀ literal ∈ second.literals, '\n' ∉ literal.toList)
    (same : first.template = second.template) :
    first.effects.map (·.clause.kind) = second.effects.map (·.clause.kind) := by
  have free {contract : Contract}
      (oneLine : ∀ literal ∈ contract.literals, '\n' ∉ literal.toList) :
      ∀ line ∈ contract.lineTemplates, .literal '\n' ∉ line := by
    intro line member
    obtain ⟨effect, among, rfl⟩ := List.mem_map.mp member
    have clause := Clause.newline_not_mem_template fun literal found =>
      oneLine literal (List.mem_flatMap.mpr ⟨effect, among, found⟩)
    simp [clause]
  have lines := Text.flatMap_ended_inj (free oneLine) (free oneLine')
    (List.append_cancel_left (List.append_cancel_right same))
  exact map_eq_map_of_forall
    (fun _ _ _ _ indented => Clause.kind_eq_of_template_eq (List.append_cancel_left indented)) lines

end Contract

end KotlinContract
