import KotlinContract.Proofs.Contract.Template
import KotlinContract.Proofs.Rendering.Acceptance
import KotlinContract.Proofs.Text.Placeholders

/-!
# Binding the parameters of a contract

The canonical text of a contract is written before its function is known. Rendering the contract for
a function reads the contract again, but where no constant and no class name has a character of
placeholders it gives what replacing the placeholders in the canonical text would give, and it is
refused at the first placeholder there that the function has no parameter for
(`Contract.render_eq_substitute`).
-/
namespace KotlinContract

open Template (Unmistakable placeholders substitute)
open Text (Composable Every)

namespace Expression

/-- The constant or the type that a test shows is composed of the words of the test. -/
theorem composed_literals_ofTest {holds : String → Prop} (composable : Composable holds)
    (given : ∀ mark ∈ Proposition.marks, holds mark) {index : Nat} {test : Test} (negated : Bool)
    (words : ∀ word ∈ (Proposition.about index test).words, holds word) :
    ∀ literal ∈ (NormalTest.ofTest negated test).literals, holds literal := by
  intro literal member
  cases test with
  | holds => contradiction
  | isNull =>
    obtain rfl : literal = nullToken := List.mem_singleton.mp member
    exact given nullToken List.mem_cons_self
  | equals constant => exact words literal member
  | isInstance type =>
    obtain rfl : literal = type.render := List.mem_singleton.mp member
    exact TypeName.composed_render composable
      (fun mark among => given mark (List.mem_append_right _ among)) type words

mutual

/-- The constants and types that an expression shows are composed of its words. -/
theorem composed_literals {holds : String → Prop} (composable : Composable holds)
    (given : ∀ mark ∈ Proposition.marks, holds mark) : ∀ expression : Expression,
    (∀ word ∈ expression.words, holds word) → ∀ literal ∈ expression.literals, holds literal
  | ⟨.bare constant, negated, conjuncts, disjuncts, tags⟩, words, literal, member =>
    words literal (List.mem_append_left _ (List.mem_append_left _ member))
  | ⟨.about index test, negated, conjuncts, disjuncts, tags⟩, words, literal, member => by
    rw [literals, List.mem_append, List.mem_append] at member
    rcases member with (own | all) | any
    · exact composed_literals_ofTest composable given negated
        (fun word found => words word (List.mem_append_left _ (List.mem_append_left _ found)))
        literal own
    · exact composed_literalsAll composable given conjuncts
        (fun word found => words word (List.mem_append_left _ (List.mem_append_right _ found)))
        literal all
    · exact composed_literalsAll composable given disjuncts
        (fun word found => words word (List.mem_append_right _ found)) literal any

/-- The constants and types that several expressions show are composed of their words. -/
theorem composed_literalsAll {holds : String → Prop} (composable : Composable holds)
    (given : ∀ mark ∈ Proposition.marks, holds mark) : ∀ expressions : List Expression,
    (∀ word ∈ wordsAll expressions, holds word) →
      ∀ literal ∈ literalsAll expressions, holds literal
  | [], _, _, member => by contradiction
  | expression :: rest, words, literal, member => by
    rcases List.mem_append.mp member with first | later
    · exact composed_literals composable given expression
        (fun word found => words word (List.mem_append_left _ found)) literal first
    · exact composed_literalsAll composable given rest
        (fun word found => words word (List.mem_append_right _ found)) literal later

end

end Expression

namespace Contract

variable {contract : Contract}

/-- Where no word of a contract has a character of placeholders, nothing that the contract shows can
be taken for one. -/
theorem unmistakable_of_words
    (unmarked : ∀ word ∈ contract.words, '$' ∉ word.toList ∧ '@' ∉ word.toList) :
    ∀ literal ∈ contract.literals, Unmistakable literal := by
  have composable : Composable (Every fun c => c ≠ '$' ∧ c ≠ '@') :=
    Text.composable_every (by decide) (by decide)
  have given : ∀ mark ∈ Proposition.marks, Every (fun c => c ≠ '$' ∧ c ≠ '@') mark := by decide
  intro literal member
  obtain ⟨effect, among, within⟩ := List.mem_flatMap.mp member
  obtain ⟨root, inside, shown⟩ := List.mem_flatMap.mp within
  have free : Every (fun c => c ≠ '$' ∧ c ≠ '@') literal := by
    refine root.composed_literals composable given (fun word found c character => ?_) literal shown
    have own := unmarked word
      (List.mem_flatMap.mpr ⟨effect, among, List.mem_flatMap.mpr ⟨root, inside, found⟩⟩)
    exact ⟨fun dollar => own.1 (dollar ▸ character), fun sign => own.2 (sign ▸ character)⟩
  exact Template.unmistakable_of_not_mem (fun dollar => (free '$' dollar).1 rfl)
    fun sign => (free '@' sign).2 rfl

/-- The template of a contract without such words is read off its canonical text. -/
theorem read_canonical
    (unmarked : ∀ word ∈ contract.words, '$' ∉ word.toList ∧ '@' ∉ word.toList) :
    Template.read contract.canonical.toList = contract.template := by
  rw [canonical, ← spell_template]
  exact Template.read_spell (legible_template (unmistakable_of_words unmarked))

/-- Where no constant and no class name has a character of placeholders, a contract is refused for a
function at the first placeholder in its canonical text that the function has no parameter for, and
else its text is the canonical text with the tokens of the function in place of the
placeholders. -/
theorem render_eq_substitute (contract : Contract) (function : Declaration)
    (unmarked : ∀ word ∈ contract.words, '$' ∉ word.toList ∧ '@' ∉ word.toList) :
    contract.render function =
      match (placeholders contract.canonical).find? (function.parameters.length < ·) with
      | some index =>
        .error (.parameterMissing index function.name function.parameters.length)
      | none => .ok (substitute function.token contract.canonical) := by
  have read := read_canonical unmarked
  have indices : placeholders contract.canonical = contract.rendered := by
    rw [placeholders, read, parameters_template]
  have bound : substitute function.token contract.canonical = contract.text function.token := by
    rw [substitute, read, spell_template, String.ofList_toList]
  rw [indices, bound, render, Declaration.requireParameters]
  cases contract.rendered.find? (function.parameters.length < ·) <;> rfl

/-- The placeholders of a contract about the receiver and the first parameter, replaced by the names
of a function with one parameter; without parameters, the function is refused. -/
theorem render_eq_substitute_receiverTested :
    placeholders (receiverTested .isNull true).canonical = [0, 1] ∧
      (receiverTested .isNull true).render .oneParameter =
        .ok (substitute Declaration.oneParameter.token (receiverTested .isNull true).canonical) ∧
      (receiverTested .isNull true).render { Declaration.oneParameter with parameters := [] } =
        .error (.parameterMissing 1 "f" 0) := by
  have found : placeholders (receiverTested .isNull true).canonical = [0, 1] := by
    rw [placeholders, read_canonical (by decide), parameters_template]
    rfl
  refine ⟨found, ?_, ?_⟩
  · rw [render_eq_substitute _ _ (by decide), found]
    rfl
  · rw [render_eq_substitute _ _ (by decide), found]
    rfl

end Contract

end KotlinContract
