import KotlinContract.Proofs.Contract.Template
import KotlinContract.Proofs.Rendering.Acceptance

/-!
# Equal contracts in place of one another

Contracts are equal if their texts before a function is known are. Such a text does not tell a
placeholder from a constant that is written like one, a line from a constant with a line break, or
what is joined to a bare token. Where none of this matters, equal contracts are rendered alike for
every function, and attached alike (`Contract.interchangeable`).
-/
namespace KotlinContract

open Template (Unmistakable)

namespace Contract

variable {first second : Contract}

/-- Contracts of one template are rendered alike for every function. -/
theorem render_eq_of_template_eq (same : first.template = second.template)
    (function : Declaration) : first.render function = second.render function := by
  have parameters : first.rendered = second.rendered := by
    rw [← parameters_template, same, parameters_template]
  have texts : first.text function.token = second.text function.token := by
    apply String.toList_injective
    rw [← spell_template, same, spell_template]
  rw [render, render, parameters, texts]

/-- Contracts with effects of the same kinds call a parameter alike. -/
theorem hasCall_eq_of_kinds_eq
    (same : first.effects.map (·.clause.kind) = second.effects.map (·.clause.kind)) :
    first.hasCall = second.hasCall := by
  have calls (contract : Contract) :
      contract.hasCall = (contract.effects.map (·.clause.kind)).any (· == .calls) := by
    rw [List.any_map]
    rfl
  rw [calls, calls, same]

/-- A function that has all parameters of one contract has all those of another with the same
written ones, unless it lacks one that is not written. -/
theorem granted_of_rendered_eq (same : first.rendered = second.rendered) {count : Nat}
    (shown : ∀ index ∈ second.indices, count < index → index ∈ second.rendered)
    (granted : ∀ index ∈ first.indices, index ≤ count) :
    ∀ index ∈ second.indices, index ≤ count := by
  intro index member
  refine Nat.le_of_not_lt fun beyond => ?_
  have written := shown index member beyond
  rw [← same] at written
  exact absurd (granted index (mem_indices_of_mem_rendered written)) (Nat.not_le.mpr beyond)

/-- Equal contracts are interchangeable where no constant and no type that they show can be taken
for a placeholder. They are rendered alike for every function. If what they show stands on one line
each, and the function has every parameter that one of them speaks about without writing it, then
attaching either of them to the function is refused, or both give the same function. -/
theorem interchangeable (first second : Contract) (function : Declaration)
    (equal : (first == second) = true)
    (unmistakable : ∀ literal ∈ first.literals ++ second.literals, Unmistakable literal) :
    first.render function = second.render function ∧
      ((∀ literal ∈ first.literals ++ second.literals, '\n' ∉ literal.toList) →
        (∀ contract ∈ [first, second], ∀ index ∈ contract.indices,
          function.parameters.length < index → index ∈ contract.rendered) →
        Chain.Alike (function.attach first) (function.attach second)) := by
  have same : first.template = second.template :=
    template_eq_of_beq (fun literal member => unmistakable literal (List.mem_append_left _ member))
      (fun literal member => unmistakable literal (List.mem_append_right _ member)) equal
  have texts := render_eq_of_template_eq same function
  refine ⟨texts, fun oneLine shown => ?_⟩
  have calls : first.hasCall = second.hasCall :=
    hasCall_eq_of_kinds_eq (kinds_eq_of_template_eq
      (fun literal member => oneLine literal (List.mem_append_left _ member))
      (fun literal member => oneLine literal (List.mem_append_right _ member)) same)
  have parameters : first.rendered = second.rendered := by
    rw [← parameters_template, same, parameters_template]
  have granted : (∀ index ∈ first.indices, index ≤ function.parameters.length) ↔
      ∀ index ∈ second.indices, index ≤ function.parameters.length :=
    ⟨granted_of_rendered_eq parameters (shown second (by simp)),
      granted_of_rendered_eq parameters.symm (shown first (by simp))⟩
  rw [Chain.alike_iff]
  intro attached
  rw [Declaration.attach_eq_ok_iff, Declaration.attach_eq_ok_iff, calls, granted, texts]

/-- A comparison with null and one with the null token are attached alike to an inline function. -/
theorem interchangeable_receiverTested :
    let function := { Declaration.oneParameter with modifiers := [.inlined] }
    (receiverTested .isNull true).render function =
        (receiverTested (.equals nullToken) false).render function ∧
      Chain.Alike (function.attach (receiverTested .isNull true))
        (function.attach (receiverTested (.equals nullToken) false)) ∧
      ∃ attached, function.attach (receiverTested .isNull true) = .ok attached := by
  intro function
  obtain ⟨rendered, attached⟩ := interchangeable (receiverTested .isNull true)
    (receiverTested (.equals nullToken) false) function (by decide) (by decide)
  exact ⟨rendered, attached (by decide) (by decide), _, rfl⟩

/-- The contract that returning implies a token as it is, with something joined to it. -/
def implyingToken (token : String) (conjuncts : List Expression) : Contract where
  effects :=
    [{ clause := .returns none { Expression.reference token with conjuncts }, tags := .empty }]
  tags := .empty
  nonempty := by simp

/-- The contract that returning implies a parameter. -/
def implyingParameter (index : Nat) : Contract where
  effects :=
    [{ clause := .returns none ⟨.about index .holds, false, [], [], .empty⟩, tags := .empty }]
  tags := .empty
  nonempty := by simp

/-- The contract that returning implies the truth, and that a target is called. -/
def implyingAndCalling (target : String) : Contract where
  effects :=
    [{ clause := .returns none (Expression.reference "true"), tags := .empty },
      { clause := .calls (Expression.reference target) .unknown, tags := .empty }]
  tags := .empty
  nonempty := by simp

/-- A token that goes on with a line about a call. -/
def callingToken : String := "true)\n  callsInPlace(x, kotlin.contracts.InvocationKind.UNKNOWN"

/-- The comparison of the second parameter with null, where anything else is meant. -/
def secondGiven : Expression := ⟨.about 2 .isNull, true, [], [], .empty⟩

/-- Equal contracts that differ for a function. A token that is written like the placeholder of a
parameter, or like a reference to the receiver, is not replaced. A token that goes on with a line
about a call needs no inline function. And what is joined to a bare token is not written, but the
parameters in it have to be there. -/
theorem beq_not_interchangeable :
    ((implyingToken "$1" [] == implyingParameter 1) = true ∧
      (implyingToken "$1" []).render .oneParameter =
        .ok "kotlin.contracts.contract \x7b\n  returns() implies ($1)\n\x7d\n" ∧
      (implyingParameter 1).render .oneParameter =
        .ok "kotlin.contracts.contract \x7b\n  returns() implies (x)\n\x7d\n") ∧
    ((implyingToken "this@" [] == implyingParameter 0) = true ∧
      (implyingToken "this@" []).render .oneParameter =
        .ok "kotlin.contracts.contract \x7b\n  returns() implies (this@)\n\x7d\n" ∧
      (implyingParameter 0).render .oneParameter =
        .ok "kotlin.contracts.contract \x7b\n  returns() implies (this@f)\n\x7d\n") ∧
    ((implyingToken callingToken [] == implyingAndCalling "x") = true ∧
      (∃ attached, Declaration.oneParameter.attach (implyingToken callingToken []) =
        .ok attached) ∧
      Declaration.oneParameter.attach (implyingAndCalling "x") = .error .notInline) ∧
    ((implyingToken "true" [] == implyingToken "true" [secondGiven]) = true ∧
      (∃ attached, Declaration.oneParameter.attach (implyingToken "true" []) = .ok attached) ∧
      Declaration.oneParameter.attach (implyingToken "true" [secondGiven]) =
        .error (.parameterMissing 2 "f" 1)) :=
  ⟨⟨by decide, rfl, rfl⟩, ⟨by decide, rfl, rfl⟩, ⟨by decide, ⟨_, rfl⟩, rfl⟩,
    ⟨by decide, ⟨_, rfl⟩, rfl⟩⟩

end Contract

end KotlinContract
