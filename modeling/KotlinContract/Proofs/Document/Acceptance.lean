import KotlinContract.Proofs.Document.Effects

/-!
# What documents are accepted

A document is accepted if the names of its parameters are there and differ, a class is recognised in
every class name, and it has an effect and only such as can be built for its function. What is built
from it mirrors it, part by part (`Document.build_iff`).
-/
namespace KotlinContract

namespace ContractForm

variable {form : ContractForm} {function : Declaration}

/-- A contract has the effects that are built from those that are written, and no tags. -/
theorem build_eq_ok_iff {contract : Contract} :
    form.build function = .ok contract ↔
      List.Forall₂ (fun effect built => effect.build function = .ok built) form.effects
          contract.effects ∧
        contract.tags = .empty := by
  simp only [build, Chain.bind_eq_ok_iff, Chain.mapM_eq_ok_iff_forall₂,
    Contract.Draft.build_eq_ok_iff, Contract.toDraft, Contract.Draft.mk.injEq]
  constructor
  · rintro ⟨_, effects, rfl, untagged⟩
    exact ⟨effects, untagged.symm⟩
  · rintro ⟨effects, untagged⟩
    exact ⟨_, effects, rfl, untagged.symm⟩

/-- A contract is built if all of its effects are and there is one. -/
theorem exists_build_iff :
    (∃ contract, form.build function = .ok contract) ↔
      (∀ effect ∈ form.effects, ∃ built, effect.build function = .ok built) ∧
        form.effects ≠ [] := by
  rw [build, Chain.exists_bind_iff, ← Chain.exists_mapM_iff, ← exists_and_right]
  refine exists_congr fun effects => and_congr_right fun built => ?_
  have same : form.effects = [] ↔ effects = [] := by
    rw [← List.length_eq_zero_iff, ← List.length_eq_zero_iff,
      (Chain.mapM_eq_ok_iff_forall₂.mp built).length_eq]
  rw [Contract.Draft.exists_build_iff, Ne, Ne, same]

/-- For a function that is built, a contract is built if its effects can be, and has the effects
that mirror them. -/
theorem build_eq_ok_iff_mirrors {parent : FunctionForm} (declared : parent.build = .ok function)
    {contract : Contract} :
    form.build function = .ok contract ↔
      (∀ effect ∈ form.effects, effect.Admissible parent.parameters) ∧
        List.Forall₂ EffectForm.Mirrors form.effects contract.effects ∧
        contract.tags = .empty := by
  rw [build_eq_ok_iff]
  simp only [EffectForm.build_eq_ok_iff declared]
  rw [List.forall₂_and_left, and_assoc]

end ContractForm

namespace Document

/-- What is required of a document. -/
structure Admissible (document : Document) : Prop where
  /-- Every parameter has a name. -/
  named : ∀ name ∈ document.function.parameterNames, name ≠ ""
  /-- No two parameters have one name. -/
  distinct : document.function.parameterNames.Nodup
  /-- A class is recognised in every class name of the function. -/
  recognised : ∀ text ∈ document.function.classTexts, ClassName.Recognised text
  /-- There is an effect. -/
  nonempty : document.contract.effects ≠ []
  /-- Every effect can be built for a function with the parameters. -/
  effects : ∀ effect ∈ document.contract.effects, effect.Admissible document.function.parameters

/-- A document stands for a function and a contract that have all of its parts. -/
structure Mirrors (document : Document) (function : Declaration) (contract : Contract) : Prop where
  /-- The function is the one that is written. -/
  function : document.function.Mirrors function
  /-- The effects are those that are written, in order. -/
  effects : List.Forall₂ EffectForm.Mirrors document.contract.effects contract.effects
  /-- Nothing is attached to the contract. -/
  untagged : contract.tags = .empty

/-- A document is built if its function is and then its contract, for that function. -/
theorem build_eq_ok_iff {document : Document} {function : Declaration} {contract : Contract} :
    document.build = .ok (function, contract) ↔
      document.function.build = .ok function ∧ document.contract.build function = .ok contract := by
  simp only [build, Chain.bind_eq_ok_iff]
  constructor
  · rintro ⟨_, declared, _, stated, same⟩
    cases same
    exact ⟨declared, stated⟩
  · rintro ⟨declared, stated⟩
    exact ⟨_, declared, _, stated, rfl⟩

/-- Exactly the admissible documents are accepted. A function and a contract are built from a
document if it is admissible and they have all of its parts. -/
theorem build_iff (document : Document) :
    ((∃ built, document.build = .ok built) ↔ document.Admissible) ∧
      ∀ function contract, document.build = .ok (function, contract) ↔
        document.Admissible ∧ document.Mirrors function contract := by
  have accepted : (∃ built, document.build = .ok built) ↔ document.Admissible := by
    constructor
    · rintro ⟨⟨function, contract⟩, built⟩
      obtain ⟨declared, stated⟩ := build_eq_ok_iff.mp built
      obtain ⟨named, distinct, recognised⟩ := FunctionForm.exists_build_iff.mp ⟨_, declared⟩
      obtain ⟨_, nonempty⟩ := ContractForm.exists_build_iff.mp ⟨_, stated⟩
      obtain ⟨effects, -⟩ := (ContractForm.build_eq_ok_iff_mirrors declared).mp stated
      exact ⟨named, distinct, recognised, nonempty, effects⟩
    · rintro ⟨named, distinct, recognised, nonempty, effects⟩
      obtain ⟨function, declared⟩ := FunctionForm.exists_build_iff.mpr ⟨named, distinct, recognised⟩
      obtain ⟨contract, stated⟩ := ContractForm.exists_build_iff.mpr
        ⟨fun effect member => (EffectForm.exists_build_iff declared).mpr (effects effect member),
          nonempty⟩
      exact ⟨_, build_eq_ok_iff.mpr ⟨declared, stated⟩⟩
  refine ⟨accepted, fun function contract => ?_⟩
  constructor
  · intro built
    obtain ⟨declared, stated⟩ := build_eq_ok_iff.mp built
    obtain ⟨-, effects, untagged⟩ := (ContractForm.build_eq_ok_iff_mirrors declared).mp stated
    exact ⟨accepted.mp ⟨_, built⟩, (FunctionForm.build_eq_ok_iff.mp declared).2, effects, untagged⟩
  · rintro ⟨admissible, mirrored⟩
    have declared : document.function.build = .ok function :=
      FunctionForm.build_eq_ok_iff.mpr ⟨admissible.distinct, mirrored.function⟩
    have stated : document.contract.build function = .ok contract :=
      (ContractForm.build_eq_ok_iff_mirrors declared).mpr
        ⟨admissible.effects, mirrored.effects, mirrored.untagged⟩
    exact build_eq_ok_iff.mpr ⟨declared, stated⟩

end Document

end KotlinContract
