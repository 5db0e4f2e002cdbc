import KotlinContract.Effect.Basic

/-!
# Contracts

A contract is one effect or more. Its text is a block with a line for each effect.
-/
namespace KotlinContract

/-- A contract. -/
structure Contract where
  /-- Its effects. -/
  effects : List Effect
  /-- What the caller attached. -/
  tags : Tags
  /-- A contract has an effect. -/
  nonempty : effects ≠ []

namespace Contract

/-- The line that opens a contract. -/
def opening : String := "kotlin.contracts.contract \x7b\n"

/-- The line that closes a contract. -/
def closing : String := "\x7d\n"

/-- The block around lines, one for each effect. -/
def block (effects : List String) : String :=
  opening ++ Text.join "" (effects.map ("  " ++ · ++ "\n")) ++ closing

/-- The text of a contract. -/
def text (token : Nat → String) (contract : Contract) : String :=
  block (contract.effects.map (·.text token))

/-- The text of a contract before it is attached to a function. -/
def canonical (contract : Contract) : String := contract.text placeholder

/-- Two contracts are equal if their texts are. -/
instance : BEq Contract := ⟨fun left right => left.canonical == right.canonical⟩

/-- The hash of a contract is that of its text, whichever hash of texts is used. -/
def hashWith {η : Type} (hash : String → η) (contract : Contract) : η := hash contract.canonical

/-- The parameters in the text of a contract, in the order in which they occur there. -/
def rendered (contract : Contract) : List Nat := contract.effects.flatMap Effect.rendered

/-- The parameters that any node of any expression of the contract speaks about, each once and
in ascending order. -/
def indices (contract : Contract) : List Nat :=
  Ascending.ofList (contract.effects.flatMap Effect.indices)

/-- Whether the contract calls a parameter in place. -/
def hasCall (contract : Contract) : Bool := contract.effects.any Effect.isCall

/-- A contract in the making. -/
structure Draft where
  /-- The effects so far. -/
  effects : List Effect := []
  /-- What the caller attached. -/
  tags : Tags := .empty

/-- The contract, unless there is no effect. -/
def Draft.build (draft : Draft) : Except Error Contract :=
  if empty : draft.effects = [] then .error .noEffects
  else .ok ⟨draft.effects, draft.tags, empty⟩

/-- The draft that a contract can be built from again. -/
def toDraft (contract : Contract) : Draft where
  effects := contract.effects
  tags := contract.tags

/-- Building the draft of a contract gives the contract. -/
@[simp] theorem build_toDraft (contract : Contract) : contract.toDraft.build = .ok contract := by
  simp [Draft.build, toDraft, contract.nonempty]

end Contract

end KotlinContract
