import KotlinContract.Proofs.Chain
import KotlinContract.Proofs.Drafts

/-!
# Parts

The parts of an expression, an effect or a contract, each on its own: any may be there or not, as
when a caller stages them. What is assembled from parts has exactly these parts
(`ContractParts.assemble_eq_ok_iff`), so an invariant of what is assembled is a fact about the parts
that pass the checks.
-/
namespace KotlinContract

/-- The parts of an expression. -/
structure ExpressionParts where
  /-- Whether the opposite is meant. -/
  negated : Bool
  /-- Whether the parameter is compared with null. -/
  nullCheck : Bool
  /-- The parameter that is spoken about. -/
  index : Option Int
  /-- The constant that the parameter is compared with, or that stands by itself. -/
  constant : Option String
  /-- The type that the parameter is tested for. -/
  instanceType : Option TypeName
  /-- The parts of the expressions joined by a conjunction. -/
  conjuncts : List ExpressionParts
  /-- The parts of the expressions joined by a disjunction. -/
  disjuncts : List ExpressionParts
  /-- What the caller attached. -/
  tags : Tags

/-- The parts of an effect. -/
structure EffectParts where
  /-- What the effect is about. -/
  kind : EffectKind
  /-- How often a parameter is called. -/
  invocation : Option InvocationKind
  /-- The parts of the expressions in the parentheses of the effect. -/
  arguments : List ExpressionParts
  /-- The parts of what is implied. -/
  conclusion : Option ExpressionParts
  /-- What the caller attached. -/
  tags : Tags

/-- The parts of a contract. -/
structure ContractParts where
  /-- The parts of its effects. -/
  effects : List EffectParts
  /-- What the caller attached. -/
  tags : Tags

namespace ExpressionParts

mutual

/-- The expression with these parts, unless it is refused. -/
def assemble : ExpressionParts → Except Error Expression
  | ⟨negated, nullCheck, index, constant, instanceType, conjuncts, disjuncts, tags⟩ => do
    let conjuncts ← assembleAll conjuncts
    let disjuncts ← assembleAll disjuncts
    { negated, nullCheck, index, constant, instanceType, conjuncts, disjuncts, tags :
      Expression.Draft }.build

/-- The expressions with these parts. -/
def assembleAll : List ExpressionParts → Except Error (List Expression)
  | [] => .ok []
  | first :: rest => do
    let expression ← assemble first
    let expressions ← assembleAll rest
    return expression :: expressions

end

end ExpressionParts

/-- The effect with these parts, unless it is refused. -/
def EffectParts.assemble (parts : EffectParts) : Except Error Effect := do
  let arguments ← ExpressionParts.assembleAll parts.arguments
  let conclusion ← parts.conclusion.mapM ExpressionParts.assemble
  { kind := parts.kind, invocation := parts.invocation, conclusion, arguments,
    tags := parts.tags : Effect.Draft }.build

/-- The contract with these parts, unless it is refused. -/
def ContractParts.assemble (parts : ContractParts) : Except Error Contract := do
  let effects ← parts.effects.mapM EffectParts.assemble
  { effects, tags := parts.tags : Contract.Draft }.build

namespace Expression

mutual

/-- The parts of an expression. -/
def parts : Expression → ExpressionParts
  | expression@⟨_, negated, conjuncts, disjuncts, tags⟩ =>
    { negated
      nullCheck := expression.isNullCheck
      index := expression.index?.map Int.ofNat
      constant := expression.constant?
      instanceType := expression.instanceType?
      conjuncts := partsAll conjuncts
      disjuncts := partsAll disjuncts
      tags }

/-- The parts of several expressions. -/
def partsAll : List Expression → List ExpressionParts
  | [] => []
  | expression :: rest => expression.parts :: partsAll rest

end

end Expression

namespace ExpressionParts

mutual

/-- An expression is assembled from its own parts only. -/
theorem assemble_eq_ok_iff : ∀ (parts : ExpressionParts) {expression : Expression},
    parts.assemble = .ok expression ↔ parts = expression.parts
  | ⟨negated, nullCheck, index, constant, instanceType, conjuncts, disjuncts, tags⟩, ⟨proposition,
      negated', conjuncts', disjuncts', tags'⟩ => by
    have all {expressions : List Expression} := @assembleAll_eq_ok_iff conjuncts expressions
    have any {expressions : List Expression} := @assembleAll_eq_ok_iff disjuncts expressions
    simp only [assemble, Chain.bind_eq_ok_iff, all, any, Expression.Draft.build_eq_ok_iff,
      Expression.toDraft, Expression.parts, Expression.Draft.mk.injEq, ExpressionParts.mk.injEq]
    constructor
    · rintro ⟨_, conjunctParts, _, disjunctParts, negation, null, indices, constants, types, rfl,
        rfl, attached⟩
      exact ⟨negation, null, indices, constants, types, conjunctParts, disjunctParts, attached⟩
    · rintro ⟨negation, null, indices, constants, types, conjunctParts, disjunctParts, attached⟩
      exact ⟨_, conjunctParts, _, disjunctParts, negation, null, indices, constants, types, rfl,
        rfl, attached⟩

/-- Expressions are assembled from their own parts only. -/
theorem assembleAll_eq_ok_iff : ∀ (parts : List ExpressionParts) {expressions : List Expression},
    assembleAll parts = .ok expressions ↔ parts = Expression.partsAll expressions
  | [], [] => iff_of_true rfl rfl
  | [], _ :: _ => iff_of_false (by simp [assembleAll]) (by simp [Expression.partsAll])
  | first :: rest, [] => by
    simp [assembleAll, Chain.bind_eq_ok_iff, Expression.partsAll, pure, Except.pure]
  | first :: rest, expression :: expressions => by
    have one {expression : Expression} := @assemble_eq_ok_iff first expression
    have others {expressions : List Expression} := @assembleAll_eq_ok_iff rest expressions
    simp only [assembleAll, Chain.bind_eq_ok_iff, one, others, pure, Except.pure,
      Except.ok.injEq, List.cons.injEq, Expression.partsAll]
    constructor
    · rintro ⟨_, here, _, later, rfl, rfl⟩
      exact ⟨here, later⟩
    · rintro ⟨here, later⟩
      exact ⟨_, here, _, later, rfl, rfl⟩

end

end ExpressionParts

/-- The parts of an effect. -/
def Effect.parts (effect : Effect) : EffectParts where
  kind := effect.clause.kind
  invocation := effect.clause.invocation?
  arguments := Expression.partsAll effect.clause.arguments
  conclusion := effect.clause.conclusion?.map Expression.parts
  tags := effect.tags

/-- The parts of a contract. -/
def Contract.parts (contract : Contract) : ContractParts where
  effects := contract.effects.map Effect.parts
  tags := contract.tags

/-- An effect is assembled from its own parts only. -/
theorem EffectParts.assemble_eq_ok_iff {parts : EffectParts} {effect : Effect} :
    parts.assemble = .ok effect ↔ parts = effect.parts := by
  obtain ⟨kind, invocation, arguments, conclusion, tags⟩ := parts
  have implied {expression : Option Expression} :=
    @Chain.optionMapM_eq_ok_iff _ _ _ _ _ @ExpressionParts.assemble_eq_ok_iff conclusion expression
  simp only [assemble, Chain.bind_eq_ok_iff, ExpressionParts.assembleAll_eq_ok_iff, implied,
    Effect.Draft.build_eq_ok_iff, Effect.toDraft, Effect.parts, Effect.Draft.mk.injEq,
    EffectParts.mk.injEq]
  constructor
  · rintro ⟨_, arguments, _, conclusions, kinds, invocations, rfl, rfl, attached⟩
    exact ⟨kinds, invocations, arguments, conclusions, attached⟩
  · rintro ⟨kinds, invocations, arguments, conclusions, attached⟩
    exact ⟨_, arguments, _, conclusions, kinds, invocations, rfl, rfl, attached⟩

/-- A contract is assembled from its own parts only. -/
theorem ContractParts.assemble_eq_ok_iff {parts : ContractParts} {contract : Contract} :
    parts.assemble = .ok contract ↔ parts = contract.parts := by
  obtain ⟨effects, tags⟩ := parts
  simp only [assemble, Chain.bind_eq_ok_iff, Chain.mapM_eq_ok_iff EffectParts.assemble_eq_ok_iff,
    Contract.Draft.build_eq_ok_iff, Contract.toDraft, Contract.parts, Contract.Draft.mk.injEq,
    ContractParts.mk.injEq]
  constructor
  · rintro ⟨_, parts, rfl, attached⟩
    exact ⟨parts, attached⟩
  · rintro ⟨parts, attached⟩
    exact ⟨_, parts, rfl, attached⟩

end KotlinContract
