import KotlinContract.Proofs.Expression.Indices
import KotlinContract.Proofs.Rendering.Parts

/-!
# Emission from parts

Text can be put together from parts that were never checked, step by step, for a function or for
none; a step breaks down where a part that it reads is not there. From the parts of whatever passed
the checks the text is always that of the model, unless a function is given that does not have a
parameter of which the text speaks (`Contract.emit_parts`).
-/
namespace KotlinContract

/-- Why no text can be put together from parts. -/
inductive Breakdown where
  /-- An expression has neither a parameter nor a constant. -/
  | constantMissing
  /-- A call has no target. -/
  | argumentMissing
  /-- A call does not say how often. -/
  | invocationMissing
  /-- There is no rule for a kind of effect. -/
  | kindUnknown (kind : EffectKind)
  /-- There is no parameter at a position. -/
  | positionMissing (position : Int)
  /-- The function is refused. -/
  | refused (error : Error)
  deriving DecidableEq

/-- The item at a position; a negative one counts from the end. -/
def itemAt? {α : Type} (items : List α) (position : Int) : Option α :=
  if 0 ≤ position then items[position.toNat]?
  else if 0 ≤ items.length + position then items[(items.length + position).toNat]?
  else none

/-- The text that stands for a parameter. -/
def emitToken (function : Option Declaration) (index : Int) : Except Breakdown String :=
  match function with
  | none => .ok (if index = 0 then "this@" else "$" ++ toString index)
  | some function =>
    if index = 0 then .ok ("this@" ++ function.name)
    else if function.parameters.length < index then
      .error (.refused (function.missing index.toNat))
    else
      match itemAt? function.parameters (index - 1) with
      | some parameter => .ok parameter.name
      | none => .error (.positionMissing (index - 1))

namespace ExpressionParts

/-- What an expression about a parameter says by itself. The first predicate that is there
counts. -/
def ownText (parts : ExpressionParts) (parameter : String) : String :=
  if parts.nullCheck then parameter ++ Proposition.equalsText parts.negated ++ nullToken
  else
    match parts.constant, parts.instanceType with
    | some constant, _ => parameter ++ Proposition.equalsText parts.negated ++ constant
    | none, some type => parameter ++ Proposition.instanceText parts.negated ++ type.render
    | none, none => parameter

variable (function : Option Declaration)

mutual

/-- The text of an expression without the parentheses around it. -/
def emit : ExpressionParts → Except Breakdown String
  | parts@⟨_, _, some index, _, _, conjuncts, disjuncts, _⟩ => do
    let parameter ← emitToken function index
    let all ← emitJoined Expression.conjunction conjuncts
    let any ← emitJoined Expression.disjunction disjuncts
    return parts.ownText parameter ++ all ++ any
  | ⟨_, _, none, some constant, _, _, _, _⟩ => return constant
  | ⟨_, _, none, none, _, _, _, _⟩ => throw .constantMissing

/-- The texts of joined expressions, each in parentheses and with the operator before it. -/
def emitJoined (operator : String) : List ExpressionParts → Except Breakdown String
  | [] => return ""
  | first :: rest => do
    let text ← emit first
    let others ← emitJoined operator rest
    return operator ++ TypeName.parenthesized text ++ others

end

/-- The text of an expression. -/
def emitWhole (parts : ExpressionParts) : Except Breakdown String := do
  let text ← parts.emit function
  return TypeName.parenthesized text

end ExpressionParts

namespace EffectParts

variable (function : Option Declaration)

/-- The text of returning, possibly with a value. -/
def emitReturns (parts : EffectParts) : Except Breakdown String :=
  match parts.arguments with
  | [] => return EffectKind.returns.keyword ++ "()"
  | value :: _ => do
    let text ← value.emitWhole function
    return EffectKind.returns.keyword ++ text

/-- The text of a call. -/
def emitCalls (parts : EffectParts) : Except Breakdown String :=
  match parts.arguments with
  | [] => throw .argumentMissing
  | target :: _ => do
    let text ← target.emit function
    match parts.invocation with
    | none => throw .invocationMissing
    | some invocation =>
      return EffectKind.calls.keyword ++ "(" ++ text ++ ", " ++ invocation.token ++ ")"

/-- The rules for the kinds of effects. -/
def emitters : List (EffectKind × (EffectParts → Except Breakdown String)) :=
  [(.returns, emitReturns function), (.calls, emitCalls function),
    (.returnsNotNull, fun _ => return EffectKind.returnsNotNull.keyword ++ "()")]

/-- The text of an effect. -/
def emit (parts : EffectParts) : Except Breakdown String := do
  let text ←
    match (emitters function).lookup parts.kind with
    | some emitter => emitter parts
    | none => throw (.kindUnknown parts.kind)
  match parts.conclusion with
  | none => return text
  | some conclusion => do
    let implied ← conclusion.emitWhole function
    return text ++ Clause.implication ++ implied

end EffectParts

/-- The text of a contract. -/
def ContractParts.emit (function : Option Declaration) (parts : ContractParts) :
    Except Breakdown String := do
  let effects ← parts.effects.mapM (EffectParts.emit function)
  return Contract.block effects

/-- The text that stands for a parameter, of a function or of none. -/
def tokenOf : Option Declaration → Nat → String
  | none => placeholder
  | some function => function.token

/-- A value, unless a function is given that does not have one of the indices. -/
def granted {α : Type} (function : Option Declaration) (indices : List Nat) (value : α) :
    Except Breakdown α :=
  match function with
  | none => .ok value
  | some function => ((function.requireParameters indices).map fun _ => value).mapError .refused

/-- Indices are granted one list after the other. -/
theorem Declaration.requireParameters_append (function : Declaration) (first second : List Nat) :
    function.requireParameters (first ++ second) =
      function.requireParameters first >>= fun _ => function.requireParameters second := by
  rw [requireParameters, requireParameters, List.find?_append]
  cases first.find? (function.parameters.length < ·) <;> rfl

section Granted

variable {α β : Type} {function : Option Declaration}

/-- Without indices every value is granted. -/
theorem granted_nil (value : α) : granted function [] value = pure value := by
  cases function <;> rfl

/-- Where a granted value goes on to a granted one, that one is granted for the indices of both. -/
theorem granted_bind {first second : List Nat} {value : α} {result : β}
    {next : α → Except Breakdown β} (continued : next value = granted function second result) :
    (granted function first value >>= next) = granted function (first ++ second) result := by
  cases function with
  | none => exact continued
  | some function =>
    simp only [granted, Declaration.requireParameters_append]
    cases function.requireParameters first with
    | error error => rfl
    | ok _ => exact continued

/-- A function of a granted value is granted for the same indices. -/
theorem granted_pure {indices : List Nat} {value : α} (write : α → β) :
    (granted function indices value >>= fun value => pure (write value)) =
      granted function indices (write value) := by
  have written : (granted function indices value >>= fun value => pure (write value)) =
      granted function (indices ++ []) (write value) := granted_bind (granted_nil _).symm
  rwa [List.append_nil] at written

end Granted

/-- A natural number is the position of the item from the front. -/
theorem itemAt?_ofNat {α : Type} (items : List α) (position : Nat) :
    itemAt? items (Int.ofNat position) = items[position]? :=
  if_pos (Int.natCast_nonneg position)

/-- The token of a natural index is granted. -/
theorem emitToken_ofNat (function : Option Declaration) (index : Nat) :
    emitToken function (Int.ofNat index) = granted function [index] (tokenOf function index) := by
  cases function with
  | none => cases index <;> rfl
  | some function =>
    cases index with
    | zero => rfl
    | succ position =>
      have nonzero : ¬ Int.ofNat (position + 1) = 0 := by simp only [Int.ofNat_eq_natCast]; omega
      have before : Int.ofNat (position + 1) - 1 = Int.ofNat position := by simp
      by_cases beyond : function.parameters.length < position + 1
      · have refused : function.requireParameters [position + 1] =
            .error (function.missing (position + 1)) := by
          simp [Declaration.requireParameters, beyond]
        have outside : (function.parameters.length : Int) < Int.ofNat (position + 1) :=
          Int.ofNat_lt.mpr beyond
        rw [emitToken, if_neg nonzero, if_pos outside, granted, refused]
        rfl
      · have allowed : function.requireParameters [position + 1] = .ok () :=
          Declaration.requireParameters_eq_ok.mpr (by simpa using Nat.le_of_not_lt beyond)
        have found : position < function.parameters.length := by omega
        have inside : ¬ (function.parameters.length : Int) < Int.ofNat (position + 1) :=
          mt Int.ofNat_lt.mp beyond
        rw [emitToken, if_neg nonzero, if_neg inside, before, itemAt?_ofNat,
          List.getElem?_eq_getElem found, granted, allowed, tokenOf, Declaration.token,
          if_neg (Nat.succ_ne_zero position), Nat.add_sub_cancel, List.getElem?_eq_getElem found]
        rfl

namespace Expression

mutual

/-- From the parts of an expression its text is emitted, unless a function is given that does not
have one of the indices in it. -/
theorem emit_parts (function : Option Declaration) : ∀ expression : Expression,
    expression.parts.emit function =
      granted function expression.rendered (expression.innerText (tokenOf function))
  | ⟨.bare constant, negated, conjuncts, disjuncts, tags⟩ => (granted_nil constant).symm
  | ⟨.about index test, negated, conjuncts, disjuncts, tags⟩ => by
    have own : (parts ⟨.about index test, negated, conjuncts, disjuncts, tags⟩).ownText
        (tokenOf function index) =
          Proposition.text (tokenOf function) negated (.about index test) := by
      cases test <;> rfl
    have all := emitJoined_parts function conjunction conjuncts
    have any := emitJoined_parts function disjunction disjuncts
    change (do
      let parameter ← emitToken function (Int.ofNat index)
      let all ← ExpressionParts.emitJoined function conjunction (partsAll conjuncts)
      let any ← ExpressionParts.emitJoined function disjunction (partsAll disjuncts)
      return ExpressionParts.ownText _ parameter ++ all ++ any) = _
    rw [emitToken_ofNat, all, any, rendered, innerText, ← own, List.cons_append]
    exact granted_bind (granted_bind (granted_pure _))

/-- From the parts of joined expressions their texts are emitted, unless a function is given that
does not have one of the indices in them. -/
theorem emitJoined_parts (function : Option Declaration) (operator : String) :
    ∀ expressions : List Expression,
      ExpressionParts.emitJoined function operator (partsAll expressions) =
        granted function (renderedAll expressions)
          (joinedText (tokenOf function) operator expressions)
  | [] => (granted_nil "").symm
  | expression :: rest => by
    rw [partsAll, ExpressionParts.emitJoined, emit_parts function expression,
      emitJoined_parts function operator rest, renderedAll, joinedText]
    exact granted_bind (granted_pure _)

end

/-- From the parts of an expression its text in parentheses is emitted under the same
condition. -/
theorem emitWhole_parts (function : Option Declaration) (expression : Expression) :
    expression.parts.emitWhole function =
      granted function expression.rendered (expression.text (tokenOf function)) := by
  rw [ExpressionParts.emitWhole, emit_parts]
  exact granted_pure _

/-- The indices in the texts of several expressions are those in each. -/
theorem renderedAll_append (first second : List Expression) :
    renderedAll (first ++ second) = renderedAll first ++ renderedAll second := by
  induction first with
  | nil => rfl
  | cons expression rest hypothesis =>
    rw [List.cons_append, renderedAll, renderedAll, hypothesis, List.append_assoc]

/-- The indices in the text of an expression are those of the list of it alone. -/
theorem renderedAll_singleton (expression : Expression) :
    renderedAll [expression] = expression.rendered :=
  List.append_nil _

end Expression

/-- From the parts of an effect its text is emitted, unless a function is given that does not have
one of the indices in it. -/
theorem Effect.emit_parts (function : Option Declaration) (effect : Effect) :
    effect.parts.emit function =
      granted function effect.rendered (effect.text (tokenOf function)) := by
  obtain ⟨clause, tags⟩ := effect
  -- the rule is looked up by the kind, which the clause decides
  cases clause with
  | returns value conclusion =>
    have implied := conclusion.emitWhole_parts function
    rw [rendered, Clause.roots, Expression.renderedAll_append]
    cases value with
    | none =>
      change (do
        let implied ← conclusion.parts.emitWhole function
        return EffectKind.returns.keyword ++ "()" ++ Clause.implication ++ implied) =
          granted function (Expression.renderedAll [conclusion]) _
      rw [implied, Expression.renderedAll_singleton]
      exact granted_pure _
    | some value =>
      have returned := value.emitWhole_parts function
      change (do
        let text ← value.parts.emitWhole function >>= fun text =>
          pure (EffectKind.returns.keyword ++ text)
        let implied ← conclusion.parts.emitWhole function
        return text ++ Clause.implication ++ implied) =
          granted function (Expression.renderedAll [value] ++ Expression.renderedAll [conclusion]) _
      rw [returned, implied, Expression.renderedAll_singleton, Expression.renderedAll_singleton,
        granted_pure]
      exact granted_bind (granted_pure _)
  | returnsNotNull conclusion =>
    have implied := conclusion.emitWhole_parts function
    change (do
      let implied ← conclusion.parts.emitWhole function
      return EffectKind.returnsNotNull.keyword ++ "()" ++ Clause.implication ++ implied) =
        granted function (Expression.renderedAll [conclusion]) _
    rw [implied, Expression.renderedAll_singleton]
    exact granted_pure _
  | calls target invocation =>
    have called := target.emit_parts function
    change ((target.parts.emit function >>= fun text =>
        pure (EffectKind.calls.keyword ++ "(" ++ text ++ ", " ++ invocation.token ++ ")")) >>=
      fun text => pure text) = granted function (Expression.renderedAll [target]) _
    rw [called, Expression.renderedAll_singleton, granted_pure]
    exact granted_pure _

/-- From the parts of a contract its text is emitted, unless a function is given that does not have
one of the indices in it. -/
theorem Contract.emit_parts (function : Option Declaration) (contract : Contract) :
    contract.parts.emit function =
      granted function contract.rendered (contract.text (tokenOf function)) := by
  have lines (effects : List Effect) :
      (effects.map Effect.parts).mapM (EffectParts.emit function) =
        granted function (effects.flatMap Effect.rendered)
          (effects.map (Effect.text (tokenOf function))) := by
    induction effects with
    | nil => exact (granted_nil []).symm
    | cons effect rest hypothesis =>
      rw [List.map_cons, List.mapM_cons, effect.emit_parts, hypothesis]
      exact granted_bind (granted_pure _)
  rw [parts, ContractParts.emit, lines]
  exact granted_pure _

end KotlinContract
