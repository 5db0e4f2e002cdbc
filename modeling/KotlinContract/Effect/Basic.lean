import KotlinContract.Effect.Kind
import KotlinContract.Expression.Draft

/-!
# Effects

One fact that a contract states about a function: that returning, or returning a certain value,
implies a conclusion, or that a parameter is called in place. A clause has exactly the parts
that its kind of effect has; the draft of an effect may have any, and building it refuses the
parts that do not fit, in a fixed order.
-/
namespace KotlinContract

/-- What an effect says. -/
inductive Clause where
  /-- Returning, possibly with a value, implies the conclusion. -/
  | returns (value : Option Expression) (conclusion : Expression)
  /-- Returning a value other than null implies the conclusion. -/
  | returnsNotNull (conclusion : Expression)
  /-- The target is called in place, so many times. -/
  | calls (target : Expression) (invocation : InvocationKind)

/-- An effect. -/
structure Effect where
  /-- What it says. -/
  clause : Clause
  /-- What the caller attached. -/
  tags : Tags

namespace Clause

/-- The kind of effect. -/
def kind : Clause → EffectKind
  | .returns .. => .returns
  | .returnsNotNull _ => .returnsNotNull
  | .calls .. => .calls

/-- The expressions in the parentheses of the effect. -/
def arguments : Clause → List Expression
  | .returns value _ => value.toList
  | .returnsNotNull _ => []
  | .calls target _ => [target]

/-- The conclusion, if there is one. -/
def conclusion? : Clause → Option Expression
  | .returns _ conclusion => some conclusion
  | .returnsNotNull conclusion => some conclusion
  | .calls .. => none

/-- How often the target is called, if there is one. -/
def invocation? : Clause → Option InvocationKind
  | .calls _ invocation => some invocation
  | _ => none

/-- The expressions of the effect, in the order in which they are written. -/
def roots (clause : Clause) : List Expression := clause.arguments ++ clause.conclusion?.toList

/-- What stands between an effect and its conclusion. -/
def implication : String := " implies "

/-- The text of an effect. The target of a call stands without parentheses of its own. -/
def text (token : Nat → String) : Clause → String
  | .returns value conclusion =>
    EffectKind.returns.keyword ++ (value.elim "()" (·.text token)) ++ implication ++
      conclusion.text token
  | .returnsNotNull conclusion =>
    EffectKind.returnsNotNull.keyword ++ "()" ++ implication ++ conclusion.text token
  | .calls target invocation =>
    EffectKind.calls.keyword ++ "(" ++ target.innerText token ++ ", " ++ invocation.token ++ ")"

end Clause

namespace Effect

/-- The text of an effect. -/
def text (token : Nat → String) (effect : Effect) : String := effect.clause.text token

/-- The text of an effect before it is attached to a function. -/
def canonical (effect : Effect) : String := effect.text placeholder

/-- Two effects are equal if their texts are. -/
instance : BEq Effect := ⟨fun left right => left.canonical == right.canonical⟩

/-- The parameters in the text of an effect, in the order in which they occur there. -/
def rendered (effect : Effect) : List Nat := Expression.renderedAll effect.clause.roots

/-- The parameters that any node of any expression of the effect speaks about. -/
def indices (effect : Effect) : List Nat := effect.clause.roots.flatMap Expression.indices

/-- Whether the effect calls a parameter in place. -/
def isCall (effect : Effect) : Bool := effect.clause.kind == .calls

/-- An effect in the making. -/
structure Draft where
  /-- What the effect is about. -/
  kind : EffectKind
  /-- How often a parameter is called. -/
  invocation : Option InvocationKind := none
  /-- What is implied. -/
  conclusion : Option Expression := none
  /-- The expressions in the parentheses of the effect. -/
  arguments : List Expression := []
  /-- What the caller attached. -/
  tags : Tags := .empty

namespace Draft

/-- The refusal of the arguments, if there are too many or too few. -/
def argumentCount (draft : Draft) : Error :=
  .argumentCount draft.kind (draft.arguments.map Expression.canonical)

/-- The conclusion that an effect of this kind needs, if no invocation kind stands beside it. -/
def impliedConclusion (draft : Draft) : Except Error Expression :=
  match draft.conclusion, draft.invocation with
  | none, _ => .error (.conclusionMissing draft.kind)
  | some _, some invocation => .error (.invocationForbidden draft.kind invocation)
  | some conclusion, none => .ok conclusion

/-- The invocation kind that an effect of this kind needs, if no conclusion stands beside it. -/
def requiredInvocation (draft : Draft) : Except Error InvocationKind :=
  match draft.conclusion, draft.invocation with
  | some conclusion, _ => .error (.conclusionForbidden draft.kind conclusion.canonical)
  | none, none => .error (.invocationMissing draft.kind)
  | none, some invocation => .ok invocation

/-- The clause of the draft, or why there is none. The number of arguments is looked at first,
then the conclusion, then the invocation kind. -/
def clause (draft : Draft) : Except Error Clause :=
  match draft.kind, draft.arguments with
  | .returns, [] => draft.impliedConclusion.map (.returns none)
  | .returns, [value] => draft.impliedConclusion.map (.returns (some value))
  | .returnsNotNull, [] => draft.impliedConclusion.map .returnsNotNull
  | .calls, [target] => draft.requiredInvocation.map (.calls target)
  | _, _ => .error draft.argumentCount

/-- The effect, unless the draft is refused. -/
def build (draft : Draft) : Except Error Effect :=
  draft.clause.map fun clause => { clause, tags := draft.tags }

end Draft

/-- The draft that an effect can be built from again. -/
def toDraft (effect : Effect) : Draft where
  kind := effect.clause.kind
  invocation := effect.clause.invocation?
  conclusion := effect.clause.conclusion?
  arguments := effect.clause.arguments
  tags := effect.tags

/-- Building the draft of an effect gives the effect. -/
@[simp] theorem build_toDraft (effect : Effect) : effect.toDraft.build = .ok effect := by
  obtain ⟨clause, tags⟩ := effect
  cases clause with
  | returns value conclusion => cases value <;> rfl
  | returnsNotNull conclusion => rfl
  | calls target invocation => rfl

/-- The effect of calling a target in place. -/
def callingTarget (target : Expression) (invocation : InvocationKind) : Except Error Effect :=
  { kind := .calls, invocation := some invocation, arguments := [target] : Draft }.build

/-- The effect of calling a parameter in place; it has to be of function type. -/
def calling (parameter : Parameter) (invocation : InvocationKind) : Except Error Effect :=
  if parameter.type.isFunction then
    callingTarget (Expression.reference parameter.name) invocation
  else .error (.notCallable parameter.type)

/-- The effect that returning implies a conclusion. -/
def returning (conclusion : Expression) : Except Error Effect :=
  { kind := .returns, conclusion := some conclusion : Draft }.build

/-- The effect that returning a value implies a conclusion. -/
def returningValue (value : Literal) (conclusion : Expression) : Except Error Effect := do
  let argument ← Expression.bareConstant value
  { kind := .returns, conclusion := some conclusion, arguments := [argument] : Draft }.build

/-- The effect that returning a value other than null implies a conclusion. -/
def returningNotNull (conclusion : Expression) : Except Error Effect :=
  { kind := .returnsNotNull, conclusion := some conclusion : Draft }.build

end Effect

end KotlinContract
