import KotlinContract.Declaration.Basic
import KotlinContract.Expression.Basic
import KotlinContract.Text.CharacterClass

/-!
# Building expressions

An expression is assembled in a draft that holds every part on its own; building it checks the
index, that there is at most one predicate, and that something is said at all. The factories
build the usual expressions in one step.
-/
namespace KotlinContract.Expression

/-- An expression in the making. -/
structure Draft where
  /-- Whether the opposite is meant. -/
  negated : Bool := false
  /-- Whether the parameter is compared with null. -/
  nullCheck : Bool := false
  /-- The parameter that is spoken about. -/
  index : Option Int := none
  /-- The constant that the parameter is compared with, or that stands by itself. -/
  constant : Option String := none
  /-- The type that the parameter is tested for. -/
  instanceType : Option TypeName := none
  /-- The expressions joined by a conjunction. -/
  conjuncts : List Expression := []
  /-- The expressions joined by a disjunction. -/
  disjuncts : List Expression := []
  /-- What the caller attached. -/
  tags : Tags := .empty

namespace Draft

/-- The predicates that the draft has. -/
def predicates (draft : Draft) : List Predicate :=
  (if draft.nullCheck then [.nullCheck] else []) ++
    (if draft.constant.isSome then [.constantValue] else []) ++
    (if draft.instanceType.isSome then [.instanceCheck] else [])

/-- What the draft says about the parameter, if it has one predicate at most. -/
def test (draft : Draft) : Test :=
  if draft.nullCheck then .isNull
  else
    match draft.constant, draft.instanceType with
    | some token, _ => .equals token
    | none, some type => .isInstance type
    | none, none => .holds

/-- The proposition of the draft, or why there is none. -/
def proposition (draft : Draft) : Except Error Proposition :=
  let stated : Except Error Proposition :=
    if 1 < draft.predicates.length then .error (.severalPredicates draft.predicates)
    else
      match draft.index, draft.constant with
      | some index, _ => .ok (.about index.toNat draft.test)
      | none, some token => .ok (.bare token)
      | none, none => .error .nothingStated
  match draft.index with
  | some index => if index < 0 then .error (.negativeIndex index) else stated
  | none => stated

/-- The expression, unless the draft is refused. -/
def build (draft : Draft) : Except Error Expression :=
  draft.proposition.map fun proposition =>
    { proposition
      negated := draft.negated
      conjuncts := draft.conjuncts
      disjuncts := draft.disjuncts
      tags := draft.tags }

end Draft

/-- The draft that an expression can be built from again. -/
def toDraft (expression : Expression) : Draft where
  negated := expression.negated
  nullCheck := expression.isNullCheck
  index := expression.index?.map Int.ofNat
  constant := expression.constant?
  instanceType := expression.instanceType?
  conjuncts := expression.conjuncts
  disjuncts := expression.disjuncts
  tags := expression.tags

/-- Building the draft of an expression gives the expression. -/
@[simp] theorem build_toDraft (expression : Expression) :
    expression.toDraft.build = .ok expression := by
  obtain ⟨proposition, negated, conjuncts, disjuncts, tags⟩ := expression
  cases proposition with
  | bare token => rfl
  | about index test => cases test <;> rfl

/-- Join an expression by a conjunction. -/
def and (expression argument : Expression) : Except Error Expression :=
  let draft := expression.toDraft
  { draft with conjuncts := draft.conjuncts ++ [argument] }.build

/-- Join an expression by a disjunction. -/
def or (expression argument : Expression) : Except Error Expression :=
  let draft := expression.toDraft
  { draft with disjuncts := draft.disjuncts ++ [argument] }.build

/-- Refuse a negative index before anything else is looked at. -/
def requireIndex (index : Int) : Except Error Unit :=
  if index < 0 then .error (.negativeIndex index) else .ok ()

/-- Whether a token is the null literal, white space aside. -/
def isNullToken (token : String) : Bool := Text.trim token.toList == nullToken.toList

/-- The token that a value puts into a draft; the null value puts none. -/
def draftToken : Literal → Option String
  | .null => none
  | value => some value.token

/-- A bare constant. -/
def bareConstant (value : Literal) : Except Error Expression :=
  { constant := draftToken value : Draft }.build

/-- A comparison of a parameter with a constant. A comparison with null has to be asked for as
one. -/
def comparison (value : Literal) (index : Int) (negated : Bool) : Except Error Expression := do
  requireIndex index
  if isNullToken value.token then throw .nullConstant
  { constant := draftToken value, index := some index, negated : Draft }.build

/-- A comparison of a parameter with a constant, or without a parameter a bare constant. -/
def constantValue (value : Literal) (index : Option Int) (negated : Bool) :
    Except Error Expression :=
  match index with
  | none => bareConstant value
  | some index => comparison value index negated

/-- A parameter by its name, as the target of a call. -/
def reference (name : String) : Expression where
  proposition := .bare name
  negated := false
  conjuncts := []
  disjuncts := []
  tags := .empty

/-- A test of a parameter for a type. -/
def isInstance (type : TypeName) (index : Int) (negated : Bool) :
    Except Error Expression := do
  requireIndex index
  { instanceType := some type, index := some index, negated : Draft }.build

/-- A comparison of a parameter with null. -/
def nullCheck (index : Int) (negated : Bool) : Except Error Expression := do
  requireIndex index
  { nullCheck := true, index := some index, negated : Draft }.build

end KotlinContract.Expression
