import KotlinContract.Contract.Attachment
import KotlinContract.Document.Basic

/-!
# Building from documents

What a document writes is built through the same drafts that callers use, part by part in the
order in which a form lists them; the first refusal is the refusal of the whole.
-/
namespace KotlinContract

namespace TypeForm

mutual

/-- The type that a document writes. -/
def build : TypeForm → Except Error TypeName
  | .shorthand text => TypeName.ofShorthand text
  | .classForm name nullable => (ClassName.bestGuess name).map (.classType · nullable)
  | .functionForm parameters returns receiver nullable => do
    let parameters ← buildAll parameters
    let returns ← buildOption returns
    let receiver ← buildOption receiver
    return TypeName.function parameters returns receiver nullable

/-- The types that a document writes in a list. -/
def buildAll : List TypeForm → Except Error (List TypeName)
  | [] => .ok []
  | form :: rest => do
    let type ← build form
    let types ← buildAll rest
    return type :: types

/-- The type that a document may leave out. -/
def buildOption : Option TypeForm → Except Error (Option TypeName)
  | none => .ok none
  | some form => do
    let type ← build form
    return some type

end

end TypeForm

/-- The parameter that a document writes. -/
def ParameterForm.build (form : ParameterForm) : Except Error Parameter := do
  let type ← form.type.build
  Parameter.create form.name type form.modifiers

/-- The function that a document writes. -/
def FunctionForm.build (form : FunctionForm) : Except Error Declaration := do
  let draft : Declaration.Draft := { name := form.name }
  let draft := draft.addModifiers form.modifiers
  let receiver ← TypeForm.buildOption form.receiver
  let returns ← TypeForm.buildOption form.returns
  let parameters ← form.parameters.mapM ParameterForm.build
  let draft := ((draft.setReceiver receiver).setReturns returns).addParameters parameters
  (form.body.foldl Declaration.Draft.addStatement draft).build

namespace ExpressionForm

/-- The parts of a draft that do not need other expressions. A constant beside a parameter
index has to pass as a comparison. -/
def stated (index : Option Int) (negated : Bool) (constant : Option Literal) :
    Except Error Expression.Draft :=
  match index, constant with
  | some index, some value => (Expression.comparison value index negated).map (·.toDraft)
  | _, _ =>
    .ok { index, negated, constant := constant.bind Expression.draftToken }

mutual

/-- The expression that a document writes. -/
def build : ExpressionForm → Except Error Expression
  | ⟨index, negated, nullCheck, constant, instanceType, conjuncts, disjuncts⟩ => do
    let draft ← stated index negated constant
    let instanceType ← TypeForm.buildOption instanceType
    let conjuncts ← buildAll conjuncts
    let disjuncts ← buildAll disjuncts
    { draft with nullCheck, instanceType, conjuncts, disjuncts }.build

/-- The expressions that a document writes in a list. -/
def buildAll : List ExpressionForm → Except Error (List Expression)
  | [] => .ok []
  | form :: rest => do
    let expression ← build form
    let expressions ← buildAll rest
    return expression :: expressions

end

/-- The expression that a document may leave out. -/
def buildOption : Option ExpressionForm → Except Error (Option Expression)
  | none => .ok none
  | some form => form.build.map some

end ExpressionForm

namespace EffectForm

/-- The effect of calling a parameter of the function. -/
def buildCall (function : Declaration) (name : String) (invocation : Option InvocationKind) :
    Except Error Effect :=
  match invocation with
  | none => .error (.callWithoutKind name)
  | some invocation =>
    match function.parameter? name with
    | none => .error (.unknownParameter function.name name)
    | some parameter => Effect.calling parameter invocation

/-- The effect that a document writes for a function. Where it names a parameter to call,
nothing but the invocation kind is looked at besides. -/
def build (form : EffectForm) (function : Declaration) : Except Error Effect :=
  match form.calls with
  | some name => buildCall function name form.invocation
  | none =>
    match form.kind with
    | none => .error .effectWithoutKind
    | some kind => do
      let arguments ← ExpressionForm.buildAll form.arguments
      let conclusion ← ExpressionForm.buildOption form.conclusion
      { kind, invocation := form.invocation, conclusion, arguments : Effect.Draft }.build

end EffectForm

/-- The contract that a document writes for a function. -/
def ContractForm.build (form : ContractForm) (function : Declaration) :
    Except Error Contract := do
  let effects ← form.effects.mapM (·.build function)
  { effects : Contract.Draft }.build

/-- The function and the contract that a document writes. -/
def Document.build (document : Document) : Except Error (Declaration × Contract) := do
  let function ← document.function.build
  let contract ← document.contract.build function
  return (function, contract)

end KotlinContract
