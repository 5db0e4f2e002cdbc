import KotlinContract.Contract.Basic
import KotlinContract.Metadata.Basic
import KotlinContract.TypeName.Guess

/-!
# Building from compiled contracts

A compiled contract is built through the same drafts that callers use. Only classes can be
referred to; type parameters and type aliases are not supported.
-/
namespace KotlinContract

/-- The class that a compiled type names, if it names anything. -/
def Classifier.className : Option Classifier → Except Error ClassName
  | some (.classNamed name) => ClassName.ofMetadataName name
  | some (.typeParameter _) => .error (.unsupported .typeParameter)
  | some (.typeAlias _) => .error (.unsupported .typeAlias)
  | none => .error (.unsupported .absent)

/-- The type of a classifier and a nullability. -/
def Classifier.typeName (classifier : Option Classifier) (nullable : Bool) :
    Except Error TypeName :=
  (className classifier).map (.classType · nullable)

namespace CompiledExpression

/-- The type that a compiled expression tests for. -/
def buildType : Option CompiledType → Except Error (Option TypeName)
  | none => .ok none
  | some type => (Classifier.typeName (some type.classifier) type.nullable).map some

mutual

/-- The expression that a compiled one stands for. -/
def build : CompiledExpression → Except Error Expression
  | expression@⟨_, index, constant, instanceType, conjuncts, disjuncts⟩ => do
    let instanceType ← buildType instanceType
    let conjuncts ← buildAll conjuncts
    let disjuncts ← buildAll disjuncts
    { negated := expression.negated
      nullCheck := expression.nullCheck
      index
      constant := constant.map Literal.token
      instanceType
      conjuncts
      disjuncts : Expression.Draft }.build

/-- The expressions that compiled ones stand for. -/
def buildAll : List CompiledExpression → Except Error (List Expression)
  | [] => .ok []
  | first :: rest => do
    let expression ← build first
    let expressions ← buildAll rest
    return expression :: expressions

end

end CompiledExpression

/-- The effect that a compiled one stands for. -/
def CompiledEffect.build (effect : CompiledEffect) : Except Error Effect := do
  let arguments ← CompiledExpression.buildAll effect.arguments
  let conclusion ← effect.conclusion.mapM CompiledExpression.build
  { kind := effect.kind, invocation := effect.invocation, conclusion, arguments :
    Effect.Draft }.build

/-- The contract that a compiled one stands for. -/
def CompiledContract.build (contract : CompiledContract) : Except Error Contract := do
  let effects ← contract.effects.mapM CompiledEffect.build
  { effects : Contract.Draft }.build

end KotlinContract
