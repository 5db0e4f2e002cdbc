import KotlinContract.Choice
import KotlinContract.Contract.Basic

/-!
# Inspecting what is built

The text of a type, a function, an expression, an effect or a contract that shows how it is made:
the name of what it is and its parts in parentheses. Texts are quoted; a list of one item has a
comma after it. What is known by its canonical text shows that.
-/
namespace KotlinContract

/-- Items in parentheses. -/
def inspectedTuple : List String → String
  | [] => "()"
  | [item] => "(" ++ item ++ ",)"
  | items => "(" ++ Text.join ", " items ++ ")"

/-- A named value with its named parts. -/
def inspectedRecord (name : String) (parts : List (String × String)) : String :=
  name ++ "(" ++ Text.join ", " (parts.map fun (part, value) => part ++ "=" ++ value) ++ ")"

/-- A value that may be missing. -/
def inspectedOption {α : Type} (inspect : α → String) (value : Option α) : String :=
  value.elim "None" inspect

namespace TypeName

mutual

/-- A type. -/
def inspect : TypeName → String
  | .classType name nullable =>
    inspectedRecord "ClassName"
      [("package_name", Text.quoted name.package),
        ("simple_names", inspectedTuple (name.simpleNames.map Text.quoted)),
        ("nullable", inspectedBool nullable)]
  | .functionType parameters result receiver nullable =>
    inspectedRecord "LambdaTypeName"
      [("parameters", inspectedTuple (inspectAll parameters)), ("return_type", inspect result),
        ("receiver", match receiver with
          | none => "None"
          | some receiver => inspect receiver),
        ("nullable", inspectedBool nullable)]

/-- Several types. -/
def inspectAll : List TypeName → List String
  | [] => []
  | type :: types => inspect type :: inspectAll types

end

end TypeName

/-- A parameter. -/
def Parameter.inspect (parameter : Parameter) : String :=
  inspectedRecord "ParameterSpec"
    [("name", Text.quoted parameter.name), ("type", parameter.type.inspect),
      ("modifiers", inspectedTuple (parameter.modifiers.map Modifier.inspect))]

/-- A declaration. -/
def Declaration.inspect (function : Declaration) : String :=
  inspectedRecord "FunSpec"
    [("name", Text.quoted function.name),
      ("parameters", inspectedTuple (function.parameters.map Parameter.inspect)),
      ("modifiers", inspectedTuple (function.modifiers.map Modifier.inspect)),
      ("receiver", inspectedOption TypeName.inspect function.receiver),
      ("returns", inspectedOption TypeName.inspect function.returns),
      ("body", inspectedTuple (function.body.map Text.quoted))]

/-- The name of what an expression is. -/
def Expression.sortName : String := "ContractEffectExpression"

/-- The name of what an effect is. -/
def Effect.sortName : String := "ContractEffect"

/-- The name of what a contract is. -/
def Contract.sortName : String := "Contract"

/-- A value that is known by its canonical text. -/
def inspectedText (name text : String) : String := name ++ "(" ++ Text.quoted text ++ ")"

/-- An expression. -/
def Expression.inspect (expression : Expression) : String :=
  inspectedText sortName expression.canonical

/-- An effect. -/
def Effect.inspect (effect : Effect) : String := inspectedText sortName effect.canonical

/-- A contract. -/
def Contract.inspect (contract : Contract) : String := inspectedText sortName contract.canonical

end KotlinContract
