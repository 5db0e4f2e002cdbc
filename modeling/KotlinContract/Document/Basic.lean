import KotlinContract.Document.Expression
import KotlinContract.Effect.Basic

/-!
# Documents

A document describes a function and the contract to attach to it. The forms here have the parts
that documents may have and the values that those parts may take, before anything is built:
names may clash, types may name no class, and effects may be incomplete.
-/
namespace KotlinContract

/-- A parameter as a document writes it. -/
structure ParameterForm where
  /-- Its name. -/
  name : String
  /-- Its type. -/
  type : TypeForm
  /-- Its modifiers. -/
  modifiers : List Modifier

/-- A function as a document writes it. -/
structure FunctionForm where
  /-- Its name. -/
  name : String
  /-- Its modifiers. -/
  modifiers : List Modifier
  /-- The type of its receiver. -/
  receiver : Option TypeForm
  /-- The type of its result. -/
  returns : Option TypeForm
  /-- Its parameters. -/
  parameters : List ParameterForm
  /-- The statements of its body. -/
  body : List String

/-- An effect as a document writes it: either the name of the parameter that is called, or all
the parts of a draft. -/
structure EffectForm where
  /-- What the effect is about. -/
  kind : Option EffectKind
  /-- The name of the parameter that is called. -/
  calls : Option String
  /-- How often a parameter is called. -/
  invocation : Option InvocationKind
  /-- The expressions in the parentheses of the effect. -/
  arguments : List ExpressionForm
  /-- What is implied. -/
  conclusion : Option ExpressionForm

/-- A contract as a document writes it. -/
structure ContractForm where
  /-- Its effects. -/
  effects : List EffectForm

/-- A function and its contract as a document writes them. -/
structure Document where
  /-- The function. -/
  function : FunctionForm
  /-- The contract. -/
  contract : ContractForm

open Schema

/-- A modifier. -/
def Modifier.read : Json → Checked Modifier := word Modifier.ofKeyword?

/-- A parameter. -/
def ParameterForm.read : Json → Checked ParameterForm
  | .object members =>
    ParameterForm.mk <$> required text "name" members <*>
      required TypeForm.read "type" members <*>
      optional (list Modifier.read) [] "modifiers" members
  | _ => .fault .notAnObject

/-- A function. -/
def FunctionForm.read : Json → Checked FunctionForm
  | .object members =>
    FunctionForm.mk <$> required text "name" members <*>
      optional (list Modifier.read) [] "modifiers" members <*>
      optional (nullable TypeForm.read) none "receiver" members <*>
      optional (nullable TypeForm.read) none "returns" members <*>
      optional (list ParameterForm.read) [] "parameters" members <*>
      optional (list text) [] "body" members
  | _ => .fault .notAnObject

/-- An effect. -/
def EffectForm.read : Json → Checked EffectForm
  | .object members =>
    EffectForm.mk <$> optional (nullable (word EffectKind.ofWord?)) none "type" members <*>
      optional (nullable text) none "calls" members <*>
      optional (nullable (word InvocationKind.ofWord?)) none "invocation_kind" members <*>
      optional (list ExpressionForm.read) [] "constructor_arguments" members <*>
      optional (nullable ExpressionForm.read) none "conclusion" members
  | _ => .fault .notAnObject

/-- A contract. -/
def ContractForm.read : Json → Checked ContractForm
  | .object members =>
    ContractForm.mk <$> optional (list EffectForm.read) [] "effects" members
  | _ => .fault .notAnObject

/-- A function and its contract. -/
def Document.read : Json → Checked Document
  | .object members =>
    Document.mk <$> required FunctionForm.read "function" members <*>
      required ContractForm.read "contract" members
  | _ => .fault .notAnObject

end KotlinContract
