import KotlinContract.Contract.Basic
import KotlinContract.Declaration.Source

/-!
# Contracts of functions

Rendering a contract for a function writes the names of its parameters in place of their
indices; it is refused at the first index in the text that the function does not have.
Attaching a contract puts it in front of the function's body. It is refused if a parameter is
called in place and the function is not inline, or if any node of the contract, written or not,
speaks about a parameter that the function does not have; the least such index is named.
-/
namespace KotlinContract

namespace Declaration

/-- The text that stands for a parameter of the function. -/
def token (function : Declaration) (index : Nat) : String :=
  if index = 0 then "this@" ++ function.name
  else
    match function.parameters[index - 1]? with
    | some parameter => parameter.name
    | none => placeholder index

/-- The refusal of an index that the function does not have. -/
def missing (function : Declaration) (index : Nat) : Error :=
  .parameterMissing index function.name function.parameters.length

/-- Refuse the first index that the function does not have. -/
def requireParameters (function : Declaration) (indices : List Nat) : Except Error Unit :=
  match indices.find? (function.parameters.length < ·) with
  | some index => .error (function.missing index)
  | none => .ok ()

end Declaration

/-- The text of an expression for a function, without the parentheses around it. -/
def Expression.renderInner (expression : Expression) (function : Declaration) :
    Except Error String := do
  function.requireParameters expression.rendered
  return expression.innerText function.token

/-- The text of an expression for a function. -/
def Expression.render (expression : Expression) (function : Declaration) :
    Except Error String := do
  function.requireParameters expression.rendered
  return expression.text function.token

/-- The text of an effect for a function. -/
def Effect.render (effect : Effect) (function : Declaration) : Except Error String := do
  function.requireParameters effect.rendered
  return effect.text function.token

/-- The text of a contract for a function. -/
def Contract.render (contract : Contract) (function : Declaration) : Except Error String := do
  function.requireParameters contract.rendered
  return contract.text function.token

/-- The function with a contract in front of its body. -/
def Declaration.attach (function : Declaration) (contract : Contract) :
    Except Error Declaration := do
  if contract.hasCall && !function.isInline then throw .notInline
  function.requireParameters contract.indices
  let block ← contract.render function
  let draft : Draft := { name := function.name }
  let draft := draft.addParameters function.parameters
  let draft := draft.addModifiers function.modifiers
  let draft := (draft.setReceiver function.receiver).setReturns function.returns
  (function.body.foldl Draft.addCode (draft.addCode block)).build

/-- The source of the function with a contract in front of its body. -/
def Declaration.sourceWith (function : Declaration) (contract : Contract) :
    Except Error String := do
  return (← function.attach contract).source

end KotlinContract
