import KotlinContract.Document.Build
import KotlinContract.Metadata.Build
import KotlinContract.Metadata.Reader

/-!
# From JSON to functions and contracts

A document is an object with a function and either a contract or compiled metadata. If the key
for metadata is there, the function is read and built first and the contract comes from the
metadata; otherwise the whole document is read before anything is built.
-/
namespace KotlinContract

/-- The form that was read, or the refusal of what was read with all its faults. -/
def Schema.Checked.orRefuse {α : Type} (subject : Subject) :
    Schema.Checked α → Except Error α
  | .valid value => .ok value
  | .invalid faults => .error (.malformed subject faults)

namespace Document

/-- The key under which a document has compiled metadata. -/
def metadataKey : String := "metadata"

/-- The function that a JSON value describes. -/
def parseFunction (value : Json) : Except Error Declaration := do
  let form ← (FunctionForm.read value).orRefuse .function
  form.build

/-- The compiled contract that a JSON value describes. -/
def parseCompiled (value : Json) : Except Error CompiledContract :=
  (CompiledContract.read value).orRefuse .metadata

/-- The function and the contract that a JSON value describes. -/
def parse (value : Json) : Except Error (Declaration × Contract) :=
  match value with
  | .object members =>
    match Json.member? members metadataKey with
    | some metadata => do
      let function ← parseFunction ((Json.member? members "function").getD .null)
      let compiled ← parseCompiled metadata
      let contract ← compiled.build
      return (function, contract)
    | none => do
      let document ← (Document.read value).orRefuse .document
      document.build
  | _ => .error (.notAnObject value.kind)

end Document

end KotlinContract
