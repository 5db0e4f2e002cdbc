import KotlinContract.Metadata.Basic
import KotlinContract.Schema.Scalar

/-!
# Reading compiled contracts

The JSON form of a compiled contract. Flags and parameter indices are whole numbers and nothing
that stands for one; what a type names is told apart by the value under `kind`, and an object of
each kind refuses keys that it does not know.
-/
namespace KotlinContract

open Schema

namespace Classifier

/-- The form of a kind of classifier: its name, the key that it has beside the kind, and how the
value of that key is read. -/
structure Form where
  /-- The value under `kind`. -/
  kind : String
  /-- The other key. -/
  key : String
  /-- The reading of the other key. -/
  read : Json → Checked Classifier

/-- The kinds of classifiers. -/
def forms : List Form :=
  [⟨"class", "name", fun value => (text value).map .classNamed⟩,
    ⟨"type_parameter", "id", fun value => (integer value).map .typeParameter⟩,
    ⟨"type_alias", "name", fun value => (text value).map .typeAlias⟩]

/-- The members of a classifier of a known kind. -/
def Form.readMembers (form : Form) (members : List (String × Json)) : Checked Classifier :=
  (required form.read form.key members <* noOtherKeys ["kind", form.key] members).under
    (.key form.kind)

/-- A classifier. -/
def read : Json → Checked Classifier
  | .object members =>
    match Json.member? members "kind" with
    | none => .fault .tagMissing
    | some (.text kind) =>
      match forms.find? (·.kind = kind) with
      | some form => form.readMembers members
      | none => .fault .tagUnknown
    | some _ => .fault .tagUnknown
  | _ => .fault .notDiscriminated

end Classifier

/-- A compiled type. -/
def CompiledType.read : Json → Checked CompiledType
  | .object members =>
    CompiledType.mk <$> required Classifier.read "classifier" members <*>
      optional boolean false "nullable" members
  | _ => .fault .notAnObject

namespace CompiledExpression

/-- A constant inside the object that holds it. -/
def readConstant : Json → Checked Literal
  | .object members => required Schema.constant "value" members
  | _ => .fault .notAnObject

mutual

/-- A compiled expression. -/
def read : Json → Checked CompiledExpression
  | .object members =>
    CompiledExpression.mk <$> optional exactInteger 0 "flags" members <*>
      optional (nullable exactInteger) none "parameter_index" members <*>
      optional (nullable readConstant) none "constant_value" members <*>
      optional (nullable CompiledType.read) none "is_instance_type" members <*>
      part "and_arguments" [] (readUnder "and_arguments" members) <*>
      part "or_arguments" [] (readUnder "or_arguments" members)
  | _ => .fault .notAnObject

/-- The expressions under a key, if it is there. -/
def readUnder (key : String) :
    List (String × Json) → Option (Checked (List CompiledExpression))
  | [] => none
  | (name, value) :: rest =>
    if name = key then some (readList value) else readUnder key rest

/-- A list of compiled expressions. -/
def readList : Json → Checked (List CompiledExpression)
  | .array values => readItems 0 values
  | _ => .fault .notAList

/-- Compiled expressions from a position on. -/
def readItems (position : Nat) : List Json → Checked (List CompiledExpression)
  | [] => .valid []
  | value :: rest =>
    ((read value).under (.item position)).cons (readItems (position + 1) rest)

end

end CompiledExpression

/-- The kind of invocation that a word of compiled metadata stands for. -/
def InvocationKind.ofCompiledWord? (word : String) : Option InvocationKind :=
  compiled.find? (·.word = word)

/-- A compiled effect. -/
def CompiledEffect.read : Json → Checked CompiledEffect
  | .object members =>
    CompiledEffect.mk <$> required (word EffectKind.ofWord?) "type" members <*>
      optional (nullable (word InvocationKind.ofCompiledWord?)) none "invocation_kind" members <*>
      optional (list CompiledExpression.read) [] "constructor_arguments" members <*>
      optional (nullable CompiledExpression.read) none "conclusion" members
  | _ => .fault .notAnObject

/-- A compiled contract. -/
def CompiledContract.read : Json → Checked CompiledContract
  | .object members =>
    CompiledContract.mk <$> optional (list CompiledEffect.read) [] "effects" members
  | _ => .fault .notAnObject

end KotlinContract
