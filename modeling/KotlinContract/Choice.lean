import KotlinContract.Decimal.Real
import KotlinContract.Error
import KotlinContract.Modifier
import KotlinContract.Text.Quoted

/-!
# Choosing words

Callers choose modifiers, kinds of effects and kinds of invocations by their words. A value that
is no word of its vocabulary is refused, and the refusal shows the value as `Json.inspect` writes
it: texts are quoted, lists and objects are written in brackets. A word that was chosen is shown
with its vocabulary.
-/
namespace KotlinContract

/-- A truth value. -/
def inspectedBool (value : Bool) : String := if value then "True" else "False"

namespace Json

mutual

/-- A JSON value. -/
def inspect : Json → String
  | .null => "None"
  | .boolean value => inspectedBool value
  | .integer value => Decimal.integerText value
  | .real value => Decimal.realText value
  | .text value => Text.quoted value
  | .array items => "[" ++ Text.join ", " (inspectItems items) ++ "]"
  | .object members => "\x7b" ++ Text.join ", " (inspectMembers members) ++ "\x7d"

/-- The items of a list. -/
def inspectItems : List Json → List String
  | [] => []
  | item :: rest => inspect item :: inspectItems rest

/-- The members of an object. -/
def inspectMembers : List (String × Json) → List String
  | [] => []
  | (key, value) :: rest => (Text.quoted key ++ ": " ++ inspect value) :: inspectMembers rest

end

/-- A JSON value inside other text: a text is itself, any other value is inspected. -/
def display : Json → String
  | .text value => value
  | value => inspect value

end Json

/-- A word of a vocabulary, by its name there and its text. -/
def inspectedWord (vocabulary : Vocabulary) (name word : String) : String :=
  "<" ++ vocabulary.name ++ "." ++ name ++ ": " ++ Text.quoted word ++ ">"

/-- The name of a modifier in its vocabulary. -/
def Modifier.name (modifier : Modifier) : String := modifier.keyword.toUpper

/-- A modifier. -/
def Modifier.inspect (modifier : Modifier) : String :=
  inspectedWord .modifier modifier.name modifier.keyword

/-- A kind of effect. -/
def EffectKind.inspect (kind : EffectKind) : String :=
  inspectedWord .effectKind kind.word kind.word

/-- A kind of invocation. -/
def InvocationKind.inspect (kind : InvocationKind) : String :=
  inspectedWord .invocationKind kind.word kind.word

/-- What a value chooses from a vocabulary, if it is a word of it. -/
def Vocabulary.choose {α : Type} (vocabulary : Vocabulary) (ofWord? : String → Option α)
    (value : Json) : Except Error α :=
  let found := match value with
    | .text word => ofWord? word
    | _ => none
  match found with
  | some found => .ok found
  | none => .error (.notInVocabulary vocabulary value.inspect)

/-- The modifier that a value chooses. -/
def Modifier.choose : Json → Except Error Modifier :=
  Vocabulary.modifier.choose Modifier.ofKeyword?

/-- The kind of effect that a value chooses. -/
def EffectKind.choose : Json → Except Error EffectKind :=
  Vocabulary.effectKind.choose EffectKind.ofWord?

/-- The kind of invocation that a value chooses. -/
def InvocationKind.choose : Json → Except Error InvocationKind :=
  Vocabulary.invocationKind.choose InvocationKind.ofWord?

end KotlinContract
