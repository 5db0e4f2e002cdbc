import KotlinContract.Effect.Kind
import KotlinContract.Json.Value
import KotlinContract.Schema.Fault
import KotlinContract.TypeName.Basic

/-!
# Errors

Everything that building, reading, attaching and rendering contracts can refuse, by its cause.
`Error.message` holds all the wording.
-/
namespace KotlinContract

/-- What an expression can say about a parameter; it says one of these at most. -/
inductive Predicate where
  /-- A comparison with null. -/
  | nullCheck
  /-- A comparison with a constant. -/
  | constantValue
  /-- A test for a type. -/
  | instanceCheck
  deriving DecidableEq

/-- The words for a predicate. -/
def Predicate.words : Predicate → String
  | .nullCheck => "null check"
  | .constantValue => "constant value"
  | .instanceCheck => "instance check"

/-- The sets of words that a caller chooses from. -/
inductive Vocabulary where
  /-- Modifiers of functions and parameters. -/
  | modifier
  /-- Kinds of effects. -/
  | effectKind
  /-- Kinds of invocations. -/
  | invocationKind
  deriving DecidableEq

/-- The name of a set of words in messages. -/
def Vocabulary.name : Vocabulary → String
  | .modifier => "KModifier"
  | .effectKind => "ContractEffectType"
  | .invocationKind => "ContractInvocationKind"

/-- What compiled metadata may name in place of a class. -/
inductive UnsupportedType where
  /-- A type parameter. -/
  | typeParameter
  /-- A type alias. -/
  | typeAlias
  /-- Nothing. -/
  | absent
  deriving DecidableEq

/-- The name of an unsupported kind of type in messages. -/
def UnsupportedType.name : UnsupportedType → String
  | .typeParameter => "TypeParameter"
  | .typeAlias => "TypeAlias"
  | .absent => "NoneType"

/-- What was being read when a JSON value turned out to be malformed. -/
inductive Subject where
  /-- A function together with its contract. -/
  | document
  /-- A function alone. -/
  | function
  /-- A contract from compiled metadata. -/
  | metadata
  deriving DecidableEq

/-- The words for a subject in messages. -/
def Subject.words : Subject → String
  | .document => "contract document"
  | .function => "function document"
  | .metadata => "contract metadata"

/-- The name of the outermost form of a subject. -/
def Subject.form : Subject → String
  | .document => "RenderDocument"
  | .function => "FunctionDocument"
  | .metadata => "ContractDump"

/-- A reason to refuse. -/
inductive Error where
  /-- A parameter index is negative. -/
  | negativeIndex (index : Int)
  /-- An expression has several predicates. -/
  | severalPredicates (predicates : List Predicate)
  /-- An expression has neither a parameter nor a constant. -/
  | nothingStated
  /-- A comparison with null was asked for as one with a constant. -/
  | nullConstant
  /-- An effect has too many or too few arguments. -/
  | argumentCount (kind : EffectKind) (arguments : List String)
  /-- An effect lacks the conclusion that it needs. -/
  | conclusionMissing (kind : EffectKind)
  /-- An effect has a conclusion that it may not have. -/
  | conclusionForbidden (kind : EffectKind) (conclusion : String)
  /-- An effect lacks the invocation kind that it needs. -/
  | invocationMissing (kind : EffectKind)
  /-- An effect has an invocation kind that it may not have. -/
  | invocationForbidden (kind : EffectKind) (invocation : InvocationKind)
  /-- A contract has no effect. -/
  | noEffects
  /-- A function that is not inline was to call a parameter in place. -/
  | notInline
  /-- A contract refers to a parameter that the function does not have. -/
  | parameterMissing (index : Nat) (function : String) (count : Nat)
  /-- A parameter that is to be called is not of function type. -/
  | notCallable (type : TypeName)
  /-- A parameter has no name. -/
  | unnamedParameter
  /-- Several parameters have one name. -/
  | duplicateParameters (names : List String)
  /-- No class was recognised in a dotted name. -/
  | noClassIn (name : String)
  /-- A class of compiled metadata has no name to refer to it by. -/
  | anonymousClass
  /-- A class name has no simple name. -/
  | noSimpleName
  /-- An effect that calls a parameter does not say how often. -/
  | callWithoutKind (parameter : String)
  /-- An effect calls a parameter that the function does not have. -/
  | unknownParameter (function parameter : String)
  /-- An effect says neither what it is about nor what it calls. -/
  | effectWithoutKind
  /-- A document is not an object. -/
  | notAnObject (kind : Json.Kind)
  /-- A word is not among those that may be chosen. -/
  | notInVocabulary (vocabulary : Vocabulary) (shown : String)
  /-- Compiled metadata names something other than a class. -/
  | unsupported (type : UnsupportedType)
  /-- A JSON value does not have the form that it should have. -/
  | malformed (subject : Subject) (faults : List Schema.Fault)
  deriving DecidableEq

namespace Error

/-- What the arguments of a kind of effect have to be. -/
def argumentRule : EffectKind → String
  | .returnsNotNull => "cannot have constructor arguments"
  | .calls => "require exactly 1 constructor argument"
  | .returns => "require exactly 0 or 1 constructor argument"

/-- A number of faults in a form. -/
def faultCount (form : String) (faults : List Schema.Fault) : String :=
  toString faults.length ++ " validation error" ++ (if faults.length = 1 then "" else "s") ++
    " for " ++ form

/-- The line for a fault. -/
def faultLine (fault : Schema.Fault) : String :=
  Text.join "." (fault.path.map fun
    | .key name => name
    | .item position => toString position) ++ ": " ++ fault.cause.code

/-- The message of an error. -/
def message : Error → String
  | .negativeIndex index =>
    "parameter_index must be >= 0 but was " ++ toString index
  | .severalPredicates predicates =>
    "an effect expression can only have one predicate but received " ++
      Text.join " and " (predicates.map Predicate.words)
  | .nothingStated =>
    "an effect expression without a parameter_index requires a constant_value"
  | .nullConstant => "use the null_check() function for null-checked predicates"
  | .argumentCount kind arguments =>
    kind.keyword ++ " effects " ++ argumentRule kind ++ " but received [" ++
      Text.join ", " arguments ++ "]"
  | .conclusionMissing kind => kind.keyword ++ " effects must have a conclusion"
  | .conclusionForbidden kind conclusion =>
    kind.keyword ++ " effects cannot have a conclusion but received " ++ conclusion
  | .invocationMissing kind => kind.keyword ++ " effects require an invocation kind"
  | .invocationForbidden kind invocation =>
    kind.keyword ++ " effects cannot have an invocation kind but received " ++ invocation.word
  | .noEffects => "Contract must have at least one effect!"
  | .notInline => "functions with callsInPlace effects must be inline!"
  | .parameterMissing index function count =>
    "contract references parameter " ++ toString index ++ " but " ++ function ++
      " declares " ++ toString count ++ " parameter(s)"
  | .notCallable type =>
    "callsInPlace is only applicable to function parameters. Input was " ++ type.render
  | .unnamedParameter => "parameter name must not be empty"
  | .duplicateParameters names => "duplicate parameter names: " ++ Text.join ", " names
  | .noClassIn name => "couldn't make a guess for " ++ name
  | .anonymousClass => "Local/anonymous classes are not supported!"
  | .noSimpleName => "ClassName requires at least one simple name"
  | .callWithoutKind parameter =>
    "calls effect for '" ++ parameter ++ "' requires an invocation_kind"
  | .unknownParameter function parameter =>
    "Function '" ++ function ++ "' has no parameter named '" ++ parameter ++ "'"
  | .effectWithoutKind => "effect requires either a type or a calls parameter"
  | .notAnObject kind =>
    "Invalid document: expected a JSON object but got " ++ kind.word
  | .notInVocabulary vocabulary shown => shown ++ " is not a valid " ++ vocabulary.name
  | .unsupported type => "Unsupported type: " ++ type.name
  | .malformed subject faults =>
    Text.join "\n"
      (("Invalid " ++ subject.words ++ ": " ++ faultCount subject.form faults) ::
        faults.map faultLine)

end Error

end KotlinContract
