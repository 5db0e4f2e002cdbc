import KotlinContract.Contract.Basic
import KotlinContract.Metadata.Basic

/-!
# Outlines

What a value consists of, as a JSON value that other tools can read. An outline has the parts
of a value under their names; types inside it, and the values that callers attached, are given
by their texts. The outline of an expression leaves out the parts that are not there. The
outline of a compiled contract has all parts; how constants and classifiers are shown in it is
up to the caller.
-/
namespace KotlinContract

namespace Outline

/-- Texts as a JSON value. -/
def texts (values : List String) : Json := .array (values.map .text)

/-- A value that may be missing. -/
def optional {α : Type} (outline : α → Json) (value : Option α) : Json :=
  value.elim .null outline

/-- A member that says that something is so; if it is not, there is no such member. -/
def mark (key : String) (holds : Bool) : List (String × Json) :=
  if holds then [(key, .boolean true)] else []

/-- A member for a value that may be missing; without a value there is no such member. -/
def part (key : String) (value : Option Json) : List (String × Json) :=
  value.elim [] fun value => [(key, value)]

/-- A member for a list; without items there is no such member. -/
def parts (key : String) (items : List Json) : List (String × Json) :=
  if items.isEmpty then [] else [(key, .array items)]

end Outline

open Outline

namespace TypeName

mutual

/-- The outline of a type. -/
def outline : TypeName → Json
  | .classType name nullable =>
    .object
      [("kind", .text "class"), ("package", .text name.package),
        ("names", texts name.simpleNames), ("nullable", .boolean nullable),
        ("text", .text (render (.classType name nullable)))]
  | .functionType parameters result receiver nullable =>
    .object
      [("kind", .text "lambda"), ("parameters", .array (outlineAll parameters)),
        ("returns", outline result),
        ("receiver", match receiver with
          | none => .null
          | some receiver => outline receiver),
        ("nullable", .boolean nullable),
        ("text", .text (render (.functionType parameters result receiver nullable)))]

/-- The outlines of several types. -/
def outlineAll : List TypeName → List Json
  | [] => []
  | type :: types => outline type :: outlineAll types

end

/-- The text of a type as a JSON value. -/
def textJson (type : TypeName) : Json := .text type.render

end TypeName

/-- The outline of a parameter. -/
def Parameter.outline (parameter : Parameter) : Json :=
  .object
    [("name", .text parameter.name), ("type", parameter.type.textJson),
      ("modifiers", texts (parameter.modifiers.map Modifier.keyword))]

/-- The outline of a declaration in the making. -/
def Declaration.Draft.outline (draft : Declaration.Draft) : Json :=
  .object
    [("name", .text draft.name), ("parameters", .array (draft.parameters.map Parameter.outline)),
      ("modifiers", texts (draft.modifiers.map Modifier.keyword)),
      ("receiver", optional TypeName.textJson draft.receiver),
      ("returns", optional TypeName.textJson draft.returns), ("body", texts draft.body)]

/-- The outline of a declaration. -/
def Declaration.outline (function : Declaration) : Json := function.toDraft.outline

namespace Expression

/-- The outline of an expression in the making, from those of the expressions that are joined
to it. -/
def Draft.outlineWith (draft : Draft) (conjuncts disjuncts : List Json) : Json :=
  .object
    (mark "negated" draft.negated ++ mark "null_check" draft.nullCheck ++
      part "parameter_index" (draft.index.map .integer) ++
      part "constant_value" (draft.constant.map .text) ++
      part "instance_type" (draft.instanceType.map TypeName.textJson) ++
      parts "and" conjuncts ++ parts "or" disjuncts)

mutual

/-- The outline of an expression. -/
def outline : Expression → Json
  | expression@⟨_, _, conjuncts, disjuncts, _⟩ =>
    expression.toDraft.outlineWith (outlineAll conjuncts) (outlineAll disjuncts)

/-- The outlines of several expressions. -/
def outlineAll : List Expression → List Json
  | [] => []
  | expression :: rest => outline expression :: outlineAll rest

end

/-- The outline of an expression in the making. -/
def Draft.outline (draft : Draft) : Json :=
  draft.outlineWith (outlineAll draft.conjuncts) (outlineAll draft.disjuncts)

end Expression

/-- The outline of an effect in the making. -/
def Effect.Draft.outline (draft : Effect.Draft) : Json :=
  .object
    [("type", .text draft.kind.word),
      ("invocation_kind", optional (.text ·.word) draft.invocation),
      ("arguments", .array (Expression.outlineAll draft.arguments)),
      ("conclusion", optional Expression.outline draft.conclusion)]

/-- The outline of an effect. -/
def Effect.outline (effect : Effect) : Json := effect.toDraft.outline

/-- The outline of a contract. -/
def Contract.outline (contract : Contract) : Json :=
  .object [("effects", .array (contract.effects.map Effect.outline))]

/-- The outline of a compiled type. -/
def CompiledType.outline (classifier : Classifier → Json) (type : CompiledType) : Json :=
  .object [("classifier", classifier type.classifier), ("nullable", .boolean type.nullable)]

namespace CompiledExpression

mutual

/-- The outline of a compiled expression. -/
def outline (constant : Literal → Json) (classifier : Classifier → Json) :
    CompiledExpression → Json
  | expression@⟨flags, index, value, instanceType, conjuncts, disjuncts⟩ =>
    .object
      [("flags", .integer flags), ("parameter_index", optional .integer index),
        ("constant_value", optional constant value),
        ("is_instance_type", optional (CompiledType.outline classifier) instanceType),
        ("and_arguments", .array (outlineAll constant classifier conjuncts)),
        ("or_arguments", .array (outlineAll constant classifier disjuncts)),
        ("negated", .boolean expression.negated), ("null_check", .boolean expression.nullCheck)]

/-- The outlines of several compiled expressions. -/
def outlineAll (constant : Literal → Json) (classifier : Classifier → Json) :
    List CompiledExpression → List Json
  | [] => []
  | expression :: rest =>
    outline constant classifier expression :: outlineAll constant classifier rest

end

end CompiledExpression

/-- The outline of a compiled effect. -/
def CompiledEffect.outline (constant : Literal → Json) (classifier : Classifier → Json)
    (effect : CompiledEffect) : Json :=
  .object
    [("type", .text effect.kind.word),
      ("invocation_kind", optional (.text ·.word) effect.invocation),
      ("constructor_arguments",
        .array (CompiledExpression.outlineAll constant classifier effect.arguments)),
      ("conclusion",
        optional (CompiledExpression.outline constant classifier) effect.conclusion)]

/-- The outline of a compiled contract. -/
def CompiledContract.outline (constant : Literal → Json) (classifier : Classifier → Json)
    (contract : CompiledContract) : Json :=
  .object
    [("effects", .array (contract.effects.map (CompiledEffect.outline constant classifier)))]

/-- The words for the kinds of values that were attached, in ascending order. -/
def Tags.outline (tags : Tags) : Json :=
  texts (Ascending.ofList (tags.kinds.map Json.Kind.word))

end KotlinContract
