import KotlinContract.Proofs.Document.Acceptance
import KotlinContract.Proofs.Expression.Negation
import KotlinContract.Proofs.TypeName.Metadata
import Mathlib.Data.Int.Bitwise

/-!
# Compiled contracts as documents

A compiled contract can be written as a document: bits become truth values, constants their tokens,
and names of classes dotted names. Where class names are conventional and no parameter is compared
with null as with a constant, building from the compiled contract and from the document comes to the
same (`CompiledContract.build_alike_toForm`).
-/
namespace KotlinContract

/-- A compiled type as a document writes it; what is not a class has no name there. -/
def CompiledType.toForm (type : CompiledType) : TypeForm :=
  match type.classifier with
  | .classNamed name => .classForm (Text.replace '/' '.' name) type.nullable
  | _ => .classForm "" type.nullable

namespace CompiledExpression

mutual

/-- A compiled expression as a document writes it. -/
def toForm : CompiledExpression → ExpressionForm
  | ⟨flags, index, constant, instanceType, conjuncts, disjuncts⟩ =>
    { index
      negated := flags.testBit 0
      nullCheck := flags.testBit 1
      constant := constant.map (.verbatim ·.token)
      instanceType := instanceType.map CompiledType.toForm
      conjuncts := toForms conjuncts
      disjuncts := toForms disjuncts }

/-- Compiled expressions as a document writes them. -/
def toForms : List CompiledExpression → List ExpressionForm
  | [] => []
  | first :: rest => first.toForm :: toForms rest

end

mutual

/-- The compiled expression and all that are joined to it at any depth. -/
def nodes : CompiledExpression → List CompiledExpression
  | compiled@⟨_, _, _, _, conjuncts, disjuncts⟩ =>
    compiled :: nodesAll conjuncts ++ nodesAll disjuncts

/-- The nodes of several compiled expressions. -/
def nodesAll : List CompiledExpression → List CompiledExpression
  | [] => []
  | first :: rest => first.nodes ++ nodesAll rest

end

/-- What is assumed of each node of a compiled expression. -/
structure Conventional (node : CompiledExpression) : Prop where
  /-- A type is a class with a conventional name. -/
  named : ∀ type, node.instanceType = some type →
    ∃ name, type.classifier = .classNamed name ∧ ClassName.Conventional name
  /-- A parameter is not compared with null as with a constant. -/
  notNull : node.index.isSome = true → ∀ value, node.constant = some value →
    Expression.isNullToken value.token = false

/-- The lowest bit of two's complement decides whether the opposite is meant. -/
theorem negated_eq_testBit (compiled : CompiledExpression) :
    compiled.negated = compiled.flags.testBit 0 := by
  rw [negated, Bool.eq_iff_iff, beq_iff_eq]
  cases compiled.flags with
  | ofNat natural =>
    rw [Int.testBit, Nat.testBit_zero, decide_eq_true_eq, Int.ofNat_eq_natCast]
    omega
  | negSucc natural =>
    rw [Int.testBit, Nat.testBit_zero, Bool.not_eq_true', decide_eq_false_iff_not, Int.negSucc_eq]
    omega

/-- The second lowest bit of two's complement decides whether a parameter is compared with null. -/
theorem nullCheck_eq_testBit (compiled : CompiledExpression) :
    compiled.nullCheck = compiled.flags.testBit 1 := by
  have halved : compiled.flags.testBit 1 = (compiled.flags / 2).testBit 0 := by
    cases compiled.flags with
    | ofNat natural => exact Nat.testBit_succ ..
    | negSucc natural => exact congrArg not (Nat.testBit_succ ..)
  rw [halved]
  exact negated_eq_testBit { compiled with flags := compiled.flags / 2 }

/-- A class with a conventional name is built alike. -/
theorem buildType_eq_buildOption {type : Option CompiledType}
    (named : ∀ given, type = some given →
      ∃ name, given.classifier = .classNamed name ∧ ClassName.Conventional name) :
    buildType type = TypeForm.buildOption (type.map CompiledType.toForm) := by
  cases type with
  | none => rfl
  | some type =>
    obtain ⟨name, same, conventional⟩ := named type rfl
    obtain ⟨found, compiled, guessed⟩ := conventional.exists_ofMetadataName_and_bestGuess
    obtain ⟨classifier, nullable⟩ := type
    obtain rfl := same
    rw [Option.map_some, TypeForm.buildOption, CompiledType.toForm, TypeForm.build, guessed,
      buildType, Classifier.typeName, Classifier.className, compiled]
    rfl

/-- The token of a constant stays what it is. -/
theorem token?_toForm (compiled : CompiledExpression) :
    compiled.toForm.token? = compiled.constant.map Literal.token := by
  obtain ⟨flags, index, constant, instanceType, conjuncts, disjuncts⟩ := compiled
  cases constant <;> rfl

/-- Where no parameter is compared with null as with a constant, the form does not do so. -/
theorem Conventional.comparesWithNull_toForm {compiled : CompiledExpression}
    (conventional : compiled.Conventional) : compiled.toForm.comparesWithNull = false := by
  obtain ⟨flags, index, constant, instanceType, conjuncts, disjuncts⟩ := compiled
  have notNull := conventional.notNull
  cases index with
  | none => rfl
  | some index =>
    cases constant with
    | none => rfl
    | some value => exact notNull rfl value rfl

mutual

/-- A compiled expression and its form are built alike. -/
theorem build_eq_ok_iff_toForm : ∀ {compiled : CompiledExpression} {expression : Expression},
    (∀ node ∈ compiled.nodes, node.Conventional) →
      (compiled.build = .ok expression ↔ compiled.toForm.build = .ok expression)
  | ⟨flags, index, constant, instanceType, conjuncts, disjuncts⟩, expression, conventional => by
    rw [nodes, List.cons_append, List.forall_mem_cons, List.forall_mem_append] at conventional
    obtain ⟨own, conjoined, disjoined⟩ := conventional
    rw [CompiledExpression.build_eq_ok_iff, ExpressionForm.build_eq_ok_iff,
      own.comparesWithNull_toForm, token?_toForm, negated_eq_testBit, nullCheck_eq_testBit,
      buildType_eq_buildOption own.named, buildAll_eq_ok_iff_toForms conjoined,
      buildAll_eq_ok_iff_toForms disjoined]
    simp only [toForm, true_and]

/-- Compiled expressions and their forms are built alike. -/
theorem buildAll_eq_ok_iff_toForms : ∀ {items : List CompiledExpression}
    {expressions : List Expression}, (∀ node ∈ nodesAll items, node.Conventional) →
      (buildAll items = .ok expressions ↔
        ExpressionForm.buildAll (toForms items) = .ok expressions)
  | [], expressions, _ => Iff.rfl
  | first :: rest, expressions, conventional => by
    rw [nodesAll, List.forall_mem_append] at conventional
    simp only [buildAll, toForms, ExpressionForm.buildAll, Chain.bind_eq_ok_iff,
      build_eq_ok_iff_toForm conventional.1, buildAll_eq_ok_iff_toForms conventional.2]

end

end CompiledExpression

namespace CompiledEffect

/-- A compiled effect as a document writes it; it calls no parameter by its name. -/
def toForm (effect : CompiledEffect) : EffectForm where
  kind := some effect.kind
  calls := none
  invocation := effect.invocation
  arguments := CompiledExpression.toForms effect.arguments
  conclusion := effect.conclusion.map CompiledExpression.toForm

/-- The nodes of the expressions of a compiled effect. -/
def nodes (effect : CompiledEffect) : List CompiledExpression :=
  CompiledExpression.nodesAll effect.arguments ++
    CompiledExpression.nodesAll effect.conclusion.toList

/-- A compiled effect and its form are built alike, for any function. -/
theorem build_eq_ok_iff_toForm {compiled : CompiledEffect} {effect : Effect}
    (conventional : ∀ node ∈ compiled.nodes, node.Conventional) (function : Declaration) :
    compiled.build = .ok effect ↔ compiled.toForm.build function = .ok effect := by
  obtain ⟨inParentheses, implied⟩ := List.forall_mem_append.mp conventional
  have conclusions {conclusion : Option Expression} :
      compiled.conclusion.mapM CompiledExpression.build = .ok conclusion ↔
        ExpressionForm.buildOption (compiled.conclusion.map CompiledExpression.toForm) =
          .ok conclusion := by
    cases given : compiled.conclusion with
    | none => rfl
    | some root =>
      rw [given, Option.toList_some, CompiledExpression.nodesAll, CompiledExpression.nodesAll,
        List.append_nil] at implied
      rw [Chain.optionMapM_some, Option.map_some, ExpressionForm.buildOption, Chain.map_eq_ok_iff,
        Chain.map_eq_ok_iff]
      simp only [CompiledExpression.build_eq_ok_iff_toForm implied]
  rw [EffectForm.build_parts_eq_ok_iff rfl, build, Effect.Draft.build_after_eq_ok_iff, conclusions,
    CompiledExpression.buildAll_eq_ok_iff_toForms inParentheses]
  simp only [toForm, Option.some.injEq]

end CompiledEffect

namespace CompiledContract

/-- A compiled contract as a document writes it. -/
def toForm (contract : CompiledContract) : ContractForm where
  effects := contract.effects.map CompiledEffect.toForm

/-- The nodes of the expressions of a compiled contract. -/
def nodes (contract : CompiledContract) : List CompiledExpression :=
  contract.effects.flatMap CompiledEffect.nodes

/-- Both ways to import a contract come to the same. Where the classes of a compiled contract have
conventional names and no parameter is compared with null as with a constant, building from the
compiled contract and, for any function, from the document that says the same is refused, or gives
the same contract. -/
theorem build_alike_toForm (compiled : CompiledContract)
    (conventional : ∀ node ∈ compiled.nodes, node.Conventional) (function : Declaration) :
    Chain.Alike compiled.build (compiled.toForm.build function) := by
  have effects {results : List Effect} :
      compiled.effects.mapM CompiledEffect.build = .ok results ↔
        (compiled.effects.map CompiledEffect.toForm).mapM (·.build function) = .ok results :=
    Chain.mapM_eq_ok_iff_map fun effect member built => CompiledEffect.build_eq_ok_iff_toForm
      (fun node within => conventional node (List.mem_flatMap.mpr ⟨effect, member, within⟩)) function
  rw [Chain.alike_iff]
  intro contract
  simp only [build, ContractForm.build, toForm, Chain.bind_eq_ok_iff, effects]

/-- The contract that returning the truth implies that the argument is no map entry, or else that
the receiver is null. -/
def noEntryTested : CompiledContract where
  effects :=
    [{ kind := .returns
       invocation := none
       arguments := [⟨0, none, some (.boolean true), none, [], []⟩]
       conclusion := some
        { flags := -3
          index := some 1
          constant := none
          instanceType := some ⟨.classNamed "kotlin/collections/Map.Entry", false⟩
          conjuncts := []
          disjuncts := [⟨2, some 0, none, none, [], []⟩] } }]

/-- The name of the nested class is conventional, so the contract is built alike from both forms. -/
theorem build_alike_toForm_noEntryTested :
    Chain.Alike noEntryTested.build
        (noEntryTested.toForm.build ⟨"f", [], [], none, none, []⟩) ∧
      ∃ contract, noEntryTested.build = .ok contract := by
  refine ⟨build_alike_toForm noEntryTested ?_ _, _, rfl⟩
  have entry : ClassName.Conventional "kotlin/collections/Map.Entry" :=
    ⟨["kotlin", "collections"], "Map.Entry", "Map", ["Entry"], by decide, by decide, by decide,
      by decide⟩
  rintro node (_ | ⟨_, _ | ⟨_, _ | ⟨_, beyond⟩⟩⟩)
  · exact ⟨by simp, by simp⟩
  · exact ⟨fun type same => ⟨_, by cases same; rfl, entry⟩, by simp⟩
  · exact ⟨by simp, by simp⟩
  · contradiction

end CompiledContract

end KotlinContract
