import KotlinContract.Proofs.Document.Types
import KotlinContract.Proofs.Drafts

/-!
# Expressions from documents

An expression that a document writes is built if each of its nodes can be stated: its index is not
negative, it has one predicate at most and an index or a constant, it does not compare a parameter
with null as with a constant, and its type is built (`ExpressionForm.exists_build_iff`). What is
built mirrors it, node by node (`ExpressionForm.build_eq_ok_iff_mirrors`).
-/
namespace KotlinContract

namespace Expression

/-- A comparison with a constant is built if the index is not negative and the constant is not
null. -/
theorem comparison_toDraft_eq_ok_iff {value : Literal} {index : Int} {negated : Bool}
    {draft : Draft} :
    (comparison value index negated).map toDraft = .ok draft ↔
      0 ≤ index ∧ isNullToken value.token = false ∧
        draft = { constant := draftToken value, index := some index, negated } := by
  rw [comparison, requireIndex]
  split
  · rename_i negative
    refine iff_of_false (fun built => by cases built) fun ⟨within, _⟩ => ?_
    exact absurd within (Int.not_le.mpr negative)
  · rename_i within
    cases null : isNullToken value.token with
    | true => exact iff_of_false (fun built => by cases built) (by simp)
    | false =>
      rw [Chain.map_eq_ok_iff]
      constructor
      · rintro ⟨expression, built, rfl⟩
        exact ⟨Int.not_lt.mp within, rfl, (Draft.eq_toDraft_of_build built).symm⟩
      · rintro ⟨-, -, rfl⟩
        -- a comparison has no predicate besides its constant
        have single : [false, (draftToken value).isSome, false].count true ≤ 1 := by
          cases (draftToken value).isSome <;> decide
        have stated : ∃ expression,
            { constant := draftToken value, index := some index, negated : Draft }.build =
              .ok expression :=
          Draft.exists_build_iff.mpr ⟨by simpa using within, single, .inl rfl⟩
        obtain ⟨expression, built⟩ := stated
        exact ⟨expression, built, (Draft.eq_toDraft_of_build built).symm⟩

end Expression

namespace ExpressionForm

/-- The token of the constant; the null value has none. -/
def token? (form : ExpressionForm) : Option String := form.constant.bind Expression.draftToken

/-- Whether a parameter is compared with null as with a constant. -/
def comparesWithNull (form : ExpressionForm) : Bool :=
  form.index.isSome && form.constant.any (Expression.isNullToken ·.token)

/-- The parts of a draft are stated if no parameter is compared with null as with a constant, nor a
parameter of a negative index with any constant. -/
theorem stated_eq_ok_iff {index : Option Int} {negated : Bool} {constant : Option Literal}
    {draft : Expression.Draft} :
    stated index negated constant = .ok draft ↔
      (∀ given, index = some given → constant.isSome = true → 0 ≤ given) ∧
        (index.isSome && constant.any (Expression.isNullToken ·.token)) = false ∧
        draft = { index, negated, constant := constant.bind Expression.draftToken } := by
  cases index with
  | none => simp [stated, @eq_comm _ draft]
  | some index =>
    cases constant with
    | none => simp [stated, @eq_comm _ draft]
    | some value => simp [stated, Expression.comparison_toDraft_eq_ok_iff]

/-- An expression is built from the draft of its own parts, its type and what is joined to it. -/
theorem build_eq (form : ExpressionForm) :
    form.build = (do
      let draft ← stated form.index form.negated form.constant
      let instanceType ← TypeForm.buildOption form.instanceType
      let conjuncts ← buildAll form.conjuncts
      let disjuncts ← buildAll form.disjuncts
      { draft with nullCheck := form.nullCheck, instanceType, conjuncts, disjuncts }.build) := by
  cases form
  rw [build]

/-- What is built has the negation, the predicates, the index and the joined expressions that are
written, and no tags. -/
theorem build_eq_ok_iff {form : ExpressionForm} {expression : Expression} :
    form.build = .ok expression ↔
      form.comparesWithNull = false ∧ form.negated = expression.negated ∧
        form.nullCheck = expression.isNullCheck ∧
        form.index = expression.index?.map Int.ofNat ∧ form.token? = expression.constant? ∧
        TypeForm.buildOption form.instanceType = .ok expression.instanceType? ∧
        buildAll form.conjuncts = .ok expression.conjuncts ∧
        buildAll form.disjuncts = .ok expression.disjuncts ∧ Tags.empty = expression.tags := by
  rw [build_eq]
  simp only [Chain.bind_eq_ok_iff, stated_eq_ok_iff, Expression.Draft.build_eq_ok_iff,
    Expression.toDraft, Expression.Draft.mk.injEq]
  constructor
  · rintro ⟨_, ⟨-, some, rfl⟩, _, types, _, all, _, any, negation, null, indices, constants, rfl,
      rfl, rfl, attached⟩
    exact ⟨some, negation, null, indices, constants, types, all, any, attached⟩
  · rintro ⟨some, negation, null, indices, constants, types, all, any, attached⟩
    refine ⟨_, ⟨fun index found _ => ?_, some, rfl⟩, _, types, _, all, _, any, negation, null,
      indices, constants, rfl, rfl, rfl, attached⟩
    rw [indices] at found
    obtain ⟨natural, _, rfl⟩ := Option.map_eq_some_iff.mp found
    exact Int.natCast_nonneg natural

/-- A form stands for an expression that says the same about the same parameter, and to which
expressions are joined that the joined forms stand for. -/
inductive Mirrors : ExpressionForm → Expression → Prop
  /-- Every part of the expression is the one that is written, and nothing is attached to it. -/
  | intro {form : ExpressionForm} {expression : Expression}
      (negated : expression.negated = form.negated)
      (nullCheck : expression.isNullCheck = form.nullCheck)
      (index : expression.index?.map Int.ofNat = form.index)
      (constant : expression.constant? = form.token?)
      (instanceType : Option.Rel TypeForm.Mirrors form.instanceType expression.instanceType?)
      (conjuncts : List.Forall₂ Mirrors form.conjuncts expression.conjuncts)
      (disjuncts : List.Forall₂ Mirrors form.disjuncts expression.disjuncts)
      (untagged : expression.tags = .empty) : Mirrors form expression

mutual

/-- The form and all that are joined to it at any depth. -/
def nodes : ExpressionForm → List ExpressionForm
  | form@⟨_, _, _, _, _, conjuncts, disjuncts⟩ => form :: nodesAll conjuncts ++ nodesAll disjuncts

/-- The nodes of several forms. -/
def nodesAll : List ExpressionForm → List ExpressionForm
  | [] => []
  | form :: rest => form.nodes ++ nodesAll rest

end

mutual

/-- A form stands for an expression that mirrors it if this is built; no node may compare a
parameter with null as with a constant. -/
theorem build_eq_ok_iff_mirrors : ∀ {form : ExpressionForm} {expression : Expression},
    form.build = .ok expression ↔
      (∀ node ∈ form.nodes, node.comparesWithNull = false) ∧ form.Mirrors expression
  | ⟨index, negated, nullCheck, constant, instanceType, conjuncts, disjuncts⟩, expression => by
    rw [build_eq_ok_iff, TypeForm.buildOption_eq_ok_iff, buildAll_eq_ok_iff_mirrors,
      buildAll_eq_ok_iff_mirrors, nodes, List.cons_append, List.forall_mem_cons,
      List.forall_mem_append]
    constructor
    · rintro ⟨some, negation, null, indices, constants, types, ⟨conjoined, all⟩, ⟨disjoined, any⟩,
        attached⟩
      exact ⟨⟨some, conjoined, disjoined⟩, .intro negation.symm null.symm indices.symm
        constants.symm types all any attached.symm⟩
    · rintro ⟨⟨some, conjoined, disjoined⟩, negation, null, indices, constants, types, all, any,
        attached⟩
      exact ⟨some, negation.symm, null.symm, indices.symm, constants.symm, types, ⟨conjoined, all⟩,
        ⟨disjoined, any⟩, attached.symm⟩

/-- Forms stand for expressions that mirror them, in order, if these are built. -/
theorem buildAll_eq_ok_iff_mirrors : ∀ {forms : List ExpressionForm}
    {expressions : List Expression},
    buildAll forms = .ok expressions ↔
      (∀ node ∈ nodesAll forms, node.comparesWithNull = false) ∧
        List.Forall₂ Mirrors forms expressions
  | [], expressions => by
    rw [buildAll, nodesAll, List.forall₂_nil_left_iff, Except.ok.injEq, eq_comm]
    simp
  | form :: rest, expressions => by
    simp only [buildAll, Chain.bind_eq_ok_iff, build_eq_ok_iff_mirrors, buildAll_eq_ok_iff_mirrors,
      nodesAll, List.forall_mem_append, List.forall₂_cons_left_iff]
    constructor
    · rintro ⟨expression, ⟨here, first⟩, others, ⟨there, later⟩, same⟩
      exact ⟨⟨here, there⟩, expression, others, first, later, (Except.ok.inj same).symm⟩
    · rintro ⟨⟨here, there⟩, expression, others, first, later, rfl⟩
      exact ⟨expression, ⟨here, first⟩, others, ⟨there, later⟩, rfl⟩

end

/-- What is required of each node of an expression. -/
structure Stateable (form : ExpressionForm) : Prop where
  /-- An index is not negative. -/
  index : ∀ index, form.index = some index → 0 ≤ index
  /-- There is one predicate at most. -/
  predicate : [form.nullCheck, form.token?.isSome, form.instanceType.isSome].count true ≤ 1
  /-- There is an index or a constant. -/
  stated : form.index.isSome = true ∨ form.token?.isSome = true
  /-- A parameter is not compared with null as with a constant. -/
  notNull : form.comparesWithNull = false
  /-- A class is recognised in every class name of the type. -/
  recognised : ∀ text ∈ TypeForm.classTextsOption form.instanceType, ClassName.Recognised text

mutual

/-- An expression is built if each of its nodes can be stated. -/
theorem exists_build_iff : ∀ form : ExpressionForm,
    (∃ expression, form.build = .ok expression) ↔ ∀ node ∈ form.nodes, node.Stateable
  | form@⟨index, negated, nullCheck, constant, instanceType, conjuncts, disjuncts⟩ => by
    rw [build_eq, nodes, List.cons_append, List.forall_mem_cons, List.forall_mem_append,
      ← exists_buildAll_iff conjuncts, ← exists_buildAll_iff disjuncts]
    simp only [Chain.exists_bind_iff, stated_eq_ok_iff, Expression.Draft.exists_build_iff]
    -- the node counts the type that is built, its form the type that is written
    constructor
    · rintro ⟨_, ⟨-, some, rfl⟩, type, typed, all, conjoined, any, disjoined, within, single,
        stated⟩
      refine ⟨⟨within, ?_, stated, some, ?_⟩, ⟨all, conjoined⟩, any, disjoined⟩
      · rwa [TypeForm.isSome_of_buildOption typed] at single
      · exact (TypeForm.exists_buildOption_iff instanceType).mp ⟨type, typed⟩
    · rintro ⟨⟨within, single, stated, some, recognised⟩, ⟨all, conjoined⟩, any, disjoined⟩
      obtain ⟨type, typed⟩ := (TypeForm.exists_buildOption_iff instanceType).mpr recognised
      refine ⟨_, ⟨fun given found _ => within given found, some, rfl⟩, type, typed, all, conjoined,
        any, disjoined, within, ?_, stated⟩
      rwa [TypeForm.isSome_of_buildOption typed]

/-- Several expressions are built if each of their nodes can be stated. -/
theorem exists_buildAll_iff : ∀ forms : List ExpressionForm,
    (∃ expressions, buildAll forms = .ok expressions) ↔ ∀ node ∈ nodesAll forms, node.Stateable
  | [] => by simp [buildAll, nodesAll]
  | form :: rest => by
    simp only [buildAll, Chain.exists_bind_iff, nodesAll, List.forall_mem_append]
    rw [← exists_build_iff form, ← exists_buildAll_iff rest]
    constructor
    · rintro ⟨expression, first, expressions, later, _⟩
      exact ⟨⟨expression, first⟩, expressions, later⟩
    · rintro ⟨⟨expression, first⟩, expressions, later⟩
      exact ⟨expression, first, expressions, later, _, rfl⟩

end

/-- A form that may be absent stands for an expression that mirrors it if this is built. -/
theorem buildOption_eq_ok_iff_mirrors {form : Option ExpressionForm}
    {expression : Option Expression} :
    buildOption form = .ok expression ↔
      (∀ node ∈ nodesAll form.toList, node.comparesWithNull = false) ∧
        Option.Rel Mirrors form expression := by
  cases form with
  | none => cases expression <;> simp [buildOption, nodesAll]
  | some form =>
    rw [buildOption, Chain.map_eq_ok_iff]
    simp only [build_eq_ok_iff_mirrors, Option.toList_some, nodesAll, List.append_nil]
    cases expression with
    | none => simp
    | some expression => simp

/-- An expression that may be absent is built if each of its nodes can be stated. -/
theorem exists_buildOption_iff (form : Option ExpressionForm) :
    (∃ expression, buildOption form = .ok expression) ↔
      ∀ node ∈ nodesAll form.toList, node.Stateable := by
  cases form with
  | none => simp [buildOption, nodesAll]
  | some form =>
    rw [buildOption, Chain.exists_map_iff, exists_build_iff, Option.toList_some, nodesAll, nodesAll,
      List.append_nil]

/-- There are as many expressions as forms that they are built from. -/
theorem length_of_buildAll {forms : List ExpressionForm} {expressions : List Expression}
    (built : buildAll forms = .ok expressions) : forms.length = expressions.length :=
  (buildAll_eq_ok_iff_mirrors.mp built).2.length_eq

/-- An expression is built from a form that may be absent if it is there. -/
theorem isSome_of_buildOption {form : Option ExpressionForm} {expression : Option Expression}
    (built : buildOption form = .ok expression) : form.isSome = expression.isSome := by
  cases (buildOption_eq_ok_iff_mirrors.mp built).2 <;> rfl

end ExpressionForm

end KotlinContract
