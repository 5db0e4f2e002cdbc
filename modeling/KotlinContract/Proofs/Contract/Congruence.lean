import KotlinContract.Proofs.Chain
import KotlinContract.Proofs.Contract.NormalForm
import KotlinContract.Proofs.Expression.Joining
import Mathlib.Logic.Relation

/-!
# Equal parts make equal contracts

Expressions and effects are equal if their texts are, whatever they consist of. A contract changes
its text only where the text of a part of it changes: the text of an expression is written with
parentheses everywhere but in the target of a call, and equal expressions agree without them as well
(`Expression.Replaced.innerText_eq`). So a contract in which equal parts are put in place of any parts,
at any depth, stays equal to what it was, and its hash stays the same (`Contract.beq_of_replaced`).
-/
namespace KotlinContract

namespace Expression

/-- One expression comes from another by putting equal expressions in place of any expressions in
it. Whatever is rebuilt around them may have other tags. -/
inductive Replaced : Expression → Expression → Prop where
  /-- An equal expression is put in place of the whole. -/
  | equal {first second : Expression} (same : (first == second) = true) : Replaced first second
  /-- Expressions are replaced among the conjuncts and among the disjuncts, or inside them. -/
  | joined {proposition : Proposition} {negated : Bool}
    {conjuncts conjuncts' disjuncts disjuncts' : List Expression} (tags tags' : Tags)
    (all : List.Forall₂ Replaced conjuncts conjuncts')
    (any : List.Forall₂ Replaced disjuncts disjuncts') :
    Replaced ⟨proposition, negated, conjuncts, disjuncts, tags⟩
      ⟨proposition, negated, conjuncts', disjuncts', tags'⟩

mutual

/-- The text between the parentheses stays when equal expressions are put in place of others. -/
theorem Replaced.innerText_eq : ∀ {first second : Expression}, Replaced first second →
    first.innerText placeholder = second.innerText placeholder
  | ⟨proposition, negated, conjuncts, disjuncts, tags⟩, second, replaced => by
    cases replaced with
    | equal same => exact beq_iff_innerText_eq.mp same
    | joined _ _ all any =>
      cases proposition with
      | bare constant => rfl
      | about index test =>
        rw [innerText, innerText, joinedText_eq_of_replaced conjunction all,
          joinedText_eq_of_replaced disjunction any]

/-- The texts of joined expressions stay when equal expressions are put in place of others. -/
theorem joinedText_eq_of_replaced (operator : String) : ∀ {firsts seconds : List Expression},
    List.Forall₂ Replaced firsts seconds →
      joinedText placeholder operator firsts = joinedText placeholder operator seconds
  | [], [], _ => rfl
  | first :: firsts, second :: seconds, all => by
    obtain ⟨here, later⟩ := List.forall₂_cons.mp all
    rw [joinedText, joinedText, here.innerText_eq, joinedText_eq_of_replaced operator later]

end

end Expression

/-- Two effects of one kind and one kind of invocation, one of which comes from the other by
replacing in the expressions. -/
structure Clause.Replaced (first second : Clause) : Prop where
  /-- The effects have one kind. -/
  kind : first.kind = second.kind
  /-- They have one kind of invocation, if any. -/
  invocation : first.invocation? = second.invocation?
  /-- What is in the parentheses is replaced, or replaced inside. -/
  arguments : List.Forall₂ Expression.Replaced first.arguments second.arguments
  /-- What is implied is replaced, or replaced inside. -/
  conclusion : Option.Rel Expression.Replaced first.conclusion? second.conclusion?

/-- The text of an effect stays when equal expressions are put in place of others. -/
theorem Clause.Replaced.text_eq {first second : Clause} (replaced : first.Replaced second) :
    first.text placeholder = second.text placeholder := by
  refine text_congr placeholder replaced.kind replaced.invocation
    (Chain.map_eq_map_of_forall₂ replaced.arguments fun _ _ here => here.innerText_eq) ?_
  have conclusions := replaced.conclusion
  generalize first.conclusion? = left, second.conclusion? = right at conclusions
  cases conclusions with
  | none => rfl
  | some here => rw [Option.map_some, Option.map_some, here.innerText_eq]

/-- One effect comes from another by putting equal parts in place of any parts. -/
inductive Effect.Replaced : Effect → Effect → Prop where
  /-- An equal effect is put in place of the whole. -/
  | equal {first second : Effect} (same : (first == second) = true) : Replaced first second
  /-- Expressions of the effect are replaced, or expressions inside them. -/
  | inside {clause clause' : Clause} (tags tags' : Tags) (replaced : clause.Replaced clause') :
    Replaced ⟨clause, tags⟩ ⟨clause', tags'⟩

/-- The text of an effect stays when equal parts are put in place of others. -/
theorem Effect.Replaced.canonical_eq {first second : Effect} (replaced : first.Replaced second) :
    first.canonical = second.canonical := by
  cases replaced with
  | equal same => exact eq_of_beq same
  | inside _ _ replaced => exact replaced.text_eq

namespace Contract

/-- One contract comes from another by putting equal parts in place of any parts: of whole effects,
of arguments and conclusions, and of what is joined to them at any depth. -/
def Replaced (first second : Contract) : Prop :=
  List.Forall₂ Effect.Replaced first.effects second.effects

/-- The text of a contract stays when equal parts are put in place of others. -/
theorem Replaced.canonical_eq {first second : Contract} (replaced : first.Replaced second) :
    first.canonical = second.canonical :=
  congrArg block (Chain.map_eq_map_of_forall₂ replaced fun _ _ here => here.canonical_eq)

/-- Equality of texts is a congruence. Where equal effects are put in place of effects of a contract,
and equal expressions in place of arguments, of conclusions or of what is joined to these, in any
number of places, at any depth and any number of times, the contract stays equal to what it was and
has the same hash. -/
theorem beq_of_replaced (first second : Contract)
    (replaced : Relation.ReflTransGen Replaced first second) :
    (first == second) = true ∧
      ∀ {η : Type} (hash : String → η), first.hashWith hash = second.hashWith hash := by
  have texts : first.canonical = second.canonical := by
    induction replaced with
    | refl => rfl
    | tail _ step hypothesis => exact hypothesis.trans step.canonical_eq
  have equal : (first.canonical == second.canonical) = true := beq_iff_eq.mpr texts
  exact ⟨equal, fun hash => congrArg hash texts⟩

/-- A contract with a comparison, a conjunct joined to it and a disjunct joined to that one, beside a
call. -/
def layered (test : Test) (innermost target : Expression) : Contract where
  effects :=
    [{ clause := .returns none
        ⟨.about 1 test, true, [⟨.about 2 .isNull, false, [], [innermost], .empty⟩], [], .empty⟩
       tags := .empty },
      { clause := .calls target .exactlyOnce, tags := .empty }]
  tags := .empty
  nonempty := by simp

/-- Parameters give way to tokens that are written like their placeholders, one of them two layers
deep and one as the target of a call; then the effect around the first gives way to one with the null
token. -/
theorem beq_of_replaced_layered :
    let first := layered .isNull ⟨.about 3 .holds, true, [], [], .empty⟩
      ⟨.about 1 .holds, false, [], [], .empty⟩
    let second := layered (.equals nullToken) (.reference "$3") (.reference "$1")
    Relation.ReflTransGen Replaced first second ∧ (first == second) = true ∧
      first.hashWith String.length = second.hashWith String.length := by
  intro first second
  have tokens : first.Replaced (layered .isNull (.reference "$3") (.reference "$1")) := by
    have deep : Expression.Replaced ⟨.about 3 .holds, true, [], [], .empty⟩ (.reference "$3") :=
      .equal (by decide)
    have target : Expression.Replaced ⟨.about 1 .holds, false, [], [], .empty⟩ (.reference "$1") :=
      .equal (by decide)
    refine .cons (.inside _ _ ⟨rfl, rfl, .nil, .some (.joined _ _ ?_ .nil)⟩)
      (.cons (.inside _ _ ⟨rfl, rfl, .cons target .nil, .none⟩) .nil)
    exact .cons (.joined _ _ .nil (.cons deep .nil)) .nil
  have effect : (layered .isNull (.reference "$3") (.reference "$1")).Replaced second :=
    .cons (.equal (by decide)) (.cons (.equal (by decide)) .nil)
  have replaced : Relation.ReflTransGen Replaced first second := .tail (.single tokens) effect
  obtain ⟨equal, hashes⟩ := beq_of_replaced first second replaced
  exact ⟨replaced, equal, hashes String.length⟩

end Contract

end KotlinContract
