import KotlinContract.Contract.Basic
import KotlinContract.Proofs.Chain
import Mathlib.Data.List.Duplicate

/-!
# Drafts

An expression, an effect or a contract can be built from one draft only, the one that shows all of
its parts. So what a successful build says about a draft is an equation (`build_eq_ok_iff`), and
whether there is one is decided by a few of its parts (`exists_build_iff`). A function is built with
its modifiers arranged, so its draft need not be the one that it was built from.
-/
namespace KotlinContract

namespace Expression

/-- An expression is built from no other draft than its own. -/
theorem Draft.eq_toDraft_of_build {draft : Draft} {expression : Expression}
    (built : draft.build = .ok expression) : draft = expression.toDraft := by
  obtain ⟨negated, nullCheck, index, constant, instanceType, conjuncts, disjuncts, tags⟩ := draft
  cases index with
  | none =>
    cases nullCheck <;> cases constant <;> cases instanceType <;>
      simp [build, proposition, predicates, Except.map] at built
    subst built
    rfl
  | some index =>
    cases index with
    | ofNat natural =>
      have natural_nonneg : ¬ Int.ofNat natural < 0 := Int.not_lt.mpr (Int.natCast_nonneg natural)
      -- at most one predicate passes, and it is the one that the draft of the expression has
      cases nullCheck <;> cases constant <;> cases instanceType <;>
        simp only [build, proposition, predicates, test, Except.map, if_neg natural_nonneg,
          Option.isSome, Bool.false_eq_true, ↓reduceIte, List.nil_append, List.cons_append,
          List.length_cons, List.length_nil, Except.ok.injEq, reduceCtorEq, Nat.reduceAdd,
          Nat.reduceLT, Nat.not_lt_zero, Nat.lt_irrefl] at built <;>
        subst built <;> rfl
    | negSucc negative =>
      simp [build, proposition, Except.map, Int.negSucc_lt_zero] at built

/-- Building succeeds with an expression if the draft is that of the expression. -/
theorem Draft.build_eq_ok_iff {draft : Draft} {expression : Expression} :
    draft.build = .ok expression ↔ draft = expression.toDraft := by
  constructor
  · exact eq_toDraft_of_build
  · rintro rfl
    exact expression.build_toDraft

/-- A draft is built if its index is not negative, it has one predicate at most, and it says
something. -/
theorem Draft.exists_build_iff {draft : Draft} :
    (∃ expression, draft.build = .ok expression) ↔
      (∀ index, draft.index = some index → 0 ≤ index) ∧
        [draft.nullCheck, draft.constant.isSome, draft.instanceType.isSome].count true ≤ 1 ∧
        (draft.index.isSome = true ∨ draft.constant.isSome = true) := by
  have counted : draft.predicates.length =
      [draft.nullCheck, draft.constant.isSome, draft.instanceType.isSome].count true := by
    rw [predicates]
    cases draft.nullCheck <;> cases draft.constant.isSome <;>
      cases draft.instanceType.isSome <;> rfl
  rw [build, Chain.exists_map_iff, proposition, ← counted]
  cases index : draft.index with
  | none =>
    cases constant : draft.constant with
    | none =>
      refine iff_of_false ?_ (by simp)
      dsimp only
      split <;> simp
    | some token =>
      dsimp only
      split <;> simp <;> omega
  | some index =>
    dsimp only
    split
    · simp; omega
    · split <;> simp <;> omega

end Expression

/-- Building succeeds with an effect if the draft is that of the effect. -/
theorem Effect.Draft.build_eq_ok_iff {draft : Draft} {effect : Effect} :
    draft.build = .ok effect ↔ draft = effect.toDraft := by
  constructor
  · intro built
    obtain ⟨kind, invocation, conclusion, arguments, tags⟩ := draft
    -- the number of arguments, the conclusion and the invocation kind have to fit the kind
    rcases arguments with _ | ⟨argument, _ | ⟨second, rest⟩⟩ <;> cases kind <;> cases conclusion <;>
      cases invocation <;>
        simp only [build, clause, impliedConclusion, requiredInvocation, Except.map,
          Except.ok.injEq, reduceCtorEq] at built <;>
        subst built <;> rfl
  · rintro rfl
    exact effect.build_toDraft

/-- What an effect of a kind has. -/
structure EffectRule where
  /-- The least number of arguments. -/
  least : Nat
  /-- The greatest number of arguments. -/
  greatest : Nat
  /-- Whether there is a conclusion. -/
  conclusion : Bool
  /-- Whether there is an invocation kind. -/
  invocation : Bool

/-- The rule for a kind of effect. -/
def EffectKind.rule : EffectKind → EffectRule
  | .returns => ⟨0, 1, true, false⟩
  | .returnsNotNull => ⟨0, 0, true, false⟩
  | .calls => ⟨1, 1, false, true⟩

/-- The number of arguments is in the range of the rule, and there are a conclusion and an
invocation kind exactly where the rule has one. -/
def EffectRule.Obeyed (rule : EffectRule) (arguments : Nat) (conclusion invocation : Bool) : Prop :=
  rule.least ≤ arguments ∧ arguments ≤ rule.greatest ∧ conclusion = rule.conclusion ∧
    invocation = rule.invocation

/-- An effect is built from a draft that obeys the rule of its kind. -/
theorem Effect.Draft.exists_build_iff {draft : Draft} :
    (∃ effect, draft.build = .ok effect) ↔
      draft.kind.rule.Obeyed draft.arguments.length draft.conclusion.isSome
        draft.invocation.isSome := by
  obtain ⟨kind, invocation, conclusion, arguments, tags⟩ := draft
  rw [build, Chain.exists_map_iff]
  -- each kind looks at the number of arguments and at which of the other parts there are
  rcases arguments with _ | ⟨argument, _ | ⟨second, rest⟩⟩ <;> cases kind <;> cases conclusion <;>
    cases invocation <;>
      simp [clause, impliedConclusion, requiredInvocation, Except.map, EffectKind.rule,
        EffectRule.Obeyed]

/-- An effect with arguments and a conclusion that are computed first is built if these are and the
kind of effect has all of its parts. -/
theorem Effect.Draft.build_after_eq_ok_iff {kind : EffectKind} {invocation : Option InvocationKind}
    {inside : Except Error (List Expression)} {implied : Except Error (Option Expression)}
    {effect : Effect} :
    (do
      let arguments ← inside
      let conclusion ← implied
      { kind, invocation, conclusion, arguments : Draft }.build) = .ok effect ↔
      kind = effect.clause.kind ∧ invocation = effect.clause.invocation? ∧
        inside = .ok effect.clause.arguments ∧ implied = .ok effect.clause.conclusion? ∧
        Tags.empty = effect.tags := by
  simp only [Chain.bind_eq_ok_iff, build_eq_ok_iff, toDraft, mk.injEq]
  constructor
  · rintro ⟨_, arguments, _, conclusion, kinds, invocations, rfl, rfl, untagged⟩
    exact ⟨kinds, invocations, arguments, conclusion, untagged⟩
  · rintro ⟨kinds, invocations, arguments, conclusion, untagged⟩
    exact ⟨_, arguments, _, conclusion, kinds, invocations, rfl, rfl, untagged⟩

/-- Building succeeds with a contract if the draft is that of the contract. -/
theorem Contract.Draft.build_eq_ok_iff {draft : Draft} {contract : Contract} :
    draft.build = .ok contract ↔ draft = contract.toDraft := by
  constructor
  · intro built
    rw [build] at built
    split at built
    · contradiction
    · cases built
      rfl
  · rintro rfl
    exact contract.build_toDraft

/-- A contract is built from a draft with an effect. -/
theorem Contract.Draft.exists_build_iff {draft : Draft} :
    (∃ contract, draft.build = .ok contract) ↔ draft.effects ≠ [] := by
  rw [build]
  split
  · rename_i empty
    simp [empty]
  · rename_i some
    simp [some]

namespace Declaration.Draft

variable {draft : Draft} {function : Declaration}

/-- The names that are listed are those that several parameters have. -/
theorem mem_duplicateNames {name : String} :
    name ∈ draft.duplicateNames ↔ (draft.parameters.map Parameter.name).Duplicate name := by
  rw [duplicateNames, Ascending.mem_ofList, List.mem_filter, decide_eq_true_eq,
    List.duplicate_iff_two_le_count]
  constructor
  · exact fun both => both.2
  · intro several
    exact ⟨List.count_pos_iff.mp (Nat.lt_of_lt_of_le Nat.zero_lt_two several), several⟩

/-- No name is listed as one of several parameters if all names differ. -/
theorem duplicateNames_eq_nil_iff :
    draft.duplicateNames = [] ↔ (draft.parameters.map Parameter.name).Nodup := by
  rw [List.eq_nil_iff_forall_not_mem, List.nodup_iff_forall_not_duplicate]
  exact forall_congr' fun name => not_congr mem_duplicateNames

/-- A function is built from a draft if the names of the parameters differ; it has the parts of the
draft, with the modifiers arranged. -/
theorem build_eq_ok_iff :
    draft.build = .ok function ↔
      (draft.parameters.map Parameter.name).Nodup ∧
        function.toDraft = { draft with modifiers := Modifier.arranged draft.modifiers } := by
  rw [← duplicateNames_eq_nil_iff, build]
  cases draft.duplicateNames with
  | nil =>
    simp only [Except.ok.injEq, true_and]
    constructor
    · rintro rfl
      rfl
    · intro same
      cases function
      simp only [toDraft, mk.injEq] at same
      obtain ⟨rfl, rfl, rfl, rfl, rfl, rfl⟩ := same
      rfl
  | cons name rest => simp

/-- The names of the parameters of a function that was built differ. -/
theorem nodup_of_build (built : draft.build = .ok function) :
    (function.parameters.map Parameter.name).Nodup := by
  obtain ⟨distinct, parts⟩ := build_eq_ok_iff.mp built
  have parameters : function.parameters = draft.parameters := congrArg Draft.parameters parts
  rw [parameters]
  exact distinct

/-- The modifiers of a function that was built are arranged. -/
theorem arranged_of_build (built : draft.build = .ok function) :
    Modifier.arranged function.modifiers = function.modifiers := by
  have modifiers : function.modifiers = Modifier.arranged draft.modifiers :=
    congrArg Draft.modifiers (build_eq_ok_iff.mp built).2
  rw [modifiers, Modifier.arranged_arranged]

end Declaration.Draft

end KotlinContract
