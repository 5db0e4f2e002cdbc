import KotlinContract.Proofs.Drafts
import KotlinContract.Proofs.Expression.Joining

/-!
# Combining expressions in sequence

Each time an expression is joined to another one, the other one is taken apart into a draft and built
again. An expression is built from its own draft only (`Draft.build_eq_ok_iff`), so none of this is
ever refused, and joining several expressions one after the other appends them to the conjuncts and
to the disjuncts, each in their own order (`joinAll_eq_ok`). In which order a conjunct and a disjunct
are joined makes no difference (`joinAll_appends`).
-/
namespace KotlinContract.Expression

/-- An expression to be joined to another one. -/
inductive Joint where
  /-- It is joined by a conjunction. -/
  | conjunct (argument : Expression)
  /-- It is joined by a disjunction. -/
  | disjunct (argument : Expression)

namespace Joint

/-- The expression, if it is joined by a conjunction. -/
def conjunct? : Joint → Option Expression
  | .conjunct argument => some argument
  | .disjunct _ => none

/-- The expression, if it is joined by a disjunction. -/
def disjunct? : Joint → Option Expression
  | .conjunct _ => none
  | .disjunct argument => some argument

end Joint

/-- Join an expression to another one as it asks for. -/
def join (expression : Expression) : Joint → Except Error Expression
  | .conjunct argument => expression.and argument
  | .disjunct argument => expression.or argument

/-- Join expressions to another one, one after the other. -/
def joinAll (expression : Expression) (joints : List Joint) : Except Error Expression :=
  joints.foldlM join expression

/-- The expression with more conjuncts and disjuncts, after those that are there. -/
def extended (expression : Expression) (conjuncts disjuncts : List Expression) : Expression :=
  { expression with
    conjuncts := expression.conjuncts ++ conjuncts
    disjuncts := expression.disjuncts ++ disjuncts }

/-- With nothing added an expression is what it was. -/
theorem extended_nil (expression : Expression) : expression.extended [] [] = expression := by
  obtain ⟨proposition, negated, conjuncts, disjuncts, tags⟩ := expression
  rw [extended, List.append_nil, List.append_nil]

/-- What is added later comes after what was added before. -/
theorem extended_extended (expression : Expression)
    (conjuncts conjuncts' disjuncts disjuncts' : List Expression) :
    (expression.extended conjuncts disjuncts).extended conjuncts' disjuncts' =
      expression.extended (conjuncts ++ conjuncts') (disjuncts ++ disjuncts') := by
  simp only [extended, List.append_assoc]

/-- The draft of an expression to which others were added differs in nothing but these. -/
theorem toDraft_extended (expression : Expression) (conjuncts disjuncts : List Expression) :
    (expression.extended conjuncts disjuncts).toDraft =
      { expression.toDraft with
        conjuncts := expression.conjuncts ++ conjuncts
        disjuncts := expression.disjuncts ++ disjuncts } :=
  rfl

/-- Joining an expression is never refused and adds it on its own side. -/
theorem join_eq_ok (expression : Expression) (joint : Joint) :
    expression.join joint =
      .ok (expression.extended joint.conjunct?.toList joint.disjunct?.toList) := by
  cases joint with
  | conjunct argument =>
    rw [join, and_eq_ok]
    simp [withConjunct, extended, Joint.conjunct?, Joint.disjunct?]
  | disjunct argument =>
    rw [join, or_eq_ok]
    simp [withDisjunct, extended, Joint.conjunct?, Joint.disjunct?]

/-- Joining expressions one after the other is never refused and adds them on their sides, in their
order there. -/
theorem joinAll_eq_ok (expression : Expression) (joints : List Joint) :
    expression.joinAll joints =
      .ok (expression.extended (joints.filterMap Joint.conjunct?)
        (joints.filterMap Joint.disjunct?)) := by
  rw [joinAll]
  induction joints generalizing expression with
  | nil => exact congrArg Except.ok expression.extended_nil.symm
  | cons joint rest hypothesis =>
    rw [List.foldlM_cons, join_eq_ok]
    -- the rest is joined to what the first one made of the expression
    have later := hypothesis (expression.extended joint.conjunct?.toList joint.disjunct?.toList)
    rw [extended_extended] at later
    cases joint <;> exact later

/-- A value is built from its own draft, and from no other one. -/
def BuiltFromOwn {δ α : Type} (build : δ → Except Error α) (toDraft : α → δ) : Prop :=
  ∀ draft value, build draft = .ok value ↔ draft = toDraft value

/-- Joining expressions to another one in sequence. However that one was built, none of the calls is
refused. The result has all parts and tags of the expression, and what was joined comes after its
conjuncts and after its disjuncts, in the order of the calls. Any other sequence of calls that joins
the same expressions by a conjunction, in the same order, and the same ones by a disjunction gives a
result with the same parts and the same text. Without any call the expression stays as it is; and
whatever is built, an expression, an effect or a contract, is built again from its own draft, which
has all parts and tags that it was built from. -/
theorem joinAll_appends (expression : Expression) (joints : List Joint) :
    (∃ result, expression.joinAll joints = .ok result ∧
      result.toDraft =
        { expression.toDraft with
          conjuncts := expression.conjuncts ++ joints.filterMap Joint.conjunct?
          disjuncts := expression.disjuncts ++ joints.filterMap Joint.disjunct? } ∧
      ∀ others : List Joint,
        others.filterMap Joint.conjunct? = joints.filterMap Joint.conjunct? →
        others.filterMap Joint.disjunct? = joints.filterMap Joint.disjunct? →
        ∃ other, expression.joinAll others = .ok other ∧ other.toDraft = result.toDraft ∧
          other.canonical = result.canonical) ∧
    expression.joinAll [] = .ok expression ∧
    BuiltFromOwn Draft.build toDraft ∧ BuiltFromOwn Effect.Draft.build Effect.toDraft ∧
    BuiltFromOwn Contract.Draft.build Contract.toDraft := by
  refine ⟨⟨_, joinAll_eq_ok expression joints, toDraft_extended _ _ _, ?_⟩, rfl,
    fun _ _ => Draft.build_eq_ok_iff, fun _ _ => Effect.Draft.build_eq_ok_iff,
    fun _ _ => Contract.Draft.build_eq_ok_iff⟩
  intro others conjuncts disjuncts
  have joined := joinAll_eq_ok expression others
  rw [conjuncts, disjuncts] at joined
  exact ⟨_, joined, rfl, rfl⟩

/-- Three expressions, joined to a comparison with a tag in two orders that differ in where the
disjunct comes. -/
theorem joinAll_appends_disjunctFirst :
    let root : Expression :=
      { argumentNull true with tags := Tags.empty.insert .text (.text "checked") }
    let last : List Joint :=
      [.conjunct (argumentNull false), .conjunct (reference "true"), .disjunct (reference "b")]
    let first : List Joint :=
      [.disjunct (reference "b"), .conjunct (argumentNull false), .conjunct (reference "true")]
    ∃ result other, root.joinAll last = .ok result ∧ root.joinAll first = .ok other ∧
      result.canonical = "($1 != null && ($1 == null) && (true) || (b))" ∧
      other.canonical = result.canonical ∧
      result.tags = root.tags ∧ other.toDraft = result.toDraft := by
  intro root last first
  obtain ⟨⟨result, joined, parts, alike⟩, -⟩ := joinAll_appends root last
  obtain ⟨other, rejoined, same, spelled⟩ := alike first rfl rfl
  have text : result.canonical = "($1 != null && ($1 == null) && (true) || (b))" := by
    obtain rfl := Except.ok.inj joined
    decide
  exact ⟨result, other, joined, rejoined, text, spelled, congrArg Draft.tags parts, same⟩

end KotlinContract.Expression
