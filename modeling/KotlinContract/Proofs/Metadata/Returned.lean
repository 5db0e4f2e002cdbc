import KotlinContract.Metadata.Reader
import KotlinContract.Proofs.Expression.Negation
import KotlinContract.Proofs.Schema.Checked

/-!
# Returned values

That returning a value implies a conclusion is said by one effect, with the token of the value
(`Effect.returned`). Compiled metadata that say it are read and built to this effect for every value
there is, the null value included (`CompiledEffect.build_returning_eq_ok_iff`). The factory gives the
same effect for every other value, but takes the null value for the absence of one
(`Effect.returningValue_eq_ok_iff`).
-/
namespace KotlinContract

open Schema

/-- The token of a value as an expression, the null value included. -/
def Expression.literal (value : Literal) : Expression where
  proposition := .bare value.token
  negated := false
  conjuncts := []
  disjuncts := []
  tags := .empty

/-- A value other than null is a bare constant. -/
theorem Expression.bareConstant_eq_ok_iff {value : Literal} {expression : Expression} :
    bareConstant value = .ok expression ↔ value ≠ .null ∧ expression = literal value := by
  cases value with
  | null =>
    simp [bareConstant, draftToken, Draft.build, Draft.proposition, Draft.predicates, Except.map]
  | boolean | integer | real | verbatim =>
    simp [bareConstant, draftToken, Draft.build, Draft.proposition, Draft.predicates, Except.map,
      literal, eq_comm]

namespace Effect

/-- The effect that returning a value implies a conclusion. -/
def returned (value : Literal) (conclusion : Expression) : Effect where
  clause := .returns (some (.literal value)) conclusion
  tags := .empty

/-- The text has the token of the value and the text of the conclusion. -/
theorem text_returned (value : Literal) (conclusion : Expression) (token : Nat → String) :
    (returned value conclusion).text token =
      "returns(" ++ value.token ++ ") implies " ++ conclusion.text token := by
  have opening : "returns(" = EffectKind.returns.keyword ++ "(" := rfl
  have closing : ") implies " = ")" ++ Clause.implication := rfl
  rw [opening, closing, text, returned, Clause.text, Option.elim, Expression.text,
    Expression.literal, Expression.innerText, Proposition.text, TypeName.parenthesized]
  simp only [String.append_assoc]

/-- The factory gives the effect for every value other than null. -/
theorem returningValue_eq_ok_iff {value : Literal} {conclusion : Expression} {effect : Effect} :
    returningValue value conclusion = .ok effect ↔
      value ≠ .null ∧ effect = returned value conclusion := by
  simp only [returningValue, Chain.bind_eq_ok_iff, Expression.bareConstant_eq_ok_iff]
  constructor
  · rintro ⟨_, ⟨stated, rfl⟩, built⟩
    exact ⟨stated, (Except.ok.inj built).symm⟩
  · rintro ⟨stated, rfl⟩
    exact ⟨_, ⟨stated, rfl⟩, rfl⟩

end Effect

namespace CompiledEffect

/-- The compiled effect that returning a value implies a conclusion. -/
def returning (value : Literal) (conclusion : CompiledExpression) : CompiledEffect where
  kind := .returns
  invocation := none
  arguments := [⟨0, none, some value, none, [], []⟩]
  conclusion := some conclusion

/-- The form that the compiled effect has in metadata. -/
def returningForm (value : Literal) (conclusion : Json) : Json :=
  .object
    [("type", .text "RETURNS_CONSTANT"),
      ("constructor_arguments", .array
        [.object [("constant_value", .object [("value", value.toJson)])]]),
      ("conclusion", conclusion)]

/-- Whatever value stands in metadata is the one that is read. -/
theorem read_returningForm {value : Literal} {form : Json} {conclusion : CompiledExpression}
    (read : CompiledExpression.read form = .valid conclusion) :
    CompiledEffect.read (returningForm value form) = .valid (returning value conclusion) := by
  have stated : form ≠ .null := by
    rintro rfl
    cases read
  have implied : nullable CompiledExpression.read form = .valid (some conclusion) :=
    nullable_eq_valid_iff.mpr (.inr ⟨stated, conclusion, read, rfl⟩)
  have inside : Schema.list CompiledExpression.read
      (.array [.object [("constant_value", .object [("value", value.toJson)])]]) =
        .valid (returning value conclusion).arguments := by
    cases value <;> rfl
  rw [returningForm, CompiledEffect.read, Checked.seq_eq_valid_iff]
  refine ⟨CompiledEffect.mk .returns none (returning value conclusion).arguments, some conclusion,
    ?_, optional_eq_valid_iff.mpr (.inr ⟨form, rfl, implied⟩), rfl⟩
  rw [Checked.seq_eq_valid_iff]
  exact ⟨CompiledEffect.mk .returns none, _, rfl,
    optional_eq_valid_iff.mpr (.inr ⟨_, rfl, inside⟩), rfl⟩

/-- The compiled effect is built if its conclusion is, for every value. -/
theorem build_returning_eq_ok_iff {value : Literal} {compiled : CompiledExpression}
    {effect : Effect} :
    (returning value compiled).build = .ok effect ↔
      ∃ conclusion, compiled.build = .ok conclusion ∧ effect = .returned value conclusion := by
  simp only [CompiledEffect.build, Chain.bind_eq_ok_iff, returning, Chain.optionMapM_some,
    Chain.map_eq_ok_iff]
  constructor
  · rintro ⟨_, same, _, ⟨conclusion, built, rfl⟩, made⟩
    cases same
    exact ⟨conclusion, built, (Except.ok.inj made).symm⟩
  · rintro ⟨conclusion, built, rfl⟩
    exact ⟨_, rfl, _, ⟨conclusion, built, rfl⟩, rfl⟩

end CompiledEffect

namespace Effect

open CompiledEffect (returningForm)

/-- For every value other than null, the factory gives the effect that metadata with that value
are built to; it refuses null, which metadata may have. The text has the token of the value and the
text of the conclusion, however parameters are written. -/
theorem returningValue_agrees_with_metadata (value : Literal) (conclusion : Expression) :
    (∀ effect, returningValue value conclusion = .ok effect ↔
      value ≠ .null ∧ effect = returned value conclusion) ∧
    (∀ compiled, (CompiledEffect.returning value compiled).build = .ok (returned value conclusion) ↔
      compiled.build = .ok conclusion) ∧
    (∀ form compiled, CompiledExpression.read form = .valid compiled →
      CompiledEffect.read (returningForm value form) =
        .valid (CompiledEffect.returning value compiled)) ∧
    ∀ token, (returned value conclusion).text token =
      "returns(" ++ value.token ++ ") implies " ++ conclusion.text token := by
  refine ⟨fun _ => returningValue_eq_ok_iff, fun compiled => ?_,
    fun _ _ => CompiledEffect.read_returningForm, text_returned value conclusion⟩
  rw [CompiledEffect.build_returning_eq_ok_iff]
  constructor
  · rintro ⟨other, built, same⟩
    cases same
    exact built
  · exact fun built => ⟨conclusion, built, rfl⟩

/-- What is said of the first parameter: that it is not null. -/
def firstGiven : Expression where
  proposition := .about 1 .isNull
  negated := true
  conjuncts := []
  disjuncts := []
  tags := .empty

/-- The same in metadata. -/
def firstGivenForm : Json := .object [("flags", .integer 3), ("parameter_index", .integer 1)]

/-- A truth value is taken alike by the factory and from metadata. -/
theorem returningValue_agrees_with_metadata_true :
    ∃ compiled imported, CompiledExpression.read firstGivenForm = .valid compiled ∧
      CompiledEffect.read (returningForm (.boolean true) firstGivenForm) = .valid imported ∧
      ∃ effect, imported.build = .ok effect ∧
        returningValue (.boolean true) firstGiven = .ok effect := by
  obtain ⟨factory, built, read, -⟩ :=
    returningValue_agrees_with_metadata (.boolean true) firstGiven
  exact ⟨_, _, rfl, read firstGivenForm _ rfl, _, (built _).mpr rfl, (factory _).mpr ⟨nofun, rfl⟩⟩

/-- Null is refused by the factory and taken from metadata. -/
theorem returningValue_disagrees_on_null :
    returningValue .null firstGiven = .error .nothingStated ∧
      ∃ imported effect,
        CompiledEffect.read (returningForm .null firstGivenForm) = .valid imported ∧
        imported.build = .ok effect ∧ effect.canonical = "returns(null) implies ($1 != null)" :=
  ⟨rfl, _, _, rfl, rfl, by decide +kernel⟩

end Effect

end KotlinContract
