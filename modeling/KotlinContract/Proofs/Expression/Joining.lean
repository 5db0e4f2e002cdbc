import KotlinContract.Proofs.Expression.Places

/-!
# What is joined is shown

What is joined to an expression about a parameter is written between two texts that do not depend on
it, so expressions that differ are still told apart once they are joined, and the text that they are
joined to grows. A bare token is written without what is joined to it, so nothing of that is shown
(`Expression.joining_shown_iff`).
-/
namespace KotlinContract.Expression

/-- The expression with one more conjunct, after those that are there. -/
def withConjunct (expression argument : Expression) : Expression :=
  { expression with conjuncts := expression.conjuncts ++ [argument] }

/-- The expression with one more disjunct, after those that are there. -/
def withDisjunct (expression argument : Expression) : Expression :=
  { expression with disjuncts := expression.disjuncts ++ [argument] }

/-- Joining by a conjunction is never refused. -/
theorem and_eq_ok (expression argument : Expression) :
    expression.and argument = .ok (expression.withConjunct argument) :=
  (expression.withConjunct argument).build_toDraft

/-- Joining by a disjunction is never refused. -/
theorem or_eq_ok (expression argument : Expression) :
    expression.or argument = .ok (expression.withDisjunct argument) :=
  (expression.withDisjunct argument).build_toDraft

/-- Expressions are equal if the texts between their parentheses are. -/
theorem beq_iff_innerText_eq {first second : Expression} :
    (first == second) = true ↔ first.innerText placeholder = second.innerText placeholder := by
  change (first.canonical == second.canonical) = true ↔ _
  rw [beq_iff_eq]
  simp [canonical, text, TypeName.parenthesized]

/-- The text of what is joined by an operator tells the text of the expression. -/
theorem joinedText_singleton_inj {token : Nat → String} {operator : String}
    {first second : Expression} :
    joinedText token operator [first] = joinedText token operator [second] ↔
      first.innerText token = second.innerText token := by
  simp [joinedText, TypeName.parenthesized]

/-- What is joined by an operator is written. -/
theorem joinedText_singleton_ne_empty (token : Nat → String) (operator : String)
    (argument : Expression) : joinedText token operator [argument] ≠ "" := by
  simp [joinedText, TypeName.parenthesized]

section About

variable {expression : Expression} (about : expression.index?.isSome = true)
  (token : Nat → String)

include about

/-- A further conjunct of an expression about a parameter stands where nothing stood before. -/
theorem exists_frame_withConjunct :
    ∃ frame : Frame, expression.innerText token = frame.fill "" ∧
      ∀ argument, (expression.withConjunct argument).innerText token =
        frame.fill (joinedText token conjunction [argument]) := by
  obtain ⟨proposition, negated, conjuncts, disjuncts, tags⟩ := expression
  cases proposition with
  | bare constant => contradiction
  | about index test =>
    refine ⟨⟨Proposition.text token negated (.about index test) ++
      joinedText token conjunction conjuncts, joinedText token disjunction disjuncts⟩, ?_,
      fun argument => ?_⟩
    · rw [innerText, Frame.fill, String.append_empty]
    · rw [withConjunct, innerText, joinedText_append, Frame.fill, ← String.append_assoc]

/-- A further disjunct of an expression about a parameter stands at its end. -/
theorem exists_frame_withDisjunct :
    ∃ frame : Frame, expression.innerText token = frame.fill "" ∧
      ∀ argument, (expression.withDisjunct argument).innerText token =
        frame.fill (joinedText token disjunction [argument]) := by
  refine ⟨⟨expression.innerText token, ""⟩, ?_, fun argument => ?_⟩
  · simp [Frame.fill]
  · obtain ⟨proposition, negated, conjuncts, disjuncts, tags⟩ := expression
    cases proposition with
    | bare constant => contradiction
    | about index test =>
      rw [withDisjunct, innerText, joinedText_append, Frame.fill, String.append_empty, innerText,
        ← String.append_assoc]

end About

/-- Where what is joined stands in a frame that was empty before, it is shown: it is told apart from
whatever else may be joined, and from nothing. -/
theorem joined_shown_of_frame {root : Expression} {join : Expression → Expression} {frame : Frame}
    {operator : String} (alone : root.innerText placeholder = frame.fill "")
    (filled : ∀ argument, (join argument).innerText placeholder =
      frame.fill (joinedText placeholder operator [argument])) (first second : Expression) :
    ((join first == join second) = true ↔ (first == second) = true) ∧
      ¬ (join first == root) = true := by
  constructor
  · rw [beq_iff_innerText_eq, beq_iff_innerText_eq, filled, filled, Frame.fill_inj,
      joinedText_singleton_inj]
  · rw [beq_iff_innerText_eq, filled, alone, Frame.fill_inj]
    exact joinedText_singleton_ne_empty placeholder operator first

/-- What is joined to a bare token is not written. -/
theorem innerText_bare {expression : Expression} (bare : expression.index? = none)
    (token : Nat → String) (argument : Expression) :
    (expression.withConjunct argument).innerText token = expression.innerText token ∧
      (expression.withDisjunct argument).innerText token = expression.innerText token := by
  obtain ⟨proposition, negated, conjuncts, disjuncts, tags⟩ := expression
  cases proposition with
  | bare constant => exact ⟨rfl, rfl⟩
  | about index test => contradiction

/-- Which joined expressions are shown. Joining is never refused. Two expressions, each joined to
the same third one, make equal expressions if and only if they are equal or the third one is a bare
token; and joining an expression to another leaves that equal to what it was if and only if it is a
bare token. -/
theorem joining_shown_iff (root first second : Expression) :
    ∃ firstAll secondAll firstAny secondAny : Expression,
      root.and first = .ok firstAll ∧ root.and second = .ok secondAll ∧
      root.or first = .ok firstAny ∧ root.or second = .ok secondAny ∧
      ((firstAll == secondAll) = true ↔ root.index? = none ∨ (first == second) = true) ∧
      ((firstAny == secondAny) = true ↔ root.index? = none ∨ (first == second) = true) ∧
      ((firstAll == root) = true ↔ root.index? = none) ∧
      ((firstAny == root) = true ↔ root.index? = none) := by
  refine ⟨_, _, _, _, and_eq_ok root first, and_eq_ok root second, or_eq_ok root first,
    or_eq_ok root second, ?_⟩
  cases index : root.index? with
  | none =>
    have lost := innerText_bare index placeholder
    simp [beq_iff_innerText_eq, lost]
  | some parameter =>
    have about : root.index?.isSome = true := by rw [index, Option.isSome_some]
    obtain ⟨_, aloneAll, filledAll⟩ := exists_frame_withConjunct about placeholder
    obtain ⟨_, aloneAny, filledAny⟩ := exists_frame_withDisjunct about placeholder
    obtain ⟨all, grownAll⟩ := joined_shown_of_frame aloneAll filledAll first second
    obtain ⟨any, grownAny⟩ := joined_shown_of_frame aloneAny filledAny first second
    simp only [reduceCtorEq, false_or, iff_false]
    exact ⟨all, any, grownAll, grownAny⟩

/-- The comparison of the first parameter with null, negated or not. -/
def argumentNull (negated : Bool) : Expression where
  proposition := .about 1 .isNull
  negated := negated
  conjuncts := []
  disjuncts := []
  tags := .empty

/-- Whether the comparison with null or its negation is joined to the token `true`, the token stays
what it was. -/
theorem joining_lost_true :
    (argumentNull true == argumentNull false) = false ∧
      (∃ given absent, (reference "true").and (argumentNull true) = .ok given ∧
        (reference "true").and (argumentNull false) = .ok absent ∧
        (given == absent) = true ∧ (given == reference "true") = true) ∧
      ∃ given absent, (reference "true").or (argumentNull true) = .ok given ∧
        (reference "true").or (argumentNull false) = .ok absent ∧
        (given == absent) = true ∧ (given == reference "true") = true :=
  ⟨by decide, ⟨_, _, rfl, rfl, by decide, by decide⟩, _, _, rfl, rfl, by decide, by decide⟩

end KotlinContract.Expression
