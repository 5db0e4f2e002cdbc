import KotlinContract.Contract.Basic
import KotlinContract.Proofs.Expression.Indices
import KotlinContract.Proofs.Text.Ended

/-!
# Places in expressions and contracts

A node of an expression is found by the steps that lead to it. Where every node speaks about a
parameter, the text of a node stands in the text of the whole between two texts that do not depend
on it (`Expression.exists_frame`), and likewise the text of an expression in that of a contract
(`Contract.exists_frame`). So whatever is put in its place is shown if its text differs.
-/
namespace KotlinContract

/-- Two texts between which another stands. -/
structure Frame where
  /-- The text before. -/
  before : String
  /-- The text after. -/
  after : String

namespace Frame

/-- The whole text with a text in its place. -/
def fill (frame : Frame) (text : String) : String := frame.before ++ text ++ frame.after

/-- The frame that is left where a frame stands in another. -/
def within (outer inner : Frame) : Frame where
  before := outer.before ++ inner.before
  after := inner.after ++ outer.after

/-- Filling a frame in a frame fills both. -/
theorem fill_within (outer inner : Frame) (text : String) :
    (outer.within inner).fill text = outer.fill (inner.fill text) := by
  simp [fill, within, String.append_assoc]

/-- Different texts in one place make different texts. -/
theorem fill_inj {frame : Frame} {left right : String} :
    frame.fill left = frame.fill right ↔ left = right := by
  rw [fill, fill, String.append_left_inj, String.append_right_inj]

end Frame

/-- A step from an expression to one that is joined to it. -/
inductive Expression.Step where
  /-- To the conjunct at a position. -/
  | conjunct (position : Nat)
  /-- To the disjunct at a position. -/
  | disjunct (position : Nat)
  deriving DecidableEq

/-- The item at a position that is modified stands between the same items. -/
theorem exists_split_of_getElem? {α : Type} {items : List α} {position : Nat} {item : α}
    (found : items[position]? = some item) :
    ∃ front back, items = front ++ item :: back ∧
      ∀ change, items.modify position change = front ++ change item :: back := by
  obtain ⟨bound, same⟩ := List.getElem?_eq_some_iff.mp found
  have whole : items = items.take position ++ item :: items.drop (position + 1) := by
    rw [← same, ← List.drop_eq_getElem_cons bound, List.take_append_drop]
  refine ⟨items.take position, items.drop (position + 1), whole, fun change => ?_⟩
  rw [List.modify_eq_take_cons_drop bound, same]

namespace Expression

/-- The node that the steps lead to. -/
def node? : List Step → Expression → Option Expression
  | [], expression => some expression
  | .conjunct position :: rest, expression => expression.conjuncts[position]?.bind (node? rest)
  | .disjunct position :: rest, expression => expression.disjuncts[position]?.bind (node? rest)

/-- The expression with the node that the steps lead to modified. -/
def modifyAt (change : Expression → Expression) : List Step → Expression → Expression
  | [], expression => change expression
  | .conjunct position :: rest, expression =>
    { expression with conjuncts := expression.conjuncts.modify position (modifyAt change rest) }
  | .disjunct position :: rest, expression =>
    { expression with disjuncts := expression.disjuncts.modify position (modifyAt change rest) }

/-- What the steps lead to is a node of the expression. -/
theorem mem_nodes_of_node? {path : List Step} : ∀ {expression node : Expression},
    expression.node? path = some node → node ∈ expression.nodes := by
  induction path with
  | nil =>
    intro expression node found
    obtain rfl : expression = node := Option.some.inj found
    exact mem_nodes_self expression
  | cons step rest hypothesis =>
    intro expression node found
    rw [nodes_eq, List.mem_cons, List.mem_append, List.mem_flatMap, List.mem_flatMap]
    cases step with
    | conjunct position =>
      obtain ⟨conjunct, here, later⟩ := Option.bind_eq_some_iff.mp found
      exact .inr (.inl ⟨conjunct, List.mem_of_getElem? here, hypothesis later⟩)
    | disjunct position =>
      obtain ⟨disjunct, here, later⟩ := Option.bind_eq_some_iff.mp found
      exact .inr (.inr ⟨disjunct, List.mem_of_getElem? here, hypothesis later⟩)

/-- Every node speaks about a parameter. -/
def Indexed (expression : Expression) : Prop :=
  ∀ node ∈ expression.nodes, node.index?.isSome = true

/-- What is joined to an indexed expression is indexed. -/
theorem Indexed.joined {expression other : Expression} (indexed : expression.Indexed)
    (among : other ∈ expression.conjuncts ∨ other ∈ expression.disjuncts) : other.Indexed := by
  intro node member
  apply indexed
  rw [nodes_eq, List.mem_cons, List.mem_append, List.mem_flatMap, List.mem_flatMap]
  exact .inr (among.imp (⟨other, ·, member⟩) (⟨other, ·, member⟩))

/-- An indexed expression is about a parameter. -/
theorem Indexed.exists_about {expression : Expression} (indexed : expression.Indexed) :
    ∃ index test negated conjuncts disjuncts tags,
      expression = ⟨.about index test, negated, conjuncts, disjuncts, tags⟩ := by
  obtain ⟨proposition, negated, conjuncts, disjuncts, tags⟩ := expression
  cases proposition with
  | bare constant =>
    exact absurd (indexed _ (mem_nodes_self _)) (by simp [index?, Proposition.index?])
  | about index test => exact ⟨index, test, negated, conjuncts, disjuncts, tags, rfl⟩

variable (token : Nat → String)

/-- The texts of joined expressions are written one after the other. -/
theorem joinedText_append (operator : String) (first second : List Expression) :
    joinedText token operator (first ++ second) =
      joinedText token operator first ++ joinedText token operator second := by
  induction first with
  | nil => simp [joinedText]
  | cons expression rest hypothesis =>
    simp only [List.cons_append, joinedText, hypothesis, String.append_assoc]

/-- The text of a joined expression stands in a frame that does not depend on it. -/
theorem exists_frame_of_joined (operator : String) {expressions : List Expression} {position : Nat}
    {expression : Expression} (found : expressions[position]? = some expression) :
    ∃ frame : Frame,
      joinedText token operator expressions = frame.fill (expression.innerText token) ∧
        ∀ change : Expression → Expression,
          joinedText token operator (expressions.modify position change) =
            frame.fill ((change expression).innerText token) := by
  obtain ⟨front, back, whole, modified⟩ := exists_split_of_getElem? found
  refine ⟨⟨joinedText token operator front ++ operator ++ "(",
    ")" ++ joinedText token operator back⟩, ?_, fun change => ?_⟩
  · rw [whole, joinedText_append, joinedText]
    simp [Frame.fill, TypeName.parenthesized, String.append_assoc]
  · rw [modified, joinedText_append, joinedText]
    simp [Frame.fill, TypeName.parenthesized, String.append_assoc]

/-- The text of a node of an indexed expression stands in a frame that does not depend on it. -/
theorem exists_frame {path : List Step} : ∀ {expression node : Expression}, expression.Indexed →
    expression.node? path = some node →
      ∃ frame : Frame, expression.innerText token = frame.fill (node.innerText token) ∧
        ∀ change : Expression → Expression,
          (expression.modifyAt change path).innerText token =
            frame.fill ((change node).innerText token) := by
  induction path with
  | nil =>
    intro expression node _ found
    obtain rfl := Option.some.inj found
    exact ⟨⟨"", ""⟩, by simp [Frame.fill], fun change => by simp [Frame.fill, modifyAt]⟩
  | cons step rest hypothesis =>
    intro expression node indexed found
    cases step with
    | conjunct position =>
      obtain ⟨conjunct, here, later⟩ := Option.bind_eq_some_iff.mp found
      obtain ⟨inner, text, texts⟩ :=
        hypothesis (indexed.joined (.inl (List.mem_of_getElem? here))) later
      obtain ⟨outer, joined, modified⟩ :=
        exists_frame_of_joined token conjunction here
      obtain ⟨index, test, negated, conjuncts, disjuncts, tags, rfl⟩ := indexed.exists_about
      refine ⟨(Frame.within ⟨Proposition.text token negated (.about index test),
        joinedText token disjunction disjuncts⟩ outer).within inner, ?_, fun change => ?_⟩
      · rw [innerText, joined, text, Frame.fill_within, Frame.fill_within]
        rfl
      · rw [modifyAt, innerText, modified, texts, Frame.fill_within, Frame.fill_within]
        rfl
    | disjunct position =>
      obtain ⟨disjunct, here, later⟩ := Option.bind_eq_some_iff.mp found
      obtain ⟨inner, text, texts⟩ :=
        hypothesis (indexed.joined (.inr (List.mem_of_getElem? here))) later
      obtain ⟨outer, joined, modified⟩ :=
        exists_frame_of_joined token disjunction here
      obtain ⟨index, test, negated, conjuncts, disjuncts, tags, rfl⟩ := indexed.exists_about
      refine ⟨(Frame.within ⟨Proposition.text token negated (.about index test) ++
        joinedText token conjunction conjuncts, ""⟩ outer).within inner, ?_, fun change => ?_⟩
      · rw [innerText, joined, text, Frame.fill_within, Frame.fill_within]
        exact String.append_empty.symm
      · rw [modifyAt, innerText, modified, texts, Frame.fill_within, Frame.fill_within]
        exact String.append_empty.symm

/-- A change that leaves the indices in the text of each expression alone leaves those in the texts
of all alone. -/
theorem renderedAll_modify {change : Expression → Expression}
    (same : ∀ expression, (change expression).rendered = expression.rendered) (position : Nat)
    (expressions : List Expression) :
    renderedAll (expressions.modify position change) = renderedAll expressions := by
  induction expressions generalizing position with
  | nil => rw [List.modify_nil]
  | cons expression rest hypothesis =>
    cases position with
    | zero => rw [List.modify_zero_cons, renderedAll, renderedAll, same]
    | succ position => rw [List.modify_succ_cons, renderedAll, renderedAll, hypothesis]

/-- A change that leaves the indices in the text of each node alone leaves those in the text of the
whole alone. -/
theorem rendered_modifyAt {change : Expression → Expression}
    (same : ∀ node, (change node).rendered = node.rendered) (path : List Step)
    (expression : Expression) :
    (expression.modifyAt change path).rendered = expression.rendered := by
  induction path generalizing expression with
  | nil => exact same expression
  | cons step rest hypothesis =>
    obtain ⟨proposition, negated, conjuncts, disjuncts, tags⟩ := expression
    cases proposition with
    | bare constant => cases step <;> rfl
    | about index test =>
      cases step with
      | conjunct position => rw [modifyAt, rendered, renderedAll_modify hypothesis, ← rendered]
      | disjunct position => rw [modifyAt, rendered, renderedAll_modify hypothesis, ← rendered]

end Expression

/-- A place of an expression in an effect. -/
inductive Place where
  /-- In the parentheses. -/
  | argument
  /-- After the implication. -/
  | conclusion
  deriving DecidableEq

namespace Clause

/-- The expression at a place. -/
def root? (place : Place) (clause : Clause) : Option Expression :=
  match place with
  | .argument => clause.arguments.head?
  | .conclusion => clause.conclusion?

/-- The effect with the expression at a place modified. -/
def modifyRoot (change : Expression → Expression) : Place → Clause → Clause
  | .argument, .returns value conclusion => .returns (value.map change) conclusion
  | .argument, .returnsNotNull conclusion => .returnsNotNull conclusion
  | .argument, .calls target invocation => .calls (change target) invocation
  | .conclusion, .returns value conclusion => .returns value (change conclusion)
  | .conclusion, .returnsNotNull conclusion => .returnsNotNull (change conclusion)
  | .conclusion, .calls target invocation => .calls target invocation

/-- The text of an expression stands in that of the effect in a frame that does not depend on
it. -/
theorem exists_frame (token : Nat → String) {place : Place} {clause : Clause} {root : Expression}
    (found : clause.root? place = some root) :
    ∃ frame : Frame, clause.text token = frame.fill (root.innerText token) ∧
      ∀ change : Expression → Expression,
        (clause.modifyRoot change place).text token =
          frame.fill ((change root).innerText token) := by
  have after (front : String) : ∃ frame : Frame, ∀ expression : Expression,
      front ++ expression.text token = frame.fill (expression.innerText token) :=
    ⟨⟨front ++ "(", ")"⟩, fun expression => by
      simp [Frame.fill, Expression.text, TypeName.parenthesized, String.append_assoc]⟩
  cases place with
  | argument =>
    cases clause with
    | returns value conclusion =>
      obtain rfl : value = some root := by cases value <;> simp_all [root?, arguments]
      refine ⟨⟨EffectKind.returns.keyword ++ "(", ")" ++ implication ++ conclusion.text token⟩, ?_,
        fun change => ?_⟩ <;>
      simp [text, modifyRoot, Frame.fill, Expression.text, TypeName.parenthesized,
        String.append_assoc]
    | returnsNotNull conclusion => simp [root?, arguments] at found
    | calls target invocation =>
      obtain rfl : target = root := by simpa [root?, arguments] using found
      refine ⟨⟨EffectKind.calls.keyword ++ "(", ", " ++ invocation.token ++ ")"⟩, ?_,
        fun change => ?_⟩ <;>
      simp [text, modifyRoot, Frame.fill, String.append_assoc]
  | conclusion =>
    cases clause with
    | returns value conclusion =>
      obtain rfl : conclusion = root := by simpa [root?, conclusion?] using found
      obtain ⟨frame, filled⟩ := after (EffectKind.returns.keyword ++
        value.elim "()" (·.text token) ++ implication)
      exact ⟨frame, filled _, fun change => filled _⟩
    | returnsNotNull conclusion =>
      obtain rfl : conclusion = root := by simpa [root?, conclusion?] using found
      obtain ⟨frame, filled⟩ := after (EffectKind.returnsNotNull.keyword ++ "()" ++ implication)
      exact ⟨frame, filled _, fun change => filled _⟩
    | calls target invocation => simp [root?, conclusion?] at found

/-- A change that leaves the indices in the text of each expression alone leaves those in the text
of the effect alone. -/
theorem renderedAll_roots_modifyRoot {change : Expression → Expression}
    (same : ∀ expression, (change expression).rendered = expression.rendered) (place : Place)
    (clause : Clause) :
    Expression.renderedAll (clause.modifyRoot change place).roots =
      Expression.renderedAll clause.roots := by
  cases place <;> cases clause with
  | returns value conclusion =>
    cases value <;> simp [modifyRoot, roots, arguments, conclusion?, Expression.renderedAll, same]
  | returnsNotNull conclusion =>
    simp [modifyRoot, roots, arguments, conclusion?, Expression.renderedAll, same]
  | calls target invocation =>
    simp [modifyRoot, roots, arguments, conclusion?, Expression.renderedAll, same]

end Clause

namespace Contract

/-- The expression at a place of the effect at a position. -/
def root? (position : Nat) (place : Place) (contract : Contract) : Option Expression :=
  contract.effects[position]?.bind fun effect => effect.clause.root? place

/-- The contract with the expression at a place of the effect at a position modified. -/
def modifyRoot (change : Expression → Expression) (position : Nat) (place : Place)
    (contract : Contract) : Contract where
  effects := contract.effects.modify position fun effect =>
    { effect with clause := effect.clause.modifyRoot change place }
  tags := contract.tags
  nonempty := by simpa using contract.nonempty

/-- The lines of a block stand between the lines before and after them. -/
theorem exists_frame_of_block (front back : List String) :
    ∃ frame : Frame, ∀ line, block (front ++ line :: back) = frame.fill line := by
  have single (text : String) : Text.join "" [text] = text := rfl
  refine ⟨⟨opening ++ Text.join "" (front.map ("  " ++ · ++ "\n")) ++ "  ",
    "\n" ++ Text.join "" (back.map ("  " ++ · ++ "\n")) ++ closing⟩, fun line => ?_⟩
  rw [block, List.map_append, List.map_cons, ← List.singleton_append, Text.join_empty_append,
    Text.join_empty_append, single]
  simp [Frame.fill, String.append_assoc]

/-- The text of an expression stands in that of the contract in a frame that does not depend on
it. -/
theorem exists_frame (token : Nat → String) {position : Nat} {place : Place} {contract : Contract}
    {root : Expression} (found : contract.root? position place = some root) :
    ∃ frame : Frame, contract.text token = frame.fill (root.innerText token) ∧
      ∀ change : Expression → Expression,
        (contract.modifyRoot change position place).text token =
          frame.fill ((change root).innerText token) := by
  obtain ⟨effect, here, inside⟩ := Option.bind_eq_some_iff.mp found
  obtain ⟨inner, line, lines⟩ := Clause.exists_frame token inside
  obtain ⟨front, back, whole, modified⟩ := exists_split_of_getElem? here
  obtain ⟨outer, filled⟩ := exists_frame_of_block (front.map (Effect.text token))
    (back.map (Effect.text token))
  refine ⟨outer.within inner, ?_, fun change => ?_⟩
  · rw [Frame.fill_within, ← line, ← filled, text, whole, List.map_append, List.map_cons]
    rfl
  · have effects : (contract.modifyRoot change position place).effects = _ := modified _
    rw [Frame.fill_within, ← lines, ← filled, text, effects, List.map_append, List.map_cons]
    rfl

/-- A change that leaves the indices in the text of each expression alone leaves those in the text
of the contract alone. -/
theorem rendered_modifyRoot {change : Expression → Expression}
    (same : ∀ expression, (change expression).rendered = expression.rendered) (position : Nat)
    (place : Place) (contract : Contract) :
    (contract.modifyRoot change position place).rendered = contract.rendered := by
  have effects (effects : List Effect) (position : Nat) :
      (effects.modify position fun effect =>
        { effect with clause := effect.clause.modifyRoot change place }).flatMap Effect.rendered =
          effects.flatMap Effect.rendered := by
    induction effects generalizing position with
    | nil => rw [List.modify_nil]
    | cons effect rest hypothesis =>
      cases position with
      | zero =>
        rw [List.modify_zero_cons, List.flatMap_cons, List.flatMap_cons, Effect.rendered,
          Clause.renderedAll_roots_modifyRoot same, ← Effect.rendered]
      | succ position =>
        rw [List.modify_succ_cons, List.flatMap_cons, List.flatMap_cons, hypothesis]
  exact effects contract.effects position

end Contract

end KotlinContract
