import KotlinContract.Metadata.Build
import KotlinContract.Proofs.Chain
import KotlinContract.Proofs.Drafts
import KotlinContract.Proofs.Expression.Places

/-!
# Which negations are shown

Negating one node of an expression changes the text if and only if the node has a predicate: a
comparison with null or a constant, or a test for a type. A parameter that is itself the proposition
shows no negation. The same holds of the lowest bit of a node of a compiled expression, since
building from it negates the node at the same place, and of contracts that an expression is part of
(`Expression.negation_shown_iff`).
-/
namespace KotlinContract

namespace Expression

/-- The opposite of an expression, as far as it says something by itself. -/
def negate (expression : Expression) : Expression :=
  { expression with negated := !expression.negated }

/-- The expression with the node that the steps lead to negated. -/
def negateAt (path : List Step) (expression : Expression) : Expression :=
  expression.modifyAt negate path

/-- Whether the expression has a predicate. -/
def hasPredicate (expression : Expression) : Bool :=
  expression.isNullCheck || expression.constant?.isSome || expression.instanceType?.isSome

/-- Negation leaves the indices in the text alone. -/
theorem rendered_negate (expression : Expression) :
    expression.negate.rendered = expression.rendered := by
  obtain ⟨proposition, negated, conjuncts, disjuncts, tags⟩ := expression
  cases proposition <;> rfl

/-- The two operators of a comparison differ. -/
theorem equalsText_not_ne (negated : Bool) :
    Proposition.equalsText negated ≠ Proposition.equalsText !negated := by
  cases negated <;> decide

/-- The two operators of a test for a type differ. -/
theorem instanceText_not_ne (negated : Bool) :
    Proposition.instanceText negated ≠ Proposition.instanceText !negated := by
  cases negated <;> decide

/-- The text of an expression about a parameter shows its negation if and only if it has a
predicate. -/
theorem innerText_negate_ne_iff (token : Nat → String) {expression : Expression}
    (indexed : expression.index?.isSome = true) :
    expression.innerText token ≠ expression.negate.innerText token ↔
      expression.hasPredicate = true := by
  obtain ⟨proposition, negated, conjuncts, disjuncts, tags⟩ := expression
  cases proposition with
  | bare constant => contradiction
  | about index test =>
    have own : innerText token ⟨.about index test, negated, conjuncts, disjuncts, tags⟩ =
        innerText token (negate ⟨.about index test, negated, conjuncts, disjuncts, tags⟩) ↔
          Proposition.text token negated (.about index test) =
            Proposition.text token (!negated) (.about index test) := by
      rw [negate, innerText, innerText, String.append_left_inj, String.append_left_inj]
    rw [Ne, own]
    cases test with
    | holds => exact iff_of_false (fun differ => differ rfl) Bool.false_ne_true
    | isNull =>
      have differ :=
        mt (@Frame.fill_inj ⟨token index, nullToken⟩ _ _).mp (equalsText_not_ne negated)
      exact iff_of_true differ rfl
    | equals constant =>
      have differ :=
        mt (@Frame.fill_inj ⟨token index, constant⟩ _ _).mp (equalsText_not_ne negated)
      exact iff_of_true differ rfl
    | isInstance type =>
      have differ :=
        mt (@Frame.fill_inj ⟨token index, type.render⟩ _ _).mp (instanceText_not_ne negated)
      exact iff_of_true differ rfl

/-- The text of an indexed expression shows the negation of a node if and only if the node has a
predicate. -/
theorem innerText_negateAt_ne_iff (token : Nat → String) {path : List Step}
    {expression node : Expression} (indexed : expression.Indexed)
    (found : expression.node? path = some node) :
    expression.innerText token ≠ (expression.negateAt path).innerText token ↔
      node.hasPredicate = true := by
  obtain ⟨frame, text, texts⟩ := exists_frame token indexed found
  rw [negateAt, text, texts, Ne, Frame.fill_inj]
  exact innerText_negate_ne_iff token (indexed node (mem_nodes_of_node? found))

/-- The canonical text of an indexed expression shows the negation of a node if and only if the node
has a predicate. -/
theorem canonical_negateAt_ne_iff {path : List Step} {expression node : Expression}
    (indexed : expression.Indexed) (found : expression.node? path = some node) :
    expression.canonical ≠ (expression.negateAt path).canonical ↔ node.hasPredicate = true := by
  rw [← innerText_negateAt_ne_iff placeholder indexed found]
  simp [canonical, text, TypeName.parenthesized]

end Expression

namespace Contract

variable {contract : Contract} {position : Nat} {place : Place} {path : List Expression.Step}
  {root node : Expression}

/-- The text of a contract shows the negation of a node of an indexed expression of it if and only
if the node has a predicate. -/
theorem text_negateAt_ne_iff (token : Nat → String)
    (placed : contract.root? position place = some root) (indexed : root.Indexed)
    (found : root.node? path = some node) :
    contract.text token ≠
        (contract.modifyRoot (Expression.negateAt path) position place).text token ↔
      node.hasPredicate = true := by
  obtain ⟨frame, text, texts⟩ := exists_frame token placed
  rw [text, texts, Ne, Frame.fill_inj]
  exact Expression.innerText_negateAt_ne_iff token indexed found

/-- A contract in which a node is negated is rendered for the same functions, and with another text
if and only if the node has a predicate. -/
theorem render_negateAt_ne_iff (placed : contract.root? position place = some root)
    (indexed : root.Indexed) (found : root.node? path = some node) {function : Declaration}
    {text : String} (rendered : contract.render function = .ok text) :
    ∃ other, (contract.modifyRoot (Expression.negateAt path) position place).render function =
        .ok other ∧
      (text ≠ other ↔ node.hasPredicate = true) := by
  have same : ∀ expression : Expression,
      (expression.negateAt path).rendered = expression.rendered :=
    Expression.rendered_modifyAt Expression.rendered_negate path
  obtain ⟨_, allowed, written⟩ := Chain.bind_eq_ok_iff.mp rendered
  obtain rfl : contract.text function.token = text := Except.ok.inj written
  refine ⟨_, ?_, text_negateAt_ne_iff function.token placed indexed found⟩
  rw [render, rendered_modifyRoot same, allowed]
  rfl

end Contract

namespace CompiledExpression

/-- The node that the steps lead to. -/
def node? : List Expression.Step → CompiledExpression → Option CompiledExpression
  | [], compiled => some compiled
  | .conjunct position :: rest, compiled => compiled.conjuncts[position]?.bind (node? rest)
  | .disjunct position :: rest, compiled => compiled.disjuncts[position]?.bind (node? rest)

/-- The compiled expression with the node that the steps lead to modified. -/
def modifyAt (change : CompiledExpression → CompiledExpression) :
    List Expression.Step → CompiledExpression → CompiledExpression
  | [], compiled => change compiled
  | .conjunct position :: rest, compiled =>
    { compiled with conjuncts := compiled.conjuncts.modify position (modifyAt change rest) }
  | .disjunct position :: rest, compiled =>
    { compiled with disjuncts := compiled.disjuncts.modify position (modifyAt change rest) }

mutual

/-- Whether every node speaks about a parameter. -/
def indexed : CompiledExpression → Bool
  | ⟨_, index, _, _, conjuncts, disjuncts⟩ =>
    index.isSome && indexedAll conjuncts && indexedAll disjuncts

/-- Whether every node of several compiled expressions speaks about a parameter. -/
def indexedAll : List CompiledExpression → Bool
  | [] => true
  | first :: rest => first.indexed && indexedAll rest

end

/-- Whether the compiled expression has a predicate. -/
def hasPredicate (compiled : CompiledExpression) : Bool :=
  compiled.nullCheck || compiled.constant.isSome || compiled.instanceType.isSome

/-- The compiled expression with its lowest bit flipped. -/
def flip (compiled : CompiledExpression) : CompiledExpression :=
  { compiled with flags := if compiled.negated then compiled.flags - 1 else compiled.flags + 1 }

/-- The compiled expression with the lowest bit of the node that the steps lead to flipped. -/
def flipAt (path : List Expression.Step) (compiled : CompiledExpression) : CompiledExpression :=
  compiled.modifyAt flip path

/-- What is built has the negation, the predicates, the index and the joined expressions that are
compiled, and no tags. -/
theorem build_eq_ok_iff {compiled : CompiledExpression} {expression : Expression} :
    compiled.build = .ok expression ↔
      compiled.negated = expression.negated ∧ compiled.nullCheck = expression.isNullCheck ∧
        compiled.index = expression.index?.map Int.ofNat ∧
        compiled.constant.map Literal.token = expression.constant? ∧
        buildType compiled.instanceType = .ok expression.instanceType? ∧
        buildAll compiled.conjuncts = .ok expression.conjuncts ∧
        buildAll compiled.disjuncts = .ok expression.disjuncts ∧ Tags.empty = expression.tags := by
  obtain ⟨flags, index, constant, instanceType, conjuncts, disjuncts⟩ := compiled
  simp only [build, Chain.bind_eq_ok_iff, Expression.Draft.build_eq_ok_iff, Expression.toDraft,
    Expression.Draft.mk.injEq]
  constructor
  · rintro ⟨_, types, _, all, _, any, negation, null, indices, constants, rfl, rfl, rfl, attached⟩
    exact ⟨negation, null, indices, constants, types, all, any, attached⟩
  · rintro ⟨negation, null, indices, constants, types, all, any, attached⟩
    exact ⟨_, types, _, all, _, any, negation, null, indices, constants, rfl, rfl, rfl, attached⟩

/-- The lowest bit decides the negation. -/
theorem negated_flip (compiled : CompiledExpression) :
    compiled.flip.negated = !compiled.negated := by
  rcases Int.emod_two_eq compiled.flags with even | odd
  · have next : (compiled.flags + 1) % 2 = 1 := by omega
    simp [flip, negated, even, next]
  · have previous : (compiled.flags - 1) % 2 = 0 := by omega
    simp [flip, negated, odd, previous]

/-- The lowest bit does not decide the comparison with null. -/
theorem nullCheck_flip (compiled : CompiledExpression) :
    compiled.flip.nullCheck = compiled.nullCheck := by
  rcases Int.emod_two_eq compiled.flags with even | odd
  · have next : (compiled.flags + 1) / 2 = compiled.flags / 2 := by omega
    simp [flip, negated, nullCheck, even, next]
  · have previous : (compiled.flags - 1) / 2 = compiled.flags / 2 := by omega
    simp [flip, negated, nullCheck, odd, previous]

/-- From a compiled expression with its lowest bit flipped the opposite is built. -/
theorem build_flip {compiled : CompiledExpression} {expression : Expression}
    (built : compiled.build = .ok expression) : compiled.flip.build = .ok expression.negate := by
  obtain ⟨negation, null, rest⟩ := build_eq_ok_iff.mp built
  refine build_eq_ok_iff.mpr ⟨?_, ?_, rest⟩
  · rw [negated_flip, negation]
    rfl
  · rw [nullCheck_flip, null]
    rfl

/-- What is built has a predicate if one is compiled. -/
theorem hasPredicate_eq {compiled : CompiledExpression} {expression : Expression}
    (built : compiled.build = .ok expression) :
    expression.hasPredicate = compiled.hasPredicate := by
  obtain ⟨-, null, -, constants, types, -⟩ := build_eq_ok_iff.mp built
  have typed : compiled.instanceType.isSome = expression.instanceType?.isSome := by
    cases type : compiled.instanceType with
    | none =>
      rw [type] at types
      rw [← Except.ok.inj types]
      rfl
    | some type' =>
      rw [type, buildType] at types
      cases found : Classifier.typeName (some type'.classifier) type'.nullable with
      | error error =>
        rw [found] at types
        contradiction
      | ok name =>
        rw [found] at types
        rw [← Except.ok.inj types]
        rfl
  rw [Expression.hasPredicate, hasPredicate, ← null, ← constants, typed, Option.isSome_map]

/-- Each of several compiled expressions is built at its position, and modifying it there modifies
what is built there. -/
theorem exists_built_of_getElem? {items : List CompiledExpression} {position : Nat}
    {item : CompiledExpression} : ∀ {expressions : List Expression},
    buildAll items = .ok expressions → items[position]? = some item →
      ∃ expression, item.build = .ok expression ∧ expressions[position]? = some expression ∧
        ∀ {change : CompiledExpression → CompiledExpression}
          {changeBuilt : Expression → Expression},
          (change item).build = .ok (changeBuilt expression) →
            buildAll (items.modify position change) =
              .ok (expressions.modify position changeBuilt) := by
  induction items generalizing position with
  | nil => simp
  | cons first rest hypothesis =>
    intro expressions built found
    obtain ⟨expression, one, later⟩ := Chain.bind_eq_ok_iff.mp built
    obtain ⟨others, remaining, same⟩ := Chain.bind_eq_ok_iff.mp later
    obtain rfl : expression :: others = expressions := Except.ok.inj same
    cases position with
    | zero =>
      obtain rfl : first = item := Option.some.inj found
      refine ⟨expression, one, rfl, fun changed => ?_⟩
      rw [List.modify_zero_cons, List.modify_zero_cons, buildAll, changed, remaining]
      rfl
    | succ position =>
      obtain ⟨target, here, there, modified⟩ := hypothesis remaining found
      refine ⟨target, here, there, fun changed => ?_⟩
      rw [List.modify_succ_cons, List.modify_succ_cons, buildAll, one, modified changed]
      rfl

/-- What is built has a node where the compiled expression has one, and flipping the lowest bit of
the one negates the other. -/
theorem build_flipAt {path : List Expression.Step} : ∀ {compiled node : CompiledExpression}
    {expression : Expression}, compiled.build = .ok expression → compiled.node? path = some node →
      ∃ target, node.build = .ok target ∧ expression.node? path = some target ∧
        (compiled.flipAt path).build = .ok (expression.negateAt path) := by
  induction path with
  | nil =>
    intro compiled node expression built found
    obtain rfl : compiled = node := Option.some.inj found
    exact ⟨expression, built, rfl, build_flip built⟩
  | cons step rest hypothesis =>
    intro compiled node expression built found
    obtain ⟨negation, null, indices, constants, types, all, any, attached⟩ :=
      build_eq_ok_iff.mp built
    cases step with
    | conjunct position =>
      obtain ⟨conjunct, here, later⟩ := Option.bind_eq_some_iff.mp found
      obtain ⟨joined, builds, place, modified⟩ := exists_built_of_getElem? all here
      obtain ⟨target, nodeBuilt, there, flipped⟩ := hypothesis builds later
      refine ⟨target, nodeBuilt, Option.bind_eq_some_iff.mpr ⟨joined, place, there⟩, ?_⟩
      exact build_eq_ok_iff.mpr
        ⟨negation, null, indices, constants, types, modified flipped, any, attached⟩
    | disjunct position =>
      obtain ⟨disjunct, here, later⟩ := Option.bind_eq_some_iff.mp found
      obtain ⟨joined, builds, place, modified⟩ := exists_built_of_getElem? any here
      obtain ⟨target, nodeBuilt, there, flipped⟩ := hypothesis builds later
      refine ⟨target, nodeBuilt, Option.bind_eq_some_iff.mpr ⟨joined, place, there⟩, ?_⟩
      exact build_eq_ok_iff.mpr
        ⟨negation, null, indices, constants, types, all, modified flipped, attached⟩

mutual

/-- Where every node that is compiled speaks about a parameter, every node that is built does. -/
theorem indexed_of_build : ∀ (compiled : CompiledExpression) {expression : Expression},
    compiled.indexed = true → compiled.build = .ok expression → expression.Indexed
  | ⟨flags, index, constant, instanceType, conjuncts, disjuncts⟩, expression, indexed, built => by
    rw [CompiledExpression.indexed, Bool.and_eq_true, Bool.and_eq_true] at indexed
    obtain ⟨-, -, indices, -, -, all, any, -⟩ := build_eq_ok_iff.mp built
    have allIndexed := indexedAll_of_buildAll conjuncts indexed.1.2 all
    have anyIndexed := indexedAll_of_buildAll disjuncts indexed.2 any
    intro node member
    rw [Expression.nodes_eq, List.mem_cons, List.mem_append, List.mem_flatMap,
      List.mem_flatMap] at member
    rcases member with rfl | ⟨conjunct, among, inside⟩ | ⟨disjunct, among, inside⟩
    · have about := indexed.1.1
      rwa [show index = _ from indices, Option.isSome_map] at about
    · exact allIndexed conjunct among node inside
    · exact anyIndexed disjunct among node inside

/-- Where every node of what is compiled speaks about a parameter, every node of what is built
does. -/
theorem indexedAll_of_buildAll : ∀ (items : List CompiledExpression)
    {expressions : List Expression}, indexedAll items = true → buildAll items = .ok expressions →
      ∀ expression ∈ expressions, expression.Indexed
  | [], expressions, _, built => by
    obtain rfl : [] = expressions := Except.ok.inj built
    simp
  | first :: rest, expressions, indexed, built => by
    rw [indexedAll, Bool.and_eq_true] at indexed
    obtain ⟨expression, one, later⟩ := Chain.bind_eq_ok_iff.mp built
    obtain ⟨others, remaining, same⟩ := Chain.bind_eq_ok_iff.mp later
    obtain rfl : expression :: others = expressions := Except.ok.inj same
    exact List.forall_mem_cons.mpr ⟨indexed_of_build first indexed.1 one,
      indexedAll_of_buildAll rest indexed.2 remaining⟩

end

end CompiledExpression

/-- Which negations are shown. Flipping the lowest bit of one node of a compiled expression whose
nodes all speak about a parameter, negating one node of such an expression, or of one that is part
of a contract, changes the canonical text, and what is rendered for a function, if and only if the
node has a predicate. -/
theorem Expression.negation_shown_iff (path : List Step) :
    (∀ (compiled node : CompiledExpression) (expression : Expression),
        compiled.indexed = true → compiled.node? path = some node →
          compiled.build = .ok expression →
            ∃ flipped, (compiled.flipAt path).build = .ok flipped ∧
              (expression.canonical ≠ flipped.canonical ↔ node.hasPredicate = true)) ∧
      (∀ expression node : Expression, expression.Indexed → expression.node? path = some node →
        (expression.canonical ≠ (expression.negateAt path).canonical ↔
          node.hasPredicate = true)) ∧
      ∀ (contract : Contract) (position : Nat) (place : Place) (root node : Expression),
        contract.root? position place = some root → root.Indexed →
          root.node? path = some node →
            (contract.canonical ≠
                (contract.modifyRoot (negateAt path) position place).canonical ↔
              node.hasPredicate = true) ∧
            ∀ (function : Declaration) (text : String), contract.render function = .ok text →
              ∃ other,
                (contract.modifyRoot (negateAt path) position place).render function = .ok other ∧
                  (text ≠ other ↔ node.hasPredicate = true) := by
  refine ⟨fun compiled node expression indexed found built => ?_,
    fun expression node => canonical_negateAt_ne_iff,
    fun contract position place root node placed indexed found =>
      ⟨contract.text_negateAt_ne_iff placeholder placed indexed found,
        fun function text => contract.render_negateAt_ne_iff placed indexed found⟩⟩
  obtain ⟨target, nodeBuilt, place, flipped⟩ := CompiledExpression.build_flipAt built found
  refine ⟨_, flipped, ?_⟩
  rw [← CompiledExpression.hasPredicate_eq nodeBuilt]
  exact canonical_negateAt_ne_iff (CompiledExpression.indexed_of_build compiled indexed built) place

/-- A comparison of a parameter with null, joined to a test of another for a type. -/
def CompiledExpression.nullOrText : CompiledExpression where
  flags := 2
  index := some 1
  constant := none
  instanceType := none
  conjuncts := []
  disjuncts := [⟨0, some 2, none, some ⟨.classNamed "kotlin/String", false⟩, [], []⟩]

/-- Flipping the lowest bit of the test for a type changes the text. -/
theorem Expression.negation_shown_nullOrText :
    ∃ expression flipped, CompiledExpression.nullOrText.build = .ok expression ∧
      (CompiledExpression.nullOrText.flipAt [.disjunct 0]).build = .ok flipped ∧
      expression.canonical ≠ flipped.canonical := by
  have built : ∃ expression, CompiledExpression.nullOrText.build = .ok expression := ⟨_, rfl⟩
  obtain ⟨expression, built⟩ := built
  obtain ⟨flipped, flippedBuilt, differ⟩ :=
    (Expression.negation_shown_iff [.disjunct 0]).1 .nullOrText _ expression (by decide) rfl built
  exact ⟨expression, flipped, built, flippedBuilt, differ.mpr rfl⟩

/-- A parameter that is itself the proposition. -/
def CompiledExpression.parameterHolds : CompiledExpression where
  flags := 0
  index := some 1
  constant := none
  instanceType := none
  conjuncts := []
  disjuncts := []

/-- A parameter that is itself the proposition and its negation have one text. -/
theorem Expression.negation_lost_parameterHolds :
    CompiledExpression.parameterHolds.indexed = true ∧
      CompiledExpression.parameterHolds.negated = false ∧
      (CompiledExpression.parameterHolds.flipAt []).negated = true ∧
      CompiledExpression.parameterHolds.build.map Expression.canonical = .ok "($1)" ∧
      (CompiledExpression.parameterHolds.flipAt []).build.map Expression.canonical = .ok "($1)" :=
  ⟨rfl, rfl, rfl, rfl, rfl⟩

end KotlinContract
