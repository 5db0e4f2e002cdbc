import KotlinContract.Proofs.Rendering.Emission

/-!
# Rendering what was accepted

Rendering is dependable: without a function the canonical text is always emitted, and for a
function nothing but a parameter that the function does not have can be refused. Attaching looks at
the indices of all nodes, so once a contract is attached every part of it can be rendered; and the
function that is built anew has the parameters of the old one, so their names still differ
(`Contract.dependable`).
-/
namespace KotlinContract

/-- What can be relied on in a rendering of which these indices are part. -/
structure Dependable (emit : Option Declaration → Except Breakdown String) (canonical : String)
    (render : Declaration → Except Error String) (indices : List Nat) : Prop where
  /-- Without a function the canonical text is emitted. -/
  unbound : emit none = .ok canonical
  /-- For a function the rendered text is emitted; nothing but a refusal stops that. -/
  bound (function : Declaration) : emit (some function) = (render function).mapError .refused
  /-- A refusal names one of the indices, which the function does not have. -/
  refusal {function : Declaration} {error : Error} (refused : render function = .error error) :
    ∃ index ∈ indices, function.parameters.length < index ∧ error = function.missing index

/-- Text that is emitted for granted indices is dependable. -/
theorem Dependable.of_granted {emit : Option Declaration → Except Breakdown String}
    (text : (Nat → String) → String) {rendered indices : List Nat}
    (emitted : ∀ function, emit function = granted function rendered (text (tokenOf function)))
    (among : ∀ index ∈ rendered, index ∈ indices) :
    Dependable emit (text placeholder)
      (fun function => function.requireParameters rendered >>= fun _ => pure (text function.token))
      indices where
  unbound := emitted none
  bound function := by
    rw [emitted, granted]
    cases function.requireParameters rendered <;> rfl
  refusal {function error} refused := by
    cases checked : function.requireParameters rendered with
    | error reason =>
      rw [checked] at refused
      cases refused
      obtain ⟨index, member, beyond, named⟩ :=
        Declaration.exists_of_requireParameters_eq_error checked
      exact ⟨index, among index member, beyond, named⟩
    | ok _ =>
      rw [checked] at refused
      contradiction

/-- An index is among those of a contract if it is among those of an expression of an effect. -/
theorem Contract.mem_indices {contract : Contract} {index : Nat} :
    index ∈ contract.indices ↔
      ∃ effect ∈ contract.effects, ∃ root ∈ effect.clause.roots, index ∈ root.indices := by
  simp only [indices, Ascending.mem_ofList, List.mem_flatMap, Effect.indices]

/-- An index in the text of an effect is the index of a node of the effect. -/
theorem Effect.mem_indices_of_mem_rendered {effect : Effect} {index : Nat}
    (member : index ∈ effect.rendered) : ∃ root ∈ effect.clause.roots, index ∈ root.indices := by
  obtain ⟨node, within, found⟩ := Expression.exists_node_of_mem_renderedAll member
  rw [Expression.nodesAll_eq_flatMap, List.mem_flatMap] at within
  obtain ⟨root, among, inside⟩ := within
  exact ⟨root, among, Expression.mem_indices.mpr ⟨node, inside, found⟩⟩

/-- An index in the text of a contract is the index of a node of it. -/
theorem Contract.mem_indices_of_mem_rendered {contract : Contract} {index : Nat}
    (member : index ∈ contract.rendered) : index ∈ contract.indices := by
  obtain ⟨effect, among, inside⟩ := List.mem_flatMap.mp member
  obtain ⟨root, within, found⟩ := Effect.mem_indices_of_mem_rendered inside
  exact mem_indices.mpr ⟨effect, among, root, within, found⟩

/-- Where the text of a contract is refused, an index in it is. -/
theorem Contract.requireParameters_of_render_eq_error {contract : Contract} {function : Declaration}
    {error : Error} (refused : contract.render function = .error error) :
    function.requireParameters contract.rendered = .error error := by
  rcases Chain.bind_eq_error_iff.mp refused with first | ⟨_, _, last⟩
  · exact first
  · contradiction

/-- An effect is rendered if the function has all parameters in its text. -/
theorem Effect.render_eq_ok_iff {effect : Effect} {function : Declaration} {text : String} :
    effect.render function = .ok text ↔
      (∀ index ∈ effect.rendered, index ≤ function.parameters.length) ∧
        effect.text function.token = text := by
  rw [render, Chain.bind_eq_ok_iff]
  simp only [← Declaration.requireParameters_eq_ok]
  exact ⟨fun ⟨_, granted, same⟩ => ⟨granted, Except.ok.inj same⟩,
    fun ⟨granted, same⟩ => ⟨(), granted, congrArg Except.ok same⟩⟩

/-- A contract is rendered if all its effects are, as the block around their texts. -/
theorem Contract.render_eq_ok_iff {contract : Contract} {function : Declaration} {text : String} :
    contract.render function = .ok text ↔
      ∃ entries, contract.effects.mapM (·.render function) = .ok entries ∧
        block entries = text := by
  have granted : function.requireParameters contract.rendered = .ok () ↔
      ∀ effect ∈ contract.effects, ∀ index ∈ effect.rendered,
        index ≤ function.parameters.length := by
    simp only [Declaration.requireParameters_eq_ok, rendered, List.mem_flatMap]
    exact ⟨fun all effect among index member => all index ⟨effect, among, member⟩,
      fun all index ⟨effect, among, member⟩ => all effect among index member⟩
  rw [render, Chain.bind_eq_ok_iff]
  constructor
  · rintro ⟨_, passed, same⟩
    have whole : contract.text function.token = text := Except.ok.inj same
    refine ⟨contract.effects.map (·.text function.token), ?_, by rw [← whole, Contract.text]⟩
    rw [Chain.mapM_eq_ok_iff_forall₂, List.forall₂_map_right_iff, List.forall₂_same]
    exact fun effect among => Effect.render_eq_ok_iff.mpr ⟨granted.mp passed effect among, rfl⟩
  · rintro ⟨entries, rendered, same⟩
    rw [Chain.mapM_eq_ok_iff_forall₂] at rendered
    simp only [Effect.render_eq_ok_iff] at rendered
    obtain ⟨passed, texts⟩ := (List.forall₂_and_left _ _).mp rendered
    rw [← List.forall₂_map_left_iff, List.forall₂_eq_eq_eq] at texts
    have whole : contract.text function.token = text := by rw [← same, ← texts, Contract.text]
    exact ⟨(), granted.mpr passed, congrArg Except.ok whole⟩

namespace Declaration

variable {function : Declaration} {contract : Contract}

/-- Fragments of code, one after the other, come after the body unless they are empty, and nothing
else changes. -/
theorem Draft.foldl_addCode (draft : Draft) (body : List String) :
    body.foldl addCode draft = { draft with body := draft.body ++ body.filter (· ≠ "") } := by
  induction body generalizing draft with
  | nil => simp
  | cons code rest hypothesis =>
    rw [List.foldl_cons, hypothesis, addCode]
    by_cases empty : code = ""
    · simp [empty]
    · simp [empty]

/-- A draft with the parameters of a function that was built is not refused. -/
theorem Draft.build_ne_error {draft original : Draft} (built : original.build = .ok function)
    (same : draft.parameters = function.parameters) {error : Error} :
    draft.build ≠ .error error := by
  have distinct := nodup_of_build built
  rw [← same] at distinct
  rw [build, duplicateNames_eq_nil_iff.mpr distinct]
  exact fun refused => by cases refused

/-- The draft of the function with a block of code in front of its body. -/
def withBlock (function : Declaration) (block : String) : Draft :=
  let draft : Draft := { name := function.name }
  let draft := (draft.addParameters function.parameters).addModifiers function.modifiers
  let draft := (draft.setReceiver function.receiver).setReturns function.returns
  function.body.foldl Draft.addCode (draft.addCode block)

/-- The draft has all that the function has, and the block is the first fragment of its body unless
it is empty. -/
theorem withBlock_eq (function : Declaration) (block : String) :
    function.withBlock block =
      { function.toDraft with body := (block :: function.body).filter (· ≠ "") } := by
  rw [withBlock, ← List.foldl_cons, Draft.foldl_addCode]
  rfl

/-- A contract is attached if the function is inline should a parameter be called, if the function
has all parameters that any node speaks about, and if the function can be built with the text of the
contract in front of its body. -/
theorem attach_eq_ok_iff {attached : Declaration} :
    function.attach contract = .ok attached ↔
      (contract.hasCall = true → function.isInline = true) ∧
        (∀ index ∈ contract.indices, index ≤ function.parameters.length) ∧
        ∃ block, contract.render function = .ok block ∧
          (function.withBlock block).build = .ok attached := by
  rw [attach]
  split
  · rename_i refused
    rw [Bool.and_eq_true, Bool.not_eq_true'] at refused
    obtain ⟨called, ordinary⟩ := refused
    constructor
    · intro accepted
      contradiction
    · rintro ⟨inline, -⟩
      rw [inline called] at ordinary
      contradiction
  · rename_i passed
    have inline : contract.hasCall = true → function.isInline = true := by simpa using passed
    simp only [Chain.bind_eq_ok_iff]
    constructor
    · rintro ⟨_, granted, built⟩
      exact ⟨inline, requireParameters_eq_ok.mp granted, built⟩
    · rintro ⟨-, granted, built⟩
      exact ⟨(), requireParameters_eq_ok.mpr granted, built⟩

/-- Attaching to a function that was built is refused if the function would have to be inline, or
at an index of the contract that the function does not have. -/
theorem attach_eq_error {original : Draft} (built : original.build = .ok function) {error : Error}
    (refused : function.attach contract = .error error) :
    error = .notInline ∨ ∃ index ∈ contract.indices, function.parameters.length < index ∧
      error = function.missing index := by
  rw [attach] at refused
  split at refused
  · cases refused
    exact .inl rfl
  · right
    rcases Chain.bind_eq_error_iff.mp refused with first | ⟨_, allowed, later⟩
    · exact exists_of_requireParameters_eq_error first
    rcases Chain.bind_eq_error_iff.mp later with second | ⟨block, rendered, last⟩
    · obtain ⟨index, member, beyond, named⟩ := exists_of_requireParameters_eq_error
        (Contract.requireParameters_of_render_eq_error second)
      exact ⟨index, Contract.mem_indices_of_mem_rendered member, beyond, named⟩
    -- the parameters are those of the function, so their names differ
    · refine absurd last (Draft.build_ne_error built ?_)
      rw [← List.foldl_cons, Draft.foldl_addCode]
      rfl

end Declaration

/-- The text of an expression is dependable, for the indices of whatever it is a node of. -/
theorem Expression.emitWhole_dependable {expression : Expression} {indices : List Nat}
    (among : ∀ index ∈ expression.indices, index ∈ indices) :
    Dependable (ExpressionParts.emitWhole · expression.parts) expression.canonical
      expression.render indices :=
  .of_granted (Expression.text · expression) (expression.emitWhole_parts ·) fun index member =>
    among index (mem_indices_of_mem_rendered member)

/-- Where a rendering is dependable and a function has all the indices, the text is rendered. -/
theorem Dependable.exists_render_eq_ok {emit : Option Declaration → Except Breakdown String}
    {canonical : String} {render : Declaration → Except Error String} {indices : List Nat}
    (dependable : Dependable emit canonical render indices) {function : Declaration}
    (declared : ∀ index ∈ indices, index ≤ function.parameters.length) :
    ∃ text, render function = .ok text := by
  cases rendered : render function with
  | ok text => exact ⟨text, rfl⟩
  | error error =>
    obtain ⟨index, member, beyond, -⟩ := dependable.refusal rendered
    exact absurd (declared index member) (Nat.not_le.mpr beyond)

/-- Rendering never fails once a contract is accepted, however it was made. The parts of a contract
are exactly those that it is assembled from, and from them, from those of each effect and from
those of each node of an expression the canonical text is emitted. For a function nothing stops
this but an index of the contract that the function does not have. Attaching to a function that was
built never finds two parameters of one name, and once it succeeds, the contract, its effects and
all nodes are rendered for the function. -/
theorem Contract.dependable (contract : Contract) :
    (∀ parts : ContractParts, parts.assemble = .ok contract ↔ parts = contract.parts) ∧
      Dependable (ContractParts.emit · contract.parts) contract.canonical contract.render
        contract.indices ∧
      (∀ effect ∈ contract.effects,
        Dependable (EffectParts.emit · effect.parts) effect.canonical effect.render
          contract.indices ∧
        ∀ root ∈ effect.clause.roots, ∀ node ∈ root.nodes,
          Dependable (ExpressionParts.emitWhole · node.parts) node.canonical node.render
            contract.indices) ∧
      ∀ (draft : Declaration.Draft) (function : Declaration), draft.build = .ok function →
        (∀ names, function.attach contract ≠ .error (.duplicateParameters names)) ∧
        ∀ attached, function.attach contract = .ok attached →
          (∃ text, contract.render function = .ok text) ∧
          ∀ effect ∈ contract.effects, (∃ text, effect.render function = .ok text) ∧
            ∀ root ∈ effect.clause.roots, ∀ node ∈ root.nodes,
              ∃ text, node.render function = .ok text := by
  have whole : Dependable (ContractParts.emit · contract.parts) contract.canonical contract.render
      contract.indices :=
    .of_granted (Contract.text · contract) (contract.emit_parts ·) fun _ =>
      mem_indices_of_mem_rendered
  have effects : ∀ effect ∈ contract.effects,
      Dependable (EffectParts.emit · effect.parts) effect.canonical effect.render
        contract.indices := by
    intro effect among
    refine Dependable.of_granted (Effect.text · effect) (effect.emit_parts ·) fun index member => ?_
    obtain ⟨root, within, found⟩ := Effect.mem_indices_of_mem_rendered member
    exact mem_indices.mpr ⟨effect, among, root, within, found⟩
  have nodes : ∀ effect ∈ contract.effects, ∀ root ∈ effect.clause.roots, ∀ node ∈ root.nodes,
      Dependable (ExpressionParts.emitWhole · node.parts) node.canonical node.render
        contract.indices := by
    intro effect among root within node inside
    refine Expression.emitWhole_dependable fun index member => ?_
    exact mem_indices.mpr
      ⟨effect, among, root, within, Expression.mem_indices_of_node inside member⟩
  refine ⟨fun parts => ContractParts.assemble_eq_ok_iff, whole,
    fun effect among => ⟨effects effect among, nodes effect among⟩,
    fun draft function built => ⟨fun names refused => ?_, fun attached accepted => ?_⟩⟩
  · rcases Declaration.attach_eq_error built refused with same | ⟨index, -, -, same⟩
    · contradiction
    · contradiction
  · obtain ⟨-, declared, -⟩ := Declaration.attach_eq_ok_iff.mp accepted
    exact ⟨whole.exists_render_eq_ok declared, fun effect among =>
      ⟨(effects effect among).exists_render_eq_ok declared, fun root within node inside =>
        (nodes effect among root within node inside).exists_render_eq_ok declared⟩⟩

/-- A function with one parameter. -/
def Declaration.oneParameter : Declaration where
  name := "f"
  parameters := [⟨"x", .any, [], by decide⟩]
  modifiers := []
  receiver := none
  returns := none
  body := ["return x\n"]

/-- The contract that returning implies that the argument is not null, or else the receiver. -/
def Contract.argumentGiven : Contract where
  effects :=
    [{ clause := .returns none
        { proposition := .about 1 .isNull
          negated := true
          conjuncts := []
          disjuncts := [⟨.about 0 .isNull, true, [], [], .empty⟩]
          tags := .empty }
       tags := .empty }]
  tags := .empty
  nonempty := by simp

/-- The function was built and the contract is attached to it, so every part of it is rendered. -/
theorem Contract.dependable_argumentGiven :
    Declaration.oneParameter.toDraft.build = .ok .oneParameter ∧
      (∃ attached, Declaration.oneParameter.attach argumentGiven = .ok attached) ∧
      (∃ text, argumentGiven.render .oneParameter = .ok text) ∧
      ∀ effect ∈ argumentGiven.effects, ∃ text, effect.render .oneParameter = .ok text := by
  have built : Declaration.oneParameter.toDraft.build = .ok .oneParameter := rfl
  have accepted : ∃ attached, Declaration.oneParameter.attach argumentGiven = .ok attached :=
    ⟨_, rfl⟩
  refine ⟨built, accepted, ?_⟩
  obtain ⟨attached, accepted⟩ := accepted
  obtain ⟨-, -, -, functions⟩ := Contract.dependable argumentGiven
  obtain ⟨whole, effects⟩ := (functions _ _ built).2 attached accepted
  exact ⟨whole, fun effect among => (effects effect among).1⟩

end KotlinContract
