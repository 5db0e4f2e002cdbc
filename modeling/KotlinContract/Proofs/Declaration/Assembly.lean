import KotlinContract.Proofs.Contract.NormalForm
import KotlinContract.Proofs.Contract.Targets

/-!
# Functions assembled call by call

A function is built from a draft to which calls have added one part after the other. No call leaves
an empty fragment in the body (`Draft.filled_assembled`), so building such a function again, with a
block of code in front of its body, keeps everything that it has (`build_withBlock`). Attaching a
contract to it therefore has exactly one of three outcomes (`attach_outcome`): the function would
have to be inline, or it lacks an index that the contract mentions, or it gets the text of the
contract as the first fragment of its body.
-/
namespace KotlinContract.Declaration

namespace Draft

/-- A call that adds a part to a draft, or sets one. -/
inductive Call where
  /-- Add modifiers. -/
  | addModifiers (modifiers : List Modifier)
  /-- Add parameters. -/
  | addParameters (parameters : List Parameter)
  /-- Set or remove the receiver. -/
  | setReceiver (receiver : Option TypeName)
  /-- Set or remove the result type. -/
  | setReturns (returns : Option TypeName)
  /-- Add a fragment to the body. -/
  | addCode (code : String)
  /-- Add a statement to the body. -/
  | addStatement (statement : String)

/-- The draft after a call. -/
def perform (draft : Draft) : Call → Draft
  | .addModifiers modifiers => draft.addModifiers modifiers
  | .addParameters parameters => draft.addParameters parameters
  | .setReceiver receiver => draft.setReceiver receiver
  | .setReturns returns => draft.setReturns returns
  | .addCode code => draft.addCode code
  | .addStatement statement => draft.addStatement statement

/-- The draft of a function after calls, one after the other. -/
def assembled (name : String) (calls : List Call) : Draft := calls.foldl perform { name }

/-- Every fragment of the body has something in it. -/
def Filled (draft : Draft) : Prop := ∀ code ∈ draft.body, code ≠ ""

/-- A fragment that is added leaves no empty one. -/
theorem Filled.addCode {draft : Draft} (filled : draft.Filled) (code : String) :
    (draft.addCode code).Filled := by
  rw [Draft.addCode]
  split
  · exact filled
  next visible => exact List.forall_mem_append.mpr ⟨filled, by simpa using visible⟩

/-- No call leaves an empty fragment. -/
theorem Filled.perform {draft : Draft} (filled : draft.Filled) (call : Call) :
    (draft.perform call).Filled := by
  cases call with
  | addModifiers => exact filled
  | addParameters => exact filled
  | setReceiver => exact filled
  | setReturns => exact filled
  | addCode code => exact filled.addCode code
  | addStatement statement => exact filled.addCode (statement ++ "\n")

/-- Calls, one after the other, leave no empty fragment. -/
theorem filled_assembled (name : String) (calls : List Call) : (assembled name calls).Filled := by
  have run (draft : Draft) (filled : draft.Filled) : (calls.foldl Draft.perform draft).Filled := by
    induction calls generalizing draft with
    | nil => exact filled
    | cons call rest hypothesis => exact hypothesis (draft.perform call) (filled.perform call)
  exact run { name } (by simp [Filled])

end Draft

variable {draft : Draft} {function : Declaration} {contract : Contract}

/-- The text of a contract has something in it. -/
theorem ne_empty_of_render {text : String} (rendered : contract.render function = .ok text) :
    text ≠ "" := by
  obtain ⟨entries, -, rfl⟩ := Contract.render_eq_ok_iff.mp rendered
  have opens : (Contract.block entries).toList.head? = some 'k' := by
    simp [Contract.block, Contract.opening]
  rintro empty
  rw [empty] at opens
  contradiction

/-- A function that was built from a draft without empty fragments keeps all that it has when it is
built again with a block of code in front of its body. -/
theorem build_withBlock (built : draft.build = .ok function) (filled : draft.Filled)
    {block : String} (visible : block ≠ "") :
    (function.withBlock block).build = .ok { function with body := block :: function.body } := by
  have body : function.body = draft.body :=
    congrArg Draft.body (Draft.build_eq_ok_iff.mp built).2
  have kept : (block :: function.body).filter (· ≠ "") = block :: function.body := by
    rw [List.filter_eq_self, List.forall_mem_cons, body]
    exact ⟨by simpa using visible, fun code among => by simpa using filled code among⟩
  refine Draft.build_eq_ok_iff.mpr ⟨?_, ?_⟩
  · rw [parameters_withBlock]
    exact Draft.nodup_of_build built
  · rw [withBlock_eq, kept]
    simp only [toDraft, Draft.arranged_of_build built]

/-- Where an index that a contract mentions is lacking, there is a least one. -/
theorem exists_leastMissing {index : Nat} (mentioned : contract.Mentions index)
    (beyond : function.parameters.length < index) :
    ∃ least, function.LeastMissing contract least := by
  obtain ⟨first, missing⟩ :=
    exists_firstMissing (Contract.mem_indices_iff_mentions.mpr mentioned) beyond
  exact ⟨first, firstMissing_indices_iff.mp missing⟩

/-- A contract that asks for an inline function is refused by any other, whatever it mentions. -/
theorem attach_of_not_inline (called : contract.hasCall = true)
    (ordinary : function.isInline = false) : function.attach contract = .error .notInline := by
  rw [attach, if_pos (by rw [called, ordinary]; rfl)]
  rfl

/-- The outcome of attaching a contract to a function that was assembled. If the contract calls a
parameter and the function is not inline, that is why it is refused, whatever the contract mentions.
Otherwise, if the contract mentions an index beyond the parameters of the function, the least such
index is named. Otherwise the function is given the text of the contract as the first fragment of
its body and keeps all else. The indices looked at are those that the contract mentions at any node,
in ascending order. -/
theorem attach_outcome (name : String) (calls : List Draft.Call) (function : Declaration)
    (contract : Contract) (built : (Draft.assembled name calls).build = .ok function) :
    (contract.hasCall = true ∧ function.isInline = false →
      function.attach contract = .error .notInline) ∧
    ((contract.hasCall = true → function.isInline = true) →
      ((∃ index, contract.Mentions index ∧ function.parameters.length < index) →
        ∃ least, function.LeastMissing contract least ∧
          function.attach contract =
            .error (.parameterMissing least function.name function.parameters.length)) ∧
      ((∀ index, contract.Mentions index → index ≤ function.parameters.length) →
        ∃ text, contract.render function = .ok text ∧
          function.attach contract = .ok { function with body := text :: function.body })) ∧
    contract.indices.Pairwise (· < ·) ∧
    ∀ index, index ∈ contract.indices ↔ contract.Mentions index := by
  refine ⟨fun ⟨called, ordinary⟩ => attach_of_not_inline called ordinary,
    fun inline => ⟨?_, fun declared => ?_⟩, contract.pairwise_indices,
    fun index => Contract.mem_indices_iff_mentions⟩
  · rintro ⟨index, mentioned, beyond⟩
    obtain ⟨least, missing⟩ := exists_leastMissing mentioned beyond
    exact ⟨least, missing, attach_of_leastMissing inline missing⟩
  · have listed : ∀ index ∈ contract.indices, index ≤ function.parameters.length :=
      fun index member => declared index (Contract.mem_indices_iff_mentions.mp member)
    obtain ⟨text, rendered⟩ := exists_render listed
    refine ⟨text, rendered, attach_eq_ok_iff.mpr ⟨inline, listed, text, rendered, ?_⟩⟩
    exact build_withBlock built (Draft.filled_assembled name calls) (ne_empty_of_render rendered)

/-- A function with one parameter, assembled call by call. A contract about that parameter and the
receiver is attached; one about the second and the third parameter is refused for the second; and
one that calls a parameter is refused because the function is not inline. -/
theorem attach_outcome_oneParameter :
    let calls : List Draft.Call :=
      [.addStatement "return x", .addParameters oneParameter.parameters, .addCode ""]
    (Draft.assembled "f" calls).build = .ok oneParameter ∧
      (∃ text, Contract.argumentGiven.render oneParameter = .ok text ∧
        oneParameter.attach .argumentGiven =
          .ok { oneParameter with body := text :: oneParameter.body }) ∧
      oneParameter.attach (.bothGiven 3 2) = .error (.parameterMissing 2 "f" 1) ∧
      oneParameter.attach (.receiverTested .isNull true) = .error .notInline := by
  intro calls
  have built : (Draft.assembled "f" calls).build = .ok oneParameter := rfl
  have declared : ∀ index ∈ Contract.argumentGiven.indices, index ≤ 1 := by decide
  have mentioned : ∀ index, (Contract.bothGiven 3 2).Mentions index ↔ index ∈ [2, 3] :=
    fun index => Contract.mem_indices_iff_mentions.symm
  obtain ⟨-, given, -⟩ := attach_outcome "f" calls _ .argumentGiven built
  obtain ⟨-, lacking, -⟩ := attach_outcome "f" calls _ (.bothGiven 3 2) built
  obtain ⟨ordinary, -⟩ := attach_outcome "f" calls _ (.receiverTested .isNull true) built
  refine ⟨built, (given (by decide)).2 fun index member => ?_, ?_, ordinary (by decide)⟩
  · exact declared index (Contract.mem_indices_iff_mentions.mpr member)
  · obtain ⟨least, missing, refused⟩ :=
      (lacking (by decide)).1 ⟨3, (mentioned 3).mpr (by decide), by decide⟩
    have among := (mentioned least).mp missing.mentioned
    have least_le : least ≤ 2 := missing.least 2 ((mentioned 2).mpr (by decide)) (by decide)
    obtain rfl : least = 2 := by
      simp only [List.mem_cons, List.not_mem_nil, or_false] at among
      omega
    exact refused

end KotlinContract.Declaration
