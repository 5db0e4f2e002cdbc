import KotlinContract.Proofs.Ascending
import KotlinContract.Proofs.Rendering.Acceptance

/-!
# The targets of a contract

A contract speaks about the parameters of a function by their indices, with zero for the receiver.
Attaching looks at the indices of all nodes: it makes sure that the function has every value
parameter among them and else refuses the least one that it lacks, but it does not ask for a receiver
(`Declaration.declares_of_attach`). Rendering looks at the indices in the text and refuses the first
one that the function lacks, so both refuse the same contracts as long as no missing index stands
only in what is not written (`Contract.refusals_agree`).
-/
namespace KotlinContract

namespace Contract

/-- A node of an expression of the contract speaks about an index. -/
def Mentions (contract : Contract) (index : Nat) : Prop :=
  ∃ effect ∈ contract.effects, ∃ root ∈ effect.clause.roots, ∃ node ∈ root.nodes,
    node.index? = some index

/-- The indices of a contract are those that it mentions. -/
theorem mem_indices_iff_mentions {contract : Contract} {index : Nat} :
    index ∈ contract.indices ↔ contract.Mentions index := by
  simp only [mem_indices, Expression.mem_indices, Mentions]

/-- The indices of a contract are listed in ascending order, each once. -/
theorem pairwise_indices (contract : Contract) : contract.indices.Pairwise (· < ·) :=
  Ascending.pairwise_ofList _

end Contract

namespace Declaration

variable {function : Declaration} {contract : Contract}

/-- The function has what an index stands for: a value parameter, counted from one, or for zero a
receiver. -/
def Declares (function : Declaration) (index : Nat) : Prop :=
  1 ≤ index ∧ index ≤ function.parameters.length ∨
    index = 0 ∧ function.receiver.isSome = true

instance (index : Nat) : Decidable (function.Declares index) := inferInstanceAs (Decidable (_ ∨ _))

/-- The function lacks an index and has all that are listed before it. -/
structure FirstMissing (function : Declaration) (indices : List Nat) (index : Nat) : Prop where
  /-- There are fewer value parameters. -/
  beyond : function.parameters.length < index
  /-- There are enough of them for what is listed before. -/
  first : ∃ front back, indices = front ++ index :: back ∧
    ∀ earlier ∈ front, earlier ≤ function.parameters.length

/-- The function lacks an index that the contract mentions, and none that is less. -/
structure LeastMissing (function : Declaration) (contract : Contract) (index : Nat) : Prop where
  /-- There are fewer value parameters. -/
  beyond : function.parameters.length < index
  /-- A node speaks about it. -/
  mentioned : contract.Mentions index
  /-- Every other index that is lacking is greater. -/
  least : ∀ other, contract.Mentions other → function.parameters.length < other → index ≤ other

/-- Indices are refused for the first one that the function lacks. -/
theorem requireParameters_eq_error_iff {indices : List Nat} {error : Error} :
    function.requireParameters indices = .error error ↔
      ∃ index, function.FirstMissing indices index ∧ error = function.missing index := by
  rw [requireParameters]
  constructor
  · intro refused
    split at refused
    next index found =>
      obtain ⟨beyond, front, back, split, before⟩ := List.find?_eq_some_iff_append.mp found
      cases refused
      exact ⟨index, ⟨by simpa using beyond, front, back, split, by simpa using before⟩, rfl⟩
    next => contradiction
  · rintro ⟨index, ⟨beyond, front, back, split, before⟩, rfl⟩
    have found : indices.find? (function.parameters.length < ·) = some index :=
      List.find?_eq_some_iff_append.mpr
        ⟨by simpa using beyond, front, back, split, by simpa using before⟩
    rw [found]

/-- The index that is lacking is listed. -/
theorem FirstMissing.mem {indices : List Nat} {index : Nat}
    (missing : function.FirstMissing indices index) : index ∈ indices := by
  obtain ⟨front, back, split, -⟩ := missing.first
  rw [split]
  exact List.mem_append_right _ List.mem_cons_self

/-- Where a listed index is lacking, one is the first. -/
theorem exists_firstMissing {indices : List Nat} {index : Nat} (member : index ∈ indices)
    (beyond : function.parameters.length < index) :
    ∃ first, function.FirstMissing indices first := by
  cases checked : function.requireParameters indices with
  | ok _ =>
    exact absurd (requireParameters_eq_ok.mp checked index member) (Nat.not_le.mpr beyond)
  | error reason =>
    obtain ⟨first, missing, -⟩ := requireParameters_eq_error_iff.mp checked
    exact ⟨first, missing⟩

/-- The first index that is lacking in the ascending list is the least one. -/
theorem firstMissing_indices_iff {index : Nat} :
    function.FirstMissing contract.indices index ↔ function.LeastMissing contract index := by
  have ascending := contract.pairwise_indices
  constructor
  · intro missing
    refine ⟨missing.beyond, Contract.mem_indices_iff_mentions.mp missing.mem,
      fun other mentioned lacking => ?_⟩
    obtain ⟨front, back, split, before⟩ := missing.first
    rw [split, List.pairwise_append, List.pairwise_cons] at ascending
    rw [← Contract.mem_indices_iff_mentions, split, List.mem_append, List.mem_cons] at mentioned
    rcases mentioned with earlier | rfl | later
    · exact absurd (before other earlier) (Nat.not_le.mpr lacking)
    · exact Nat.le_refl _
    · exact Nat.le_of_lt (ascending.2.1.1 other later)
  · rintro ⟨beyond, mentioned, least⟩
    obtain ⟨front, back, split⟩ :=
      List.append_of_mem (Contract.mem_indices_iff_mentions.mpr mentioned)
    rw [split, List.pairwise_append] at ascending
    refine ⟨beyond, front, back, split, fun earlier member => Nat.le_of_not_lt fun lacking => ?_⟩
    have less : earlier < index := ascending.2.2 earlier member index List.mem_cons_self
    have listed : earlier ∈ contract.indices := by
      rw [split]
      exact List.mem_append_left _ member
    exact Nat.not_le.mpr less
      (least earlier (Contract.mem_indices_iff_mentions.mp listed) lacking)

/-- A function with all value parameters that a contract mentions is given the text of the contract
with its tokens. -/
theorem render_eq_text
    (declared : ∀ index ∈ contract.indices, index ≤ function.parameters.length) :
    contract.render function = .ok (contract.text function.token) := by
  have granted : function.requireParameters contract.rendered = .ok () :=
    requireParameters_eq_ok.mpr fun index member =>
      declared index (Contract.mem_indices_of_mem_rendered member)
  rw [Contract.render, granted]
  rfl

/-- A contract is rendered if the function has all value parameters that are mentioned. -/
theorem exists_render (declared : ∀ index ∈ contract.indices, index ≤ function.parameters.length) :
    ∃ text, contract.render function = .ok text :=
  ⟨_, render_eq_text declared⟩

/-- A contract is refused by rendering for the first index in its text that the function lacks. -/
theorem render_eq_error_iff {error : Error} :
    contract.render function = .error error ↔
      ∃ first, function.FirstMissing contract.rendered first ∧ error = function.missing first := by
  rw [← requireParameters_eq_error_iff]
  constructor
  · exact Contract.requireParameters_of_render_eq_error
  · intro refused
    rw [Contract.render, refused]
    rfl

/-- A block of code in front of the body leaves the parameters alone. -/
theorem parameters_withBlock (function : Declaration) (block : String) :
    (function.withBlock block).parameters = function.parameters := by
  rw [withBlock_eq]
  rfl

/-- A function with parameters of different names can be built with a block of code in front of its
body. -/
theorem exists_build_withBlock (distinct : (function.parameters.map Parameter.name).Nodup)
    (block : String) : ∃ attached, (function.withBlock block).build = .ok attached := by
  rw [← parameters_withBlock function block, ← Draft.duplicateNames_eq_nil_iff] at distinct
  rw [Draft.build, distinct]
  exact ⟨_, rfl⟩

/-- A contract can be attached if the function is inline should a parameter be called, if it has all
value parameters that are mentioned, and if the names of its parameters differ. -/
theorem exists_attach_iff :
    (∃ attached, function.attach contract = .ok attached) ↔
      (contract.hasCall = true → function.isInline = true) ∧
        (∀ index ∈ contract.indices, index ≤ function.parameters.length) ∧
        (function.parameters.map Parameter.name).Nodup := by
  simp only [attach_eq_ok_iff]
  constructor
  · rintro ⟨attached, inline, declared, block, -, built⟩
    refine ⟨inline, declared, ?_⟩
    rw [← parameters_withBlock function block]
    exact (Draft.build_eq_ok_iff.mp built).1
  · rintro ⟨inline, declared, distinct⟩
    obtain ⟨block, rendered⟩ := exists_render declared
    obtain ⟨attached, built⟩ := exists_build_withBlock distinct block
    exact ⟨attached, inline, declared, block, rendered, built⟩

/-- An inline function is refused by attaching for the least index that it lacks. -/
theorem attach_of_leastMissing (inline : contract.hasCall = true → function.isInline = true)
    {least : Nat} (missing : function.LeastMissing contract least) :
    function.attach contract = .error (function.missing least) := by
  have passed : ¬ (contract.hasCall && !function.isInline) = true := by simpa using inline
  have refused : function.requireParameters contract.indices = .error (function.missing least) :=
    requireParameters_eq_error_iff.mpr ⟨least, firstMissing_indices_iff.mpr missing, rfl⟩
  rw [attach, if_neg passed, refused]
  rfl

/-- Nothing else is refused by attaching if the function is inline and the names of its parameters
differ. -/
theorem attach_eq_error_iff (inline : contract.hasCall = true → function.isInline = true)
    (distinct : (function.parameters.map Parameter.name).Nodup) {error : Error} :
    function.attach contract = .error error ↔
      ∃ least, function.LeastMissing contract least ∧ error = function.missing least := by
  constructor
  · intro refused
    cases checked : function.requireParameters contract.indices with
    | ok _ =>
      obtain ⟨attached, accepted⟩ :=
        exists_attach_iff.mpr ⟨inline, requireParameters_eq_ok.mp checked, distinct⟩
      rw [accepted] at refused
      contradiction
    | error reason =>
      obtain ⟨least, missing, -⟩ := requireParameters_eq_error_iff.mp checked
      rw [firstMissing_indices_iff] at missing
      rw [attach_of_leastMissing inline missing] at refused
      exact ⟨least, missing, (Except.error.inj refused).symm⟩
  · rintro ⟨least, missing, rfl⟩
    exact attach_of_leastMissing inline missing

/-- What attaching makes sure of. Each index that an attached contract mentions is zero or that of a
value parameter of the function. All of them are declared, zero included, if and only if the function
has a receiver where the contract mentions it; and nothing asks for one, since the contract is
attached to the function with any other receiver, or with none, as well. -/
theorem declares_of_attach {attached : Declaration}
    (accepted : function.attach contract = .ok attached) :
    (∀ index, contract.Mentions index → index ≠ 0 → function.Declares index) ∧
      ((∀ index, contract.Mentions index → function.Declares index) ↔
        (contract.Mentions 0 → function.receiver.isSome = true)) ∧
      ∀ receiver, ∃ other, { function with receiver }.attach contract = .ok other := by
  have conditions := exists_attach_iff.mp ⟨attached, accepted⟩
  have values : ∀ index, contract.Mentions index → index ≠ 0 → function.Declares index := by
    intro index mentioned nonzero
    exact .inl ⟨Nat.one_le_iff_ne_zero.mpr nonzero,
      conditions.2.1 index (Contract.mem_indices_iff_mentions.mpr mentioned)⟩
  refine ⟨values, ⟨fun all mentioned => ?_, fun given index mentioned => ?_⟩, fun receiver => ?_⟩
  · rcases all 0 mentioned with ⟨positive, -⟩ | ⟨-, received⟩
    · contradiction
    · exact received
  · by_cases zero : index = 0
    · subst zero
      exact .inr ⟨rfl, given mentioned⟩
    · exact values index mentioned zero
  · exact exists_attach_iff.mpr conditions

/-- The contract about the first parameter and the receiver is attached to an extension function that
has both. -/
theorem declares_of_attach_argumentGiven :
    (∃ attached, { oneParameter with receiver := some .any }.attach .argumentGiven = .ok attached) ∧
      ∀ index, Contract.argumentGiven.Mentions index →
        { oneParameter with receiver := some .any }.Declares index := by
  have accepted : ∃ attached,
      { oneParameter with receiver := some .any }.attach .argumentGiven = .ok attached := ⟨_, rfl⟩
  refine ⟨accepted, ?_⟩
  obtain ⟨attached, accepted⟩ := accepted
  exact (declares_of_attach accepted).2.1.mpr fun _ => rfl

/-- The same contract is attached to a function without a receiver. -/
theorem declares_not_of_attach :
    (∃ attached, oneParameter.attach .argumentGiven = .ok attached ∧
      attached.source =
        "fun f(x: kotlin.Any) \x7b\n  kotlin.contracts.contract \x7b\n" ++
          "    returns() implies (x != null || (this@f != null))\n  \x7d\n  return x\n\x7d\n") ∧
      Contract.argumentGiven.Mentions 0 ∧ ¬ oneParameter.Declares 0 := by
  refine ⟨⟨_, rfl, by decide +kernel⟩, ?_, by decide⟩
  rw [← Contract.mem_indices_iff_mentions]
  decide

/-- A function with two parameters of one name. -/
def twoOfOneName : Declaration :=
  { oneParameter with parameters := oneParameter.parameters ++ oneParameter.parameters }

end Declaration

namespace Contract

/-- A written index is mentioned. -/
theorem mentions_of_mem_rendered {contract : Contract} {index : Nat}
    (written : index ∈ contract.rendered) : contract.Mentions index :=
  mem_indices_iff_mentions.mp (mem_indices_of_mem_rendered written)

/-- Rendering and attaching refuse the same contracts. The function is inline should a parameter be
called, the names of its parameters differ, and each index that it lacks stands in the text of the
contract. Then rendering the contract is refused if and only if attaching it is; rendering names the
first index in the text that the function lacks, attaching the least one that is mentioned, and both
name the function and the number of its parameters. So the refusals are the same if and only if the
first such index in the text is also the least. -/
theorem refusals_agree (contract : Contract) (function : Declaration)
    (inline : contract.hasCall = true → function.isInline = true)
    (distinct : (function.parameters.map Parameter.name).Nodup)
    (shown : ∀ index, contract.Mentions index → function.parameters.length < index →
      index ∈ contract.rendered) :
    ((∃ error, contract.render function = .error error) ↔
      ∃ error, function.attach contract = .error error) ∧
      ∀ rendering attachment, contract.render function = .error rendering →
        function.attach contract = .error attachment →
          ∃ first least,
            rendering = .parameterMissing first function.name function.parameters.length ∧
            attachment = .parameterMissing least function.name function.parameters.length ∧
            function.FirstMissing contract.rendered first ∧
            function.LeastMissing contract least ∧
            (rendering = attachment ↔
              ∀ index, contract.Mentions index → function.parameters.length < index →
                first ≤ index) := by
  refine ⟨⟨?_, ?_⟩, fun rendering attachment unrendered unattached => ?_⟩
  · rintro ⟨error, refused⟩
    obtain ⟨first, missing, -⟩ := Declaration.render_eq_error_iff.mp refused
    obtain ⟨least, lacking⟩ := Declaration.exists_firstMissing
      (mem_indices_of_mem_rendered missing.mem) missing.beyond
    rw [Declaration.firstMissing_indices_iff] at lacking
    exact ⟨_, Declaration.attach_of_leastMissing inline lacking⟩
  · rintro ⟨error, refused⟩
    obtain ⟨least, lacking, -⟩ := (Declaration.attach_eq_error_iff inline distinct).mp refused
    obtain ⟨first, missing⟩ :=
      Declaration.exists_firstMissing (shown least lacking.mentioned lacking.beyond) lacking.beyond
    exact ⟨_, Declaration.render_eq_error_iff.mpr ⟨first, missing, rfl⟩⟩
  · obtain ⟨first, missing, rfl⟩ := Declaration.render_eq_error_iff.mp unrendered
    obtain ⟨least, lacking, rfl⟩ :=
      (Declaration.attach_eq_error_iff inline distinct).mp unattached
    refine ⟨first, least, rfl, rfl, missing, lacking, fun same => ?_, fun before => ?_⟩
    · obtain rfl : first = least := by simpa [Declaration.missing] using same
      exact lacking.least
    · have after := lacking.least first (mentions_of_mem_rendered missing.mem) missing.beyond
      rw [Nat.le_antisymm (before least lacking.mentioned lacking.beyond) after]

/-- The contract that returning implies that two parameters are not null. -/
def bothGiven (first second : Nat) : Contract where
  effects :=
    [{ clause := .returns none
        { proposition := .about first .isNull
          negated := true
          conjuncts := [⟨.about second .isNull, true, [], [], .empty⟩]
          disjuncts := []
          tags := .empty }
       tags := .empty }]
  tags := .empty
  nonempty := by simp

/-- The contract that returning implies the truth, with a parameter that is not null joined to it. -/
def truthAndGiven (index : Nat) : Contract where
  effects :=
    [{ clause := .returns none
        { Expression.reference "true" with
          conjuncts := [⟨.about index .isNull, true, [], [], .empty⟩] }
       tags := .empty }]
  tags := .empty
  nonempty := by simp

/-- Where the second parameter is written before the third, a function with one parameter is refused
for the second one by rendering and by attaching. -/
theorem refusals_agree_bothGiven :
    (∀ index, (bothGiven 2 3).Mentions index → 1 < index → index ∈ (bothGiven 2 3).rendered) ∧
      ∃ error, (bothGiven 2 3).render .oneParameter = .error error ∧
        Declaration.oneParameter.attach (bothGiven 2 3) = .error error := by
  have mentioned : ∀ index, (bothGiven 2 3).Mentions index → index ∈ [2, 3] := fun index member =>
    mem_indices_iff_mentions.mpr member
  have shown : ∀ index, (bothGiven 2 3).Mentions index → 1 < index →
      index ∈ (bothGiven 2 3).rendered := fun index member _ => mentioned index member
  refine ⟨shown, ?_⟩
  obtain ⟨alike, refusals⟩ :=
    refusals_agree (bothGiven 2 3) .oneParameter (by decide) (by decide) shown
  have unrendered : (bothGiven 2 3).render .oneParameter = .error (.parameterMissing 2 "f" 1) := rfl
  obtain ⟨attachment, unattached⟩ := alike.mp ⟨_, unrendered⟩
  obtain ⟨first, least, named, -, -, -, same⟩ := refusals _ _ unrendered unattached
  obtain rfl : 2 = first := (Error.parameterMissing.inj named).1
  have before : ∀ index ∈ [2, 3], 2 ≤ index := by decide
  rw [← same.mpr fun index member _ => before index (mentioned index member)] at unattached
  exact ⟨_, unrendered, unattached⟩

/-- Refusals that do not agree. Where the third parameter is written before the second, rendering
names the third and attaching the second. What is joined to a bare token is not written, but
attaching looks at it. And rendering does not mind two parameters of one name. -/
theorem refusals_not_agree :
    ((bothGiven 3 2).render .oneParameter = .error (.parameterMissing 3 "f" 1) ∧
      Declaration.oneParameter.attach (bothGiven 3 2) = .error (.parameterMissing 2 "f" 1)) ∧
    ((∃ text, (truthAndGiven 2).render .oneParameter = .ok text) ∧
      Declaration.oneParameter.attach (truthAndGiven 2) = .error (.parameterMissing 2 "f" 1)) ∧
    (∃ text, argumentGiven.render .twoOfOneName = .ok text) ∧
      Declaration.twoOfOneName.attach argumentGiven = .error (.duplicateParameters ["x"]) :=
  ⟨⟨rfl, rfl⟩, ⟨⟨_, rfl⟩, rfl⟩, ⟨_, rfl⟩, rfl⟩

end Contract

end KotlinContract
