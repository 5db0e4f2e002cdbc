import KotlinContract.Proofs.Rendering.Acceptance
import KotlinContract.Service.Basic

/-!
# The endpoints agree

Validating a request stops once the contract of its document is attached to the function; rendering
goes on to render the contract and each of its effects. Nothing of that can fail for a contract that
was attached (`exists_rendered_of_attach`), so both endpoints accept the same requests and refuse the
others for the same reason (`endpoints_agree`). The texts of a request are free of lone surrogates
(`Json.charOfUnit`), since a text with one has no digest.
-/
namespace KotlinContract

/-- Where an effect is rendered, its text is emitted step by step as well. -/
theorem Effect.emit_of_render {effect : Effect} {function : Declaration} {text : String}
    (rendered : effect.render function = .ok text) :
    effect.parts.emit (some function) = .ok text := by
  have dependable : Dependable (EffectParts.emit · effect.parts) effect.canonical effect.render
      effect.rendered :=
    .of_granted (Effect.text · effect) (effect.emit_parts ·) fun _ member => member
  rw [dependable.bound, rendered]
  rfl

/-- Where a contract is rendered, its text is emitted step by step as well. -/
theorem Contract.emit_of_render {contract : Contract} {function : Declaration} {text : String}
    (rendered : contract.render function = .ok text) :
    contract.parts.emit (some function) = .ok text := by
  have dependable : Dependable (ContractParts.emit · contract.parts) contract.canonical
      contract.render contract.rendered :=
    .of_granted (Contract.text · contract) (contract.emit_parts ·) fun _ member => member
  rw [dependable.bound, rendered]
  rfl

namespace Service

/-- What rendering does once a contract was attached to a function. -/
structure Rendered (function : Declaration) (contract : Contract) (entries : List String) :
    Prop where
  /-- The contract is rendered, as the block around the entries. -/
  whole : contract.render function = .ok (Contract.block entries)
  /-- Each effect is rendered as its entry, in order. -/
  each : contract.effects.mapM (·.render function) = .ok entries
  /-- No step of emitting the contract breaks down. -/
  emitted : contract.parts.emit (some function) = .ok (Contract.block entries)
  /-- No step of emitting an effect breaks down. -/
  emittedEach : List.Forall₂ (fun effect entry => effect.parts.emit (some function) = .ok entry)
    contract.effects entries

/-- A contract that was attached is rendered, and so are its effects. -/
theorem exists_rendered_of_attach {function attached : Declaration} {contract : Contract}
    (accepted : function.attach contract = .ok attached) :
    ∃ entries, Rendered function contract entries := by
  obtain ⟨-, -, block, rendered, -⟩ := Declaration.attach_eq_ok_iff.mp accepted
  obtain ⟨entries, each, rfl⟩ := Contract.render_eq_ok_iff.mp rendered
  refine ⟨entries, rendered, each, Contract.emit_of_render rendered, ?_⟩
  exact (Chain.mapM_eq_ok_iff_forall₂.mp each).imp fun _ _ => Effect.emit_of_render

/-- How the endpoints answer a request: the first answer is that of validating, the second that of
rendering. -/
inductive Answered (request : Request) : (validation rendering : Json) → Prop where
  /-- Both refuse it for one reason. -/
  | refused {error : Error} (reason : attachAll request.document = .error error) :
    Answered request
      (.object [("valid", .boolean false), ("errors", .array [.text error.message])])
      (.object
        [("success", .boolean false), ("source", .null), ("contract", .null),
          ("effects", .array []), ("contract_hash", .null), ("error", .text error.message)])
  /-- Both accept it, and every step of rendering succeeds. -/
  | accepted {function attached : Declaration} {contract : Contract} {entries : List String}
      {text : String} (parsed : Document.parse request.document = .ok (function, contract))
      (attaches : function.attach contract = .ok attached)
      (rendered : Rendered function contract entries)
      (lines : text = Contract.opening ++ Text.join "" (entries.map ("  " ++ · ++ "\n")) ++
        Contract.closing) :
    Answered request (.object [("valid", .boolean true), ("errors", .array [])])
      (.object
        [("success", .boolean true), ("source", .text attached.source), ("contract", .text text),
          ("effects", .array (entries.map .text)),
          ("contract_hash", .text (Digest.hexDigest text)), ("error", .null)])

/-- Whether an answer has the value true under a key. -/
def Affirms (key : String) (answer : Json) : Prop :=
  ∃ members, answer = .object members ∧ Json.member? members key = some (.boolean true)

/-- An answer that begins with a truth value affirms its key if the value is true. -/
theorem affirms_iff {key : String} {value : Bool} {others : List (String × Json)} :
    Affirms key (.object ((key, .boolean value) :: others)) ↔ value = true := by
  simp [Affirms, Json.member?]

/-- A document is parsed and its contract attached. -/
theorem attachAll_eq_ok_iff {document : Json} {function attached : Declaration}
    {contract : Contract} :
    attachAll document = .ok (function, contract, attached) ↔
      Document.parse document = .ok (function, contract) ∧
        function.attach contract = .ok attached := by
  simp only [attachAll, Chain.bind_eq_ok_iff]
  constructor
  · rintro ⟨⟨_, _⟩, parsed, _, attaches, same⟩
    cases same
    exact ⟨parsed, attaches⟩
  · rintro ⟨parsed, attaches⟩
    exact ⟨_, parsed, attached, attaches, rfl⟩

/-- Validating accepts exactly the requests that rendering accepts. A refusal has the same message
from both; what is accepted is rendered without fail, with an entry for each effect, the contract as
the lines of the entries between two others, and the digest of that text. -/
theorem endpoints_agree (request : Request) :
    (Affirms "valid" (validationJson request.validate) ↔
      Affirms "success" (renderingJson request.render)) ∧
      Answered request (validationJson request.validate) (renderingJson request.render) := by
  cases found : attachAll request.document with
  | error error =>
    have validation : request.validate = .error error := by
      rw [Request.validate, found]
      rfl
    have rendering : request.render = .error error := by
      rw [Request.render, found]
      rfl
    rw [validation, rendering, validationJson, renderingJson, affirms_iff, affirms_iff]
    exact ⟨Iff.rfl, .refused found⟩
  | ok result =>
    obtain ⟨function, contract, attached⟩ := result
    obtain ⟨parsed, attaches⟩ := attachAll_eq_ok_iff.mp found
    obtain ⟨entries, rendered⟩ := exists_rendered_of_attach attaches
    have validation : request.validate = .ok () := by
      rw [Request.validate, found]
      rfl
    have rendering : request.render =
        .ok ⟨function.name, attached.source, Contract.block entries, entries⟩ := by
      simp only [Request.render, Chain.bind_eq_ok_iff]
      exact ⟨_, found, _, rendered.whole, _, rendered.each, rfl⟩
    rw [validation, rendering, validationJson, renderingJson, affirms_iff, affirms_iff]
    exact ⟨Iff.rfl, .accepted parsed attaches rendered rfl⟩

end Service

end KotlinContract
