import KotlinContract.Proofs.CommandLine.Rendering
import KotlinContract.Proofs.Document.Reading
import KotlinContract.Proofs.Json.Members
import KotlinContract.Proofs.Schema.Checked
import KotlinContract.Proofs.Service.Agreement

/-!
# The service and document files

A request holds a document less what was not sent: its sections are looked up as those of the body,
and a section that is null is gone (`Request.read_eq_valid_iff`). What a document is parsed to
depends on the look-up of three keys, and a contract that is null is refused like a missing one
(`Document.parse_eq_ok_iff_of_alike`). So a body and the document of its request are parsed alike,
unless the body has null for metadata, which a file refuses and the service leaves out
(`agrees_with_files`). The texts of bodies and files are free of lone surrogates
(`Json.charOfUnit`).
-/
namespace KotlinContract

open Schema

namespace Document

/-- Objects with the same function, the same metadata and contracts that are read alike are parsed
to the same functions and contracts. -/
theorem parse_eq_ok_iff_of_alike {left right : List (String × Json)}
    (function : Json.member? left "function" = Json.member? right "function")
    (metadata : Json.member? left metadataKey = Json.member? right metadataKey)
    (contract : ∀ form,
      (∃ value, Json.member? left "contract" = some value ∧ ContractForm.read value = .valid form) ↔
        ∃ value, Json.member? right "contract" = some value ∧
          ContractForm.read value = .valid form)
    {result : Declaration × Contract} :
    parse (.object left) = .ok result ↔ parse (.object right) = .ok result := by
  rw [parse, parse, metadata]
  cases Json.member? right metadataKey with
  | some value => rw [function]
  | none =>
    simp only [Chain.bind_eq_ok_iff, Checked.orRefuse_eq_ok_iff, read_eq_valid_iff, function,
      contract]

/-- A document with null for metadata is refused. -/
theorem parse_ne_ok_of_null {members : List (String × Json)}
    (null : Json.member? members metadataKey = some .null) (result : Declaration × Contract) :
    parse (.object members) ≠ .ok result := by
  intro parsed
  rw [parse, null] at parsed
  obtain ⟨_, -, refused⟩ := Chain.bind_eq_ok_iff.mp parsed
  obtain ⟨_, compiled, -⟩ := Chain.bind_eq_ok_iff.mp refused
  cases compiled

/-- A document gives a function, with the contract attached to it, and the text of the contract. -/
def Yields (document : Json) (source text : String) : Prop :=
  ∃ function contract attached, parse document = .ok (function, contract) ∧
    function.attach contract = .ok attached ∧ attached.source = source ∧
    contract.render function = .ok text

/-- A document gives something if it is parsed and its contract attached. -/
theorem exists_yields_iff {document : Json} :
    (∃ source text, Yields document source text) ↔
      ∃ function contract attached, parse document = .ok (function, contract) ∧
        function.attach contract = .ok attached := by
  constructor
  · rintro ⟨_, _, function, contract, attached, parsed, attaches, -, -⟩
    exact ⟨function, contract, attached, parsed, attaches⟩
  · rintro ⟨function, contract, attached, parsed, attaches⟩
    obtain ⟨-, -, text, rendered, -⟩ := Declaration.attach_eq_ok_iff.mp attaches
    exact ⟨_, text, function, contract, attached, parsed, attaches, rfl, rendered⟩

end Document

namespace Service

open Document (metadataKey Yields)

/-- How a section of a request comes from what is found under its key. -/
inductive Section : Option Json → Option Json → Prop where
  /-- Nothing is there. -/
  | missing : Section none none
  /-- The value null counts as not sent. -/
  | null : Section (some .null) none
  /-- An object is taken as it is. -/
  | sent (members : List (String × Json)) :
    Section (some (.object members)) (some (.object members))

/-- Only objects are dictionaries. -/
theorem dictionary_eq_valid_iff {value result : Json} :
    dictionary value = .valid result ↔ ∃ members, value = .object members ∧ value = result := by
  cases value <;> simp [dictionary, Checked.fault]

/-- A section is read if it is missing, null or an object. -/
theorem section_iff {key : String} {members : List (String × Json)} {sent : Option Json} :
    optional (nullable dictionary) none key members = .valid sent ↔
      Section (Json.member? members key) sent := by
  rw [optional_eq_valid_iff]
  simp only [nullable_eq_valid_iff, dictionary_eq_valid_iff]
  constructor
  · rintro (⟨missing, rfl⟩ | ⟨_, found, ⟨rfl, rfl⟩ | ⟨-, _, ⟨inner, rfl, rfl⟩, rfl⟩⟩)
    · rw [missing]
      exact .missing
    · rw [found]
      exact .null
    · rw [found]
      exact .sent inner
  · intro read
    cases found : Json.member? members key with
    | none =>
      rw [found] at read
      cases read
      exact .inl ⟨rfl, rfl⟩
    | some value =>
      rw [found] at read
      cases read with
      | null => exact .inr ⟨_, rfl, .inl ⟨rfl, rfl⟩⟩
      | sent inner => exact .inr ⟨_, rfl, .inr ⟨nofun, _, ⟨inner, rfl, rfl⟩, rfl⟩⟩

variable {members : List (String × Json)} {request : Request}

/-- A request is read from an object whose function is an object, section by section. -/
theorem Request.read_eq_valid_iff :
    Request.read (.object members) = .valid request ↔
      (Json.member? members "function" = some request.function ∧
        ∃ inner, request.function = .object inner) ∧
      Section (Json.member? members "contract") request.contract ∧
      Section (Json.member? members metadataKey) request.metadata := by
  rw [Request.read, Checked.seq_eq_valid_iff]
  simp only [Checked.seq_eq_valid_iff, Checked.map_eq_valid_iff, required_eq_valid_iff,
    section_iff, dictionary_eq_valid_iff]
  constructor
  · rintro ⟨_, _, ⟨_, _, ⟨_, ⟨_, found, inner, rfl, rfl⟩, rfl⟩, contract, rfl⟩, metadata, rfl⟩
    exact ⟨⟨found, inner, rfl⟩, contract, metadata⟩
  · rintro ⟨⟨found, inner, same⟩, contract, metadata⟩
    exact ⟨_, _, ⟨_, _, ⟨_, ⟨_, found, inner, same, rfl⟩, rfl⟩, contract, rfl⟩, metadata, rfl⟩

/-- The contract of a request is the contract of its document. -/
theorem Request.contract_document (request : Request) :
    Json.member? request.document.members "contract" = request.contract := by
  obtain ⟨_, contract, metadata⟩ := request
  cases contract <;> cases metadata <;> rfl

/-- The metadata of a request are the metadata of its document. -/
theorem Request.metadata_document (request : Request) :
    Json.member? request.document.members metadataKey = request.metadata := by
  obtain ⟨_, contract, metadata⟩ := request
  cases contract <;> cases metadata <;> rfl

/-- A contract that is null is refused like one that was not sent. -/
theorem Section.read_iff {found sent : Option Json} (read : Section found sent)
    {form : ContractForm} :
    (∃ value, found = some value ∧ ContractForm.read value = .valid form) ↔
      ∃ value, sent = some value ∧ ContractForm.read value = .valid form := by
  cases read with
  | missing => rfl
  | sent => rfl
  | null => simp [ContractForm.read, Checked.fault]

/-- A section that is not null is found again in what was sent. -/
theorem Section.eq_of_ne_null {found sent : Option Json} (read : Section found sent)
    (stated : found ≠ some .null) : sent = found := by
  cases read with
  | missing => rfl
  | sent => rfl
  | null => contradiction

/-- The document of a request is parsed like the body that the request was read from. -/
theorem Request.parse_document (accepted : Request.read (.object members) = .valid request)
    (stated : Json.member? members metadataKey ≠ some .null) {result : Declaration × Contract} :
    Document.parse request.document = .ok result ↔
      Document.parse (.object members) = .ok result := by
  obtain ⟨⟨function, -⟩, contract, metadata⟩ := Request.read_eq_valid_iff.mp accepted
  have document : request.document = .object request.document.members := rfl
  rw [document]
  refine Document.parse_eq_ok_iff_of_alike ?_ ?_ fun form => ?_
  · rw [function]
    rfl
  · rw [request.metadata_document, metadata.eq_of_ne_null stated]
  · rw [request.contract_document, contract.read_iff]

/-- What is rendered for a request is what its document gives. -/
theorem Request.yields_document_iff {source text : String} :
    Yields request.document source text ↔
      ∃ rendering, request.render = .ok rendering ∧ rendering.source = source ∧
        rendering.contract = text := by
  simp only [Request.render, Chain.bind_eq_ok_iff]
  constructor
  · rintro ⟨function, contract, attached, parsed, attaches, rfl, rendered⟩
    obtain ⟨effects, each, -⟩ := Contract.render_eq_ok_iff.mp rendered
    exact ⟨_, ⟨(function, contract, attached), attachAll_eq_ok_iff.mpr ⟨parsed, attaches⟩, text,
      rendered, effects, each, rfl⟩, rfl, rfl⟩
  · rintro ⟨_, ⟨⟨function, contract, attached⟩, found, _, rendered, effects, each, same⟩, rfl, rfl⟩
    cases same
    obtain ⟨parsed, attaches⟩ := attachAll_eq_ok_iff.mp found
    exact ⟨function, contract, attached, parsed, attaches, rfl, rendered⟩

/-- The service answers a body with success, the source of a function and the text of a contract. -/
def Renders (body : Json) (source text : String) : Prop :=
  ∃ answer, (handle .render body).body = .ok (.object answer) ∧
    Json.member? answer "success" = some (.boolean true) ∧
    Json.member? answer "source" = some (.text source) ∧
    Json.member? answer "contract" = some (.text text)

/-- A body that is accepted gets the answer to its request. -/
theorem handle_render_of_read {body : Json} (accepted : Request.read body = .valid request) :
    handle .render body =
      { body := .ok (renderingJson request.render), log := renderingLog request.render } := by
  rw [handle, answer, accepted]

/-- A body is rendered with the source and the text of what is rendered for its request. -/
theorem renders_iff {body : Json} (accepted : Request.read body = .valid request)
    {source text : String} :
    Renders body source text ↔
      ∃ rendering, request.render = .ok rendering ∧ rendering.source = source ∧
        rendering.contract = text := by
  rw [Renders, handle_render_of_read accepted]
  cases request.render with
  | error error => simp [renderingJson, Json.member?]
  | ok rendering => simp [renderingJson, Json.member?, List.lookup_cons]

/-- An answer affirms success if it has a source and the text of a contract. -/
theorem affirms_iff_exists_renders {body : Json} (accepted : Request.read body = .valid request) :
    (∃ answer, (handle .render body).body = .ok answer ∧ Affirms "success" answer) ↔
      ∃ source text, Renders body source text := by
  simp only [renders_iff accepted, handle_render_of_read accepted, Except.ok.injEq,
    exists_eq_left']
  cases request.render <;> simp [renderingJson, affirms_iff]

/-- For a file that holds a document, the source of the function that the document gives is all that
is printed. -/
theorem printed_iff_yields {files : FileStore} {file time : String} {verbose : Bool}
    {sources : List String} (held : CommandLine.Holds files file (.object members)) :
    (CommandLine.render files time file none verbose).result = .ok sources ↔
      ∃ source text, Yields (.object members) source text ∧ sources = [source] := by
  rw [held.render_eq_ok_iff]
  constructor
  · rintro ⟨⟨function, contract⟩, entry, parsed, ⟨attached, attaches, created⟩, rfl⟩
    obtain ⟨text, _, rendered, -, rfl⟩ := Report.Entry.create_eq_ok_iff.mp created
    exact ⟨_, text, ⟨function, contract, attached, parsed, attaches, rfl, rendered⟩, rfl⟩
  · rintro ⟨source, text, ⟨function, contract, attached, parsed, attaches, rfl, -⟩, rfl⟩
    obtain ⟨entry, recorded, printed, -⟩ := CommandLine.exists_recorded_of_attach attaches
    exact ⟨(function, contract), entry, parsed, recorded, by rw [printed]⟩

/-- A body with null for metadata stands for the same request as the body without that key. -/
theorem Request.read_filter (accepted : Request.read (.object members) = .valid request)
    (null : Json.member? members metadataKey = some .null) :
    Request.read (.object (members.filter (·.1 ≠ metadataKey))) = .valid request := by
  obtain ⟨function, contract, metadata⟩ := Request.read_eq_valid_iff.mp accepted
  have kept := Json.member?_filter (fun key => key ≠ metadataKey) members
  rw [Request.read_eq_valid_iff, kept, kept, kept]
  refine ⟨function, contract, ?_⟩
  rw [null] at metadata
  generalize request.metadata = sent at metadata ⊢
  cases metadata
  exact .missing

open CommandLine in
/-- Unless the metadata of a body that is accepted are null, the service renders it with success if
it is parsed as a document and its contract attached; the source and the text of the contract are
then the same, and the source is what is printed for a file that holds the body. Null for metadata
is refused in a file, and left out by the service. As always here, no text in the body has a lone
surrogate. -/
theorem agrees_with_files (accepted : Request.read (.object members) = .valid request) :
    (Json.member? members metadataKey ≠ some .null →
      ((∃ answer, (handle .render (.object members)).body = .ok answer ∧
          Affirms "success" answer) ↔
        ∃ function contract attached, Document.parse (.object members) = .ok (function, contract) ∧
          function.attach contract = .ok attached) ∧
      (∀ source text,
        Renders (.object members) source text ↔ Yields (.object members) source text) ∧
      ∀ files file time verbose sources, Holds files file (.object members) →
        ((render files time file none verbose).result = .ok sources ↔
          ∃ source text, Renders (.object members) source text ∧ sources = [source])) ∧
    (Json.member? members metadataKey = some .null →
      (∀ result, Document.parse (.object members) ≠ .ok result) ∧
      handle .render (.object members) =
        handle .render (.object (members.filter (·.1 ≠ metadataKey)))) := by
  constructor
  · intro stated
    have same (source text : String) :
        Renders (.object members) source text ↔ Yields (.object members) source text := by
      rw [renders_iff accepted, ← Request.yields_document_iff]
      simp only [Yields, Request.parse_document accepted stated]
    refine ⟨?_, same, ?_⟩
    · rw [affirms_iff_exists_renders accepted, ← Document.exists_yields_iff]
      simp only [same]
    · intro files file time verbose sources held
      simp only [printed_iff_yields held, same]
  · intro null
    refine ⟨Document.parse_ne_ok_of_null null, ?_⟩
    rw [handle_render_of_read accepted,
      handle_render_of_read (Request.read_filter accepted null)]

/-- The body of a request with a function, a contract for it and whatever else is sent. -/
def contractSent (others : List (String × Json)) : List (String × Json) :=
  ("function",
    .object
      [("name", .text "f"),
        ("parameters", .array [.object [("name", .text "x"), ("type", .text "kotlin.Any")]])]) ::
  ("contract",
    .object
      [("effects", .array
        [.object
          [("type", .text "RETURNS_CONSTANT"),
            ("conclusion", .object
              [("parameter_index", .integer 1), ("null_check", .boolean true),
                ("negated", .boolean true)])]])]) ::
  others

/-- A body with a key that is not known is rendered as it is parsed. -/
theorem agrees_with_files_noteSent :
    (∃ request, Request.read (.object (contractSent [("note", .null)])) = .valid request) ∧
      Json.member? (contractSent [("note", .null)]) metadataKey ≠ some .null ∧
      ∃ source text, Renders (.object (contractSent [("note", .null)])) source text ∧
        Yields (.object (contractSent [("note", .null)])) source text := by
  have accepted : ∃ request,
      Request.read (.object (contractSent [("note", .null)])) = .valid request := ⟨_, rfl⟩
  have stated : Json.member? (contractSent [("note", .null)]) metadataKey ≠ some .null := nofun
  refine ⟨accepted, stated, ?_⟩
  obtain ⟨request, accepted⟩ := accepted
  have yields : Yields (.object (contractSent [("note", .null)])) _ _ :=
    ⟨_, _, _, rfl, rfl, rfl, rfl⟩
  exact ⟨_, _, ((agrees_with_files accepted).1 stated).2.1 _ _ |>.mpr yields, yields⟩

/-- With null for metadata, the same body is rendered by the service and refused in a file. -/
theorem agrees_not_with_files :
    (∃ request,
      Request.read (.object (contractSent [(metadataKey, .null)])) = .valid request) ∧
      (∃ source text, Renders (.object (contractSent [(metadataKey, .null)])) source text) ∧
      Document.parse (.object (contractSent [(metadataKey, .null)])) =
        .error (.malformed .metadata [⟨[], .notAnObject⟩]) := by
  have accepted : Request.read (.object (contractSent [(metadataKey, .null)])) = .valid _ := rfl
  exact ⟨⟨_, accepted⟩, ⟨_, _, (renders_iff accepted).mpr ⟨_, rfl, rfl, rfl⟩⟩, rfl⟩

end Service

end KotlinContract
