import KotlinContract.CommandLine.Run
import KotlinContract.Proofs.Rendering.Acceptance

/-!
# Rendering the functions of a file

The functions of a file are rendered one after the other into a report and a list of sources. That
succeeds if each contract can be attached to its function; the report then has an entry for each, in
order, and the sources are those of the entries (`renderAll_eq_ok_iff`). For a file that holds one
document that is one source (`Holds.render_eq_ok_iff`).
-/
namespace KotlinContract

open Report (Entry)

/-- An entry is created if the contract and each of its effects is rendered for the function. -/
theorem Report.Entry.create_eq_ok_iff {function : Declaration} {contract : Contract}
    {source : String} {entry : Entry} :
    Entry.create function contract source = .ok entry ↔
      ∃ text effects, contract.render function = .ok text ∧
        contract.effects.mapM (·.render function) = .ok effects ∧
        entry =
          { name := function.name
            parameters := function.parameters.map Parameter.name
            modifiers := function.modifiers.map Modifier.keyword
            effects
            contract := text
            source } := by
  simp only [create, Chain.bind_eq_ok_iff]
  constructor
  · rintro ⟨text, rendered, effects, each, same⟩
    exact ⟨text, effects, rendered, each, (Except.ok.inj same).symm⟩
  · rintro ⟨text, effects, rendered, each, rfl⟩
    exact ⟨text, rendered, effects, each, rfl⟩

namespace CommandLine

/-- The entry records a function with a contract attached to it. -/
def Recorded (item : Declaration × Contract) (entry : Entry) : Prop :=
  ∃ attached, item.1.attach item.2 = .ok attached ∧
    Entry.create item.1 item.2 attached.source = .ok entry

/-- Whatever contract is attached to a function can be recorded, with the source of the function and
the text of the contract. -/
theorem exists_recorded_of_attach {function attached : Declaration} {contract : Contract}
    (accepted : function.attach contract = .ok attached) :
    ∃ entry, Recorded (function, contract) entry ∧ entry.source = attached.source ∧
      contract.render function = .ok entry.contract := by
  obtain ⟨-, -, text, rendered, -⟩ := Declaration.attach_eq_ok_iff.mp accepted
  obtain ⟨effects, each, -⟩ := Contract.render_eq_ok_iff.mp rendered
  have created : Entry.create function contract attached.source = .ok _ :=
    Report.Entry.create_eq_ok_iff.mpr ⟨text, effects, rendered, each, rfl⟩
  exact ⟨_, ⟨attached, accepted, created⟩, rfl, rendered⟩

variable {verbose : Bool} {progress : Progress} {report final : Report} {sources : List String}

/-- Functions are rendered if each of them is recorded with its contract. The entries come behind
those of the report, and the sources are those of the entries. -/
theorem renderAll_eq_ok_iff {found : List (Declaration × Contract)} :
    (renderAll verbose progress report found).result = .ok (final, sources) ↔
      ∃ entries, List.Forall₂ Recorded found entries ∧
        final = { report with entries := report.entries ++ entries } ∧
        sources = entries.map Entry.source := by
  induction found generalizing progress report final sources with
  | nil =>
    simp only [renderAll, Except.ok.injEq, Prod.mk.injEq, List.forall₂_nil_left_iff,
      exists_eq_left, List.append_nil, List.map_nil]
    rw [eq_comm, @eq_comm _ [] sources]
  | cons item rest hypothesis =>
    obtain ⟨function, contract⟩ := item
    rw [renderAll]
    cases attaching : function.attach contract with
    | error error =>
      simp [List.forall₂_cons_left_iff, Recorded, attaching]
    | ok attached =>
      cases created : Entry.create function contract attached.source with
      | error error =>
        simp [List.forall₂_cons_left_iff, Recorded, attaching, Report.add, created, bind,
          Except.bind]
      | ok entry =>
        have recorded (other : Entry) : Recorded (function, contract) other ↔ entry = other := by
          simp [Recorded, attaching, created]
        have added : report.add function contract attached.source =
            .ok { report with entries := report.entries ++ [entry] } := by
          rw [Report.add, created]
          rfl
        have source : entry.source = attached.source := by
          obtain ⟨_, _, -, -, rfl⟩ := Report.Entry.create_eq_ok_iff.mp created
          rfl
        simp only [added, Chain.map_eq_ok_iff]
        constructor
        · rintro ⟨⟨last, others⟩, rendered, same⟩
          obtain ⟨entries, each, rfl, rfl⟩ := hypothesis.mp rendered
          cases same
          refine ⟨entry :: entries, .cons ((recorded entry).mpr rfl) each, by simp, ?_⟩
          rw [List.map_cons, source]
        · rintro ⟨_, all, rfl, rfl⟩
          obtain ⟨_, entries, first, each, rfl⟩ := List.forall₂_cons_left_iff.mp all
          obtain rfl := (recorded _).mp first
          refine ⟨⟨_, _⟩, hypothesis.mpr ⟨entries, each, rfl, rfl⟩, ?_⟩
          simp [source]

variable {files : FileStore} {file time : String}

/-- Without a report to write, a file is rendered if its functions are read and each of them is
recorded with its contract. What is printed are the sources of the entries. -/
theorem render_eq_ok_iff :
    (render files time file none verbose).result = .ok sources ↔
      ∃ found entries, parseFile files file = .ok found ∧
        List.Forall₂ Recorded found entries ∧ sources = entries.map Entry.source := by
  rw [render]
  cases parseFile files file with
  | error stop => simp
  | ok found =>
    simp only [Except.ok.injEq, exists_and_left, exists_eq_left']
    generalize Progress.tell _ _ _ = progress
    have each := @renderAll_eq_ok_iff verbose progress { sourceFile := file }
    cases rendered : (renderAll verbose progress { sourceFile := file } found).result with
    | error stop =>
      simp only [reduceCtorEq, false_iff]
      rintro ⟨entries, recorded, rfl⟩
      have accepted := each.mpr ⟨entries, recorded, rfl, rfl⟩
      rw [rendered] at accepted
      cases accepted
    | ok result =>
      obtain ⟨report, printed⟩ := result
      simp only [Option.filter_none, Except.ok.injEq]
      constructor
      · rintro rfl
        obtain ⟨entries, recorded, -, same⟩ := each.mp rendered
        exact ⟨entries, recorded, same⟩
      · rintro ⟨entries, recorded, rfl⟩
        have accepted := each.mpr ⟨entries, recorded, rfl, rfl⟩
        rw [rendered] at accepted
        cases accepted
        rfl

/-- A file holds the text of a JSON value. -/
def Holds (files : FileStore) (file : String) (value : Json) : Prop :=
  ∃ bytes text, files.read file = .ok bytes ∧ FileStore.textOf bytes = .ok text ∧
    Json.readChars text = .ok value

example : Holds ⟨[(["d"], .file [0x7b, 0x7d])]⟩ "./d" (.object []) := ⟨_, _, rfl, rfl, rfl⟩

/-- The functions of a file that holds a value are those of the documents in the value. -/
theorem Holds.parseFile_eq_ok_iff {value : Json} {found : List (Declaration × Contract)}
    (held : Holds files file value) :
    parseFile files file = .ok found ↔
      List.Forall₂ (Document.parse · = .ok ·) (documentsOf value) found := by
  obtain ⟨bytes, text, stored, decoded, read⟩ := held
  rw [← Chain.mapM_eq_ok_iff_forall₂, parseFile, stored]
  simp only [parseBytes, decoded, readJson, read, bind, Except.bind, pure, Except.pure]
  cases (documentsOf value).mapM Document.parse <;> simp [throw, throwThe, MonadExceptOf.throw]

/-- A file that holds one document is rendered if the document is parsed and recorded, and then
the source of its entry is all that is printed. -/
theorem Holds.render_eq_ok_iff {members : List (String × Json)}
    (held : Holds files file (.object members)) :
    (render files time file none verbose).result = .ok sources ↔
      ∃ item entry, Document.parse (.object members) = .ok item ∧ Recorded item entry ∧
        sources = [entry.source] := by
  simp only [CommandLine.render_eq_ok_iff, held.parseFile_eq_ok_iff, documentsOf,
    List.forall₂_cons_left_iff, List.forall₂_nil_left_iff]
  constructor
  · rintro ⟨_, _, ⟨item, _, parsed, rfl, rfl⟩, each, rfl⟩
    obtain ⟨entry, _, recorded, ⟨⟩, rfl⟩ := List.forall₂_cons_left_iff.mp each
    exact ⟨item, entry, parsed, recorded, rfl⟩
  · rintro ⟨item, entry, parsed, recorded, rfl⟩
    exact ⟨[item], [entry], ⟨item, [], parsed, rfl, rfl⟩, .cons recorded .nil, rfl⟩

end CommandLine

end KotlinContract
