import KotlinContract.Proofs.CommandLine.Outcomes

/-!
# The digest of the document file

A report is written after its own file is emptied, and only then is the digest of the document file
taken. So the report has the digest of the text that was read, unless its file is the document file:
then it has the digest of the empty text (`recordsDigest_of_run`). The texts in a document file are
free of lone surrogates (`Json.charOfUnit`).
-/
namespace KotlinContract.CommandLine

variable {files : FileStore} {path file time : String} {report : Report}

/-- The file at a path holds a report with a digest of the document file. -/
def RecordsDigest (files : FileStore) (path digest : String) : Prop :=
  ∃ value metadata, Holds files path value ∧
    Json.member? value.members "metadata" = some metadata ∧
    Json.member? metadata.members "source_file_hash" = some (.text digest)

/-- A file holds one value at most. -/
theorem Holds.unique {value other : Json} (held : Holds files path value)
    (held' : Holds files path other) : value = other := by
  obtain ⟨bytes, text, read, decoded, understood⟩ := held
  obtain ⟨bytes', text', read', decoded', understood'⟩ := held'
  cases read.symm.trans read'
  cases decoded.symm.trans decoded'
  exact Except.ok.inj (understood.symm.trans understood')

/-- A report has one digest of the document file at most. -/
theorem RecordsDigest.unique {digest other : String} (recorded : RecordsDigest files path digest)
    (recorded' : RecordsDigest files path other) : digest = other := by
  obtain ⟨value, metadata, held, first, second⟩ := recorded
  obtain ⟨value', metadata', held', first', second'⟩ := recorded'
  obtain rfl := held.unique held'
  cases first.symm.trans first'
  exact Json.text.inj (Option.some.inj (second.symm.trans second'))

/-- The value of a report has the digest that it was made with. -/
theorem Holds.recordsDigest {digest : String}
    (held : Holds files path (report.toJson time (some digest))) :
    RecordsDigest files path digest :=
  ⟨_, _, held, rfl, rfl⟩

variable {arguments : List String} {verbose : Bool}

/-- A run that ends well and was asked for a report has read the text of the document file, and the
report has the digest of that text if its own file is another place than the document file. If it is
the same place, the report has the digest of the empty text. -/
theorem recordsDigest_of_run (asked : parse arguments = .ok (.render file (some path) verbose))
    (named : path ≠ "") (files : FileStore) (time : String)
    (ended : (run arguments files time).exit = .code 0) :
    ∃ bytes text found entries, files.read file = .ok bytes ∧ FileStore.textOf bytes = .ok text ∧
      parseFile files file = .ok found ∧ List.Forall₂ Recorded found entries ∧
      (run arguments files time).files.read path =
        .ok (Report.text { sourceFile := file, entries } reportLayout time
          (some (Digest.hexDigest (textLeft file path text)))).toUTF8.toList ∧
      ((Decimal.digitsOf (Report.totalEffects { sourceFile := file, entries })).length ≤
          Json.mostDigits →
        ((Route.ofText path).stop ≠ (Route.ofText file).stop →
          RecordsDigest (run arguments files time).files path
            (Digest.hexDigest (String.ofList text))) ∧
        ((Route.ofText path).stop = (Route.ofText file).stop →
          RecordsDigest (run arguments files time).files path (Digest.hexDigest ""))) := by
  obtain ⟨found, entries, parsed, recorded, -, -, -, stored⟩ := run_of_code_zero asked ended
  obtain ⟨bytes, text, read, decoded, written⟩ := stored path (by simp [named])
  refine ⟨bytes, text, found, entries, read, decoded, parsed, recorded, written, fun short => ?_⟩
  have held := holds_of_read (effects_ne_nil_of_recorded recorded) short written
  constructor
  · intro elsewhere
    rw [textLeft, if_neg elsewhere] at held
    exact held.recordsDigest
  · intro same
    rw [textLeft, if_pos same] at held
    exact held.recordsDigest

/-- A document for a function with a contract. -/
def documentGiven : Json := .object (Service.contractSent [])

/-- The text of the document. -/
def documentText : String := documentGiven.render {}

/-- Files of which one has that text. -/
def documentFiles : FileStore := ⟨[(["d.json"], .file documentText.toUTF8.toList)]⟩

/-- The text is read back from its bytes, and the document from the text. -/
theorem restorable_documentGiven : documentGiven.Restorable := by
  simp [documentGiven, Service.contractSent]
  decide

/-- The file holds the document. -/
theorem holds_documentFiles : Holds documentFiles "d.json" documentGiven :=
  ⟨_, _, rfl, restorable_documentGiven.textOf_render {},
    restorable_documentGiven.readChars_render {}⟩

/-- A function is rendered for the document. -/
theorem yields_documentGiven : ∀ document ∈ documentsOf documentGiven,
    ∃ source text, Document.Yields document source text :=
  List.forall_mem_singleton.mpr ⟨_, _, _, _, _, rfl, rfl, rfl, rfl⟩

/-- What is recorded for these files has one effect. -/
theorem totalEffects_documentFiles {found : List (Declaration × Contract)}
    {entries : List Report.Entry} (parsed : parseFile documentFiles "d.json" = .ok found)
    (recorded : List.Forall₂ Recorded found entries) :
    Report.totalEffects { sourceFile := "d.json", entries } = 1 := by
  have each := holds_documentFiles.parseFile_eq_ok_iff.mp parsed
  obtain ⟨_, _, first, ⟨⟩, rfl⟩ := List.forall₂_cons_left_iff.mp each
  obtain ⟨entry, _, ⟨attached, -, created⟩, ⟨⟩, rfl⟩ := List.forall₂_cons_left_iff.mp recorded
  cases first
  cases created
  rfl

/-- A report about that file in a new directory has the digest of its text. -/
theorem recordsDigest_of_run_elsewhere :
    parse ["d.json", "--json", "out/r.json"] = .ok (.render "d.json" (some "out/r.json") false) ∧
      (run ["d.json", "--json", "out/r.json"] documentFiles "now").exit = .code 0 ∧
      RecordsDigest (run ["d.json", "--json", "out/r.json"] documentFiles "now").files "out/r.json"
        (Digest.hexDigest documentText) := by
  have asked : parse ["d.json", "--json", "out/r.json"] =
      .ok (.render "d.json" (some "out/r.json") false) := rfl
  have ended : (run ["d.json", "--json", "out/r.json"] documentFiles "now").exit = .code 0 :=
    (holds_documentFiles.code_zero_iff asked).mpr
      ⟨yields_documentGiven, by rintro _ ⟨⟩; exact ⟨rfl, _, rfl⟩⟩
  obtain ⟨bytes, text, found, entries, read, decoded, parsed, recorded, -, digest⟩ :=
    recordsDigest_of_run asked (by decide) documentFiles "now" ended
  have whole : text = documentText.toList := by
    cases (rfl : documentFiles.read "d.json" = .ok documentText.toUTF8.toList).symm.trans read
    exact Except.ok.inj (decoded.symm.trans (restorable_documentGiven.textOf_render {}))
  have effects := totalEffects_documentFiles parsed recorded
  rw [effects, whole, String.ofList_toList] at digest
  exact ⟨asked, ended, (digest (by decide)).1 (by decide)⟩

/-- A report that is written over the document file has the digest of the empty text, and not that
of the text that was read. -/
theorem not_recordsDigest_overwritten :
    parse ["d.json", "--json", "d.json"] = .ok (.render "d.json" (some "d.json") false) ∧
      (run ["d.json", "--json", "d.json"] documentFiles "now").exit = .code 0 ∧
      (∃ bytes, documentFiles.read "d.json" = .ok bytes ∧
        FileStore.textOf bytes = .ok documentText.toList) ∧
      RecordsDigest (run ["d.json", "--json", "d.json"] documentFiles "now").files "d.json"
        (Digest.hexDigest "") ∧
      ¬ RecordsDigest (run ["d.json", "--json", "d.json"] documentFiles "now").files "d.json"
        (Digest.hexDigest documentText) := by
  have asked : parse ["d.json", "--json", "d.json"] =
      .ok (.render "d.json" (some "d.json") false) := rfl
  have ended : (run ["d.json", "--json", "d.json"] documentFiles "now").exit = .code 0 :=
    (holds_documentFiles.code_zero_iff asked).mpr
      ⟨yields_documentGiven, by rintro _ ⟨⟩; exact ⟨rfl, _, rfl⟩⟩
  obtain ⟨found, entries, parsed, recorded, -, -, -, stored⟩ := run_of_code_zero asked ended
  obtain ⟨bytes, text, -, -, written⟩ := stored "d.json" rfl
  have each := effects_ne_nil_of_recorded recorded
  have effects := totalEffects_documentFiles parsed recorded
  have held := holds_of_read each (by rw [effects]; decide) written
  rw [textLeft, if_pos rfl] at held
  have unlike : Digest.hexDigest "" ≠ Digest.hexDigest documentText := by decide +kernel
  exact ⟨asked, ended, ⟨_, rfl, restorable_documentGiven.textOf_render {}⟩, held.recordsDigest,
    fun other => unlike (held.recordsDigest.unique other)⟩

end KotlinContract.CommandLine
