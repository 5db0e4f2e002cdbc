import KotlinContract.Proofs.CommandLine.Files
import KotlinContract.Proofs.CommandLine.Rendering
import KotlinContract.Proofs.Json.Encoded
import KotlinContract.Proofs.Report.Integrity
import KotlinContract.Proofs.Service.Files
import KotlinContract.Proofs.Text.Ended

/-!
# How a run ends

While functions are rendered, nothing happens but that lines of progress are printed
(`exists_renderAll_progress`), and a report on a file that was read is written or a file cannot be
made (`writeReport_cases`). So rendering a file ends in one of five ways (`Ending`), two of them
good; what the file holds and whether the report can be written decide which (`Holds.run_cases`). A
run does all that was asked for or nothing (`all_or_nothing`). The texts in a document file are free
of lone surrogates (`Json.charOfUnit`).
-/
namespace KotlinContract.CommandLine

open Report (Entry)

/-- Lines of progress that are printed one after the other, if that was asked for. -/
def heard (verbose : Bool) (lines : List String) : String :=
  if verbose then Text.join "" (lines.map progressLine) else ""

@[simp] theorem heard_nil (verbose : Bool) : heard verbose [] = "" := by
  cases verbose <;> rfl

/-- What is printed for lines is printed part by part. -/
theorem heard_append (verbose : Bool) (front back : List String) :
    heard verbose (front ++ back) = heard verbose front ++ heard verbose back := by
  cases verbose with
  | false => rfl
  | true => simp only [heard, if_true, List.map_append, Text.join_empty_append]

/-- The line about a function and its contract. -/
def counted (item : Declaration × Contract) : String :=
  item.1.name ++ ": " ++ toString item.2.effects.length ++ " effect(s)"

/-- The lines about the functions of a file: how many there are, and then one about each. -/
def announcements (file : String) (found : List (Declaration × Contract)) : List String :=
  ("Found " ++ toString found.length ++ " function(s) in " ++ file) :: found.map counted

variable {verbose : Bool} {progress : Progress} {report final : Report} {files : FileStore}
  {file time : String} {found : List (Declaration × Contract)}

/-- Progress after more lines were printed. -/
def Progress.after (progress : Progress) (verbose : Bool) (lines : List String) : Progress :=
  { progress with told := progress.told ++ heard verbose lines }

/-- A line is printed behind the others. -/
theorem tell_eq_after (progress : Progress) (verbose : Bool) (line : String) :
    progress.tell verbose line = progress.after verbose [line] := by
  cases verbose with
  | false => simp [Progress.tell, Progress.after, heard]
  | true => rfl

/-- Lines are printed behind those that were printed before. -/
theorem Progress.after_after (progress : Progress) (verbose : Bool) (front back : List String) :
    (progress.after verbose front).after verbose back = progress.after verbose (front ++ back) := by
  simp only [Progress.after, heard_append, String.append_assoc]

/-- While functions are rendered, nothing happens but that the lines about the first of them are
printed, and those about all of them if all are rendered. -/
theorem exists_renderAll_progress (verbose : Bool) (progress : Progress) (report : Report)
    (found : List (Declaration × Contract)) :
    ∃ announced, announced <+: found.map counted ∧
      (renderAll verbose progress report found).progress = progress.after verbose announced ∧
      ∀ result, (renderAll verbose progress report found).result = .ok result →
        announced = found.map counted := by
  induction found generalizing progress report with
  | nil => exact ⟨[], List.prefix_rfl, by simp [renderAll, Progress.after], fun _ _ => rfl⟩
  | cons item rest hypothesis =>
    obtain ⟨function, contract⟩ := item
    rw [renderAll]
    cases attaching : function.attach contract with
    | error error =>
      exact ⟨[], List.nil_prefix, by simp [Progress.after], fun _ accepted => by cases accepted⟩
    | ok attached =>
      cases adding : report.add function contract attached.source with
      | error error =>
        have first : [counted (function, contract)] <+:
            ((function, contract) :: rest).map counted := by simp
        simp only [adding]
        exact ⟨_, first, tell_eq_after .., fun _ accepted => by cases accepted⟩
      | ok added =>
        obtain ⟨announced, first, rendered, all⟩ :=
          hypothesis (progress.tell verbose (counted (function, contract))) added
        simp only [adding]
        refine ⟨counted (function, contract) :: announced, by simpa using first, ?_, ?_⟩
        · refine rendered.trans ?_
          rw [tell_eq_after, Progress.after_after]
          rfl
        · intro result accepted
          obtain ⟨last, accepted, -⟩ := Chain.map_eq_ok_iff.mp accepted
          rw [all last accepted, List.map_cons]

/-- Functions are refused for nothing but a document. -/
theorem exists_of_renderAll_eq_error {stop : Stop}
    (refused : (renderAll verbose progress report found).result = .error stop) :
    ∃ error, stop = .refused (.document error) := by
  induction found generalizing progress report with
  | nil => cases refused
  | cons item rest hypothesis =>
    obtain ⟨function, contract⟩ := item
    rw [renderAll] at refused
    split at refused
    next error _ => exact ⟨error, (Except.error.inj refused).symm⟩
    next attached attaching =>
      simp only at refused
      split at refused
      next error _ => exact ⟨error, (Except.error.inj refused).symm⟩
      next added _ =>
        generalize progress.tell verbose _ = progress at refused
        cases others : (renderAll verbose progress added rest).result with
        | ok result =>
          rw [others] at refused
          cases refused
        | error error =>
          rw [others] at refused
          cases refused
          exact hypothesis others

/-- The text of the document file when a report is written: nothing, if the report's own file is
where the document file is, and else what it was. -/
def textLeft (file path : String) (text : List Char) : String :=
  if (Route.ofText path).stop = (Route.ofText file).stop then "" else String.ofList text

/-- When the file of a report is emptied, the digest of the document file is that of what is left of
it. -/
theorem digest_emptied {path : String} {opened : FileStore} {bytes : List UInt8}
    {text : List Char} (read : files.read file = .ok bytes)
    (decoded : FileStore.textOf bytes = .ok text) (emptied : files.write path [] = .ok opened) :
    opened.digest file = .ok (some (Digest.hexDigest (textLeft file path text))) := by
  rw [FileStore.digest_of_read (FileStore.read_write_of_read read emptied), textLeft]
  split
  next => rfl
  next => rw [decoded]; rfl

/-- A report can be written to a path: the directory for it can be made, and its file emptied. -/
def Writable (files : FileStore) (path : String) : Prop :=
  (files.makeParent path).result = .ok () ∧
    ∃ opened, (files.makeParent path).files.write path [] = .ok opened

/-- If the document file of a report can be read, the report is written unless a file or a directory
cannot be made, and its file then holds the text of the report with the digest of what was left of
the document file. -/
theorem writeReport_cases (report : Report) (path time : String) {bytes : List UInt8}
    {text : List Char} (read : files.read report.sourceFile = .ok bytes)
    (decoded : FileStore.textOf bytes = .ok text) :
    (¬ Writable files path ∧
        ∃ error, (writeReport files report path time).result = .error (.file error)) ∨
      Writable files path ∧ (writeReport files report path time).result = .ok () ∧
        (writeReport files report path time).files.read path =
          .ok (report.text reportLayout time
            (some (Digest.hexDigest (textLeft report.sourceFile path text)))).toUTF8.toList := by
  have grown : files.Grows (files.makeParent path).files := FileStore.grows_makeAll files _ _
  rw [writeReport, Writable]
  split
  next error failed => exact .inl ⟨fun writable => by simp [failed] at writable, error, rfl⟩
  next made =>
    split
    next error failed => exact .inl ⟨fun writable => by simp [failed] at writable, error, rfl⟩
    next opened emptied =>
      rw [digest_emptied (grown.read read) decoded emptied]
      obtain ⟨last, stored⟩ := FileStore.exists_write_of_write emptied
        (report.text reportLayout time
          (some (Digest.hexDigest (textLeft report.sourceFile path text)))).toUTF8.toList
      simp only [stored]
      exact .inr ⟨⟨made, opened, emptied⟩, trivial, FileStore.read_write stored⟩

/-- Functions are only read from a file that holds a value. -/
theorem exists_holds_of_parseFile (parsed : parseFile files file = .ok found) :
    ∃ value, Holds files file value := by
  cases read : files.read file with
  | error error => simp [parseFile, read] at parsed
  | ok bytes =>
    cases decoded : FileStore.textOf bytes with
    | error fault =>
      simp [parseFile, read, parseBytes, decoded, throw, throwThe, MonadExceptOf.throw, bind,
        Except.bind] at parsed
    | ok text =>
      cases understood : Json.readChars text with
      | ok value => exact ⟨value, bytes, text, read, decoded, understood⟩
      | error failure =>
        cases failure <;>
          simp [parseFile, read, parseBytes, decoded, readJson, understood, bind, Except.bind, pure,
            Except.pure] at parsed

/-- How rendering a file can end. -/
inductive Ending (files : FileStore) (time file : String) (json : Option String) (verbose : Bool) :
    Ended (List String) → Prop where
  /-- The functions cannot be read. -/
  | unread {stop : Stop} (refused : parseFile files file = .error stop) :
    Ending files time file json verbose ⟨{ files }, .error stop⟩
  /-- A contract cannot be attached to its function. -/
  | unrendered {found : List (Declaration × Contract)} {announced : List String} {error : Error}
    (parsed : parseFile files file = .ok found) (first : announced <+: announcements file found)
    (lost : ¬ ∃ entries, List.Forall₂ Recorded found entries) :
    Ending files time file json verbose
      ⟨({ files } : Progress).after verbose announced, .error (.refused (.document error))⟩
  /-- The sources are printed, and no report was asked for. -/
  | printed {found : List (Declaration × Contract)} {entries : List Entry}
    (parsed : parseFile files file = .ok found) (recorded : List.Forall₂ Recorded found entries)
    (unasked : json.filter (· ≠ "") = none) :
    Ending files time file json verbose
      ⟨({ files } : Progress).after verbose (announcements file found),
        .ok (entries.map Entry.source)⟩
  /-- The report cannot be written. -/
  | unwritten {found : List (Declaration × Contract)} {entries : List Entry} {path : String}
    {progress : Progress} {error : FileError}
    (parsed : parseFile files file = .ok found) (recorded : List.Forall₂ Recorded found entries)
    (asked : json.filter (· ≠ "") = some path) (closed : ¬ Writable files path) :
    Ending files time file json verbose ⟨progress, .error (.file error)⟩
  /-- The report is written and the sources are printed. -/
  | written {found : List (Declaration × Contract)} {entries : List Entry} {path : String}
    {bytes : List UInt8} {text : List Char} {after : FileStore}
    (parsed : parseFile files file = .ok found) (recorded : List.Forall₂ Recorded found entries)
    (asked : json.filter (· ≠ "") = some path) (writable : Writable files path)
    (read : files.read file = .ok bytes) (decoded : FileStore.textOf bytes = .ok text)
    (stored : after.read path =
      .ok (Report.text { sourceFile := file, entries } reportLayout time
        (some (Digest.hexDigest (textLeft file path text)))).toUTF8.toList) :
    Ending files time file json verbose
      ⟨({ files := after } : Progress).after verbose
          (announcements file found ++ ["Wrote JSON report to " ++ path]),
        .ok (entries.map Entry.source)⟩

/-- Rendering a file ends in one of these ways. -/
theorem ending_render (files : FileStore) (time file : String) (json : Option String)
    (verbose : Bool) :
    Ending files time file json verbose (render files time file json verbose) := by
  rw [render]
  split
  next stop refused => exact .unread refused
  next found parsed =>
    simp only [tell_eq_after]
    generalize opened : Progress.after _ verbose _ = progress
    obtain ⟨announced, first, rendered, all⟩ :=
      exists_renderAll_progress verbose progress { sourceFile := file } found
    have each := @renderAll_eq_ok_iff verbose progress { sourceFile := file }
    split
    next stop lost =>
      obtain ⟨error, rfl⟩ := exists_of_renderAll_eq_error lost
      rw [rendered, ← opened, Progress.after_after]
      refine .unrendered parsed ?_ ?_
      · simpa [announcements] using first
      · rintro ⟨entries, recorded⟩
        rw [each.mpr ⟨entries, recorded, rfl, rfl⟩] at lost
        cases lost
    next report sources accepted unasked =>
      obtain ⟨entries, recorded, rfl, rfl⟩ := each.mp accepted
      rw [rendered, all _ accepted, ← opened, Progress.after_after]
      exact .printed parsed recorded unasked
    next report sources path accepted asked =>
      obtain ⟨entries, recorded, rfl, rfl⟩ := each.mp accepted
      rw [rendered, all _ accepted, ← opened, Progress.after_after]
      obtain ⟨value, bytes, text, read, decoded, -⟩ := exists_holds_of_parseFile parsed
      have cases := writeReport_cases { sourceFile := file, entries } path time read decoded
      split
      next stop failed =>
        rcases cases with ⟨closed, error, failed'⟩ | ⟨-, succeeded, -⟩
        · cases failed.symm.trans failed'
          exact .unwritten parsed recorded asked closed
        · cases failed.symm.trans succeeded
      next succeeded =>
        rcases cases with ⟨-, error, failed⟩ | ⟨writable, -, stored⟩
        · cases succeeded.symm.trans failed
        · have written : Ending files time file json verbose _ :=
            .written parsed recorded asked writable read decoded stored
          rw [← Progress.after_after] at written
          exact written

open Document (Yields)

/-- Documents give functions that are all recorded with their contracts if each document gives
something. -/
theorem exists_recorded_iff {documents : List Json} :
    (∃ found entries, List.Forall₂ (Document.parse · = .ok ·) documents found ∧
        List.Forall₂ Recorded found entries) ↔
      ∀ document ∈ documents, ∃ source text, Yields document source text := by
  simp only [Document.exists_yields_iff]
  induction documents with
  | nil => simp
  | cons document rest hypothesis =>
    rw [List.forall_mem_cons, ← hypothesis]
    constructor
    · rintro ⟨_, _, parsed, recorded⟩
      obtain ⟨_, _, first, each, rfl⟩ := List.forall₂_cons_left_iff.mp parsed
      obtain ⟨_, _, ⟨attached, attaches, -⟩, others, rfl⟩ := List.forall₂_cons_left_iff.mp recorded
      exact ⟨⟨_, _, attached, first, attaches⟩, _, _, each, others⟩
    · rintro ⟨⟨function, contract, attached, parsed, attaches⟩, found, entries, each, recorded⟩
      obtain ⟨entry, first, -⟩ := exists_recorded_of_attach attaches
      exact ⟨_, _, .cons parsed each, .cons first recorded⟩

/-- A file that holds a value is there. -/
theorem Holds.has {value : Json} (held : Holds files file value) : files.has file = true := by
  obtain ⟨bytes, _, read, -⟩ := held
  exact FileStore.has_of_read read

/-- Of a file that holds a value, nothing but a document is refused when it is read. -/
theorem Holds.exists_of_parseFile_eq_error {value : Json} (held : Holds files file value)
    {stop : Stop} (refused : parseFile files file = .error stop) :
    ∃ error, stop = .refused (.document error) := by
  obtain ⟨bytes, text, stored, decoded, read⟩ := held
  rw [parseFile, stored] at refused
  simp only [parseBytes, decoded, readJson, read, bind, Except.bind, pure, Except.pure] at refused
  cases parsed : (documentsOf value).mapM Document.parse with
  | error error =>
    rw [parsed] at refused
    exact ⟨error, (Except.error.inj refused).symm⟩
  | ok found =>
    rw [parsed] at refused
    cases refused

variable {arguments : List String} {json : Option String}

/-- A run that ends with the code for an error has told of one, and it has left the files as they
were and printed nothing but the first lines of progress. -/
theorem run_of_code_one (asked : parse arguments = .ok (.render file json verbose))
    (ended : (run arguments files time).exit = .code 1) :
    (run arguments files time).files = files ∧
      (∃ message, (run arguments files time).errors = errorLine message) ∧
      ∃ announced, (run arguments files time).output = heard verbose announced ∧
        (announced ≠ [] →
          ∃ found, parseFile files file = .ok found ∧ announced <+: announcements file found) := by
  have ending := ending_render files time file json verbose
  simp only [run, asked] at ended ⊢
  split
  next there =>
    rw [if_pos there] at ended
    generalize render files time file json verbose = rendered at ending ended
    cases ending with
    | @unread stop refused =>
      cases stop with
      | refused refusal => exact ⟨rfl, ⟨_, rfl⟩, [], by simp⟩
      | file => cases ended
    | unrendered parsed first lost =>
      exact ⟨rfl, ⟨_, rfl⟩, _, String.empty_append, fun _ => ⟨_, parsed, first⟩⟩
    | printed => cases ended
    | unwritten => cases ended
    | written => cases ended
  next => exact ⟨rfl, ⟨_, rfl⟩, [], by simp⟩

/-- A run that ends well has recorded all functions of the file and printed the sources of their
entries behind the lines of progress. A report that was asked for is in its file. -/
theorem run_of_code_zero (asked : parse arguments = .ok (.render file json verbose))
    (ended : (run arguments files time).exit = .code 0) :
    ∃ found entries, parseFile files file = .ok found ∧ List.Forall₂ Recorded found entries ∧
      (run arguments files time).errors = "" ∧
      (∃ announced, announcements file found <+: announced ∧
        (run arguments files time).output =
          heard verbose announced ++ Text.join "\n" (entries.map Entry.source)) ∧
      (json.filter (· ≠ "") = none → (run arguments files time).files = files) ∧
      ∀ path, json.filter (· ≠ "") = some path →
        ∃ bytes text, files.read file = .ok bytes ∧ FileStore.textOf bytes = .ok text ∧
          (run arguments files time).files.read path =
            .ok (Report.text { sourceFile := file, entries } reportLayout time
              (some (Digest.hexDigest (textLeft file path text)))).toUTF8.toList := by
  have ending := ending_render files time file json verbose
  simp only [run, asked] at ended ⊢
  split
  next there =>
    rw [if_pos there] at ended
    generalize render files time file json verbose = rendered at ending ended
    cases ending with
    | @unread stop refused => cases stop <;> cases ended
    | unrendered => cases ended
    | @printed found entries parsed recorded unasked =>
      refine ⟨found, entries, parsed, recorded, rfl, ⟨_, List.prefix_rfl, ?_⟩, fun _ => rfl, ?_⟩
      · exact congrArg (· ++ _) String.empty_append
      · rw [unasked]
        exact nofun
    | unwritten => cases ended
    | @written found entries path bytes text after parsed recorded asked _ read decoded stored =>
      have first : announcements file found <+:
          announcements file found ++ ["Wrote JSON report to " ++ path] := List.prefix_append _ _
      refine ⟨found, entries, parsed, recorded, rfl, ⟨_, first, ?_⟩, ?_, ?_⟩
      · exact congrArg (· ++ _) String.empty_append
      · rw [asked]
        exact nofun
      · rw [asked]
        rintro _ ⟨⟩
        exact ⟨bytes, text, read, decoded, stored⟩
  next absent =>
    rw [if_neg absent] at ended
    cases ended

/-- For a file that holds a value, a run ends with the code for an error if a document in the value
gives nothing. Otherwise it ends well if a report that was asked for can be written, and fails on a
file if it cannot. -/
theorem Holds.run_cases {value : Json} (held : Holds files file value)
    (asked : parse arguments = .ok (.render file json verbose)) (time : String) :
    ((run arguments files time).exit = .code 1 ∧
        ∃ document ∈ documentsOf value, ¬ ∃ source text, Yields document source text) ∨
      (∀ document ∈ documentsOf value, ∃ source text, Yields document source text) ∧
        ((run arguments files time).exit = .code 0 ∧
            (∀ path, json.filter (· ≠ "") = some path → Writable files path) ∨
          (∃ error, (run arguments files time).exit = .failed error) ∧
            ∃ path, json.filter (· ≠ "") = some path ∧ ¬ Writable files path) := by
  have all : (∀ document ∈ documentsOf value, ∃ source text, Yields document source text) ↔
      ∃ found entries, parseFile files file = .ok found ∧
        List.Forall₂ Recorded found entries := by
    simp only [held.parseFile_eq_ok_iff, exists_recorded_iff]
  have lost : (∃ document ∈ documentsOf value, ¬ ∃ source text, Yields document source text) ↔
      ¬ ∃ found entries, parseFile files file = .ok found ∧
        List.Forall₂ Recorded found entries := by
    simp only [← all, not_forall, exists_prop]
  have ending := ending_render files time file json verbose
  simp only [all, lost, run, asked, held.has, if_true]
  generalize render files time file json verbose = rendered at ending
  cases ending with
  | unread refused =>
    obtain ⟨error, rfl⟩ := held.exists_of_parseFile_eq_error refused
    refine .inl ⟨rfl, ?_⟩
    rintro ⟨found, entries, parsed, -⟩
    exact nomatch refused.symm.trans parsed
  | @unrendered found announced error parsed first lost =>
    refine .inl ⟨rfl, ?_⟩
    rintro ⟨found', entries, parsed', recorded⟩
    cases parsed.symm.trans parsed'
    exact lost ⟨entries, recorded⟩
  | printed parsed recorded unasked =>
    refine .inr ⟨⟨_, _, parsed, recorded⟩, .inl ⟨rfl, ?_⟩⟩
    rw [unasked]
    exact nofun
  | unwritten parsed recorded asked closed =>
    exact .inr ⟨⟨_, _, parsed, recorded⟩, .inr ⟨⟨_, rfl⟩, _, asked, closed⟩⟩
  | written parsed recorded asked writable =>
    refine .inr ⟨⟨_, _, parsed, recorded⟩, .inl ⟨rfl, ?_⟩⟩
    rw [asked]
    rintro _ ⟨⟩
    exact writable

/-- For a file that holds a value, a run ends with the code for an error if a document in the value
gives nothing. -/
theorem Holds.code_one_iff {value : Json} (held : Holds files file value)
    (asked : parse arguments = .ok (.render file json verbose)) :
    (run arguments files time).exit = .code 1 ↔
      ∃ document ∈ documentsOf value, ¬ ∃ source text, Yields document source text := by
  obtain ⟨ended, lost⟩ | ⟨all, others⟩ := held.run_cases asked time
  · exact iff_of_true ended lost
  · have other : (run arguments files time).exit ≠ .code 1 := by
      obtain ⟨ended, -⟩ | ⟨⟨_, ended⟩, -⟩ := others <;> simp [ended]
    exact iff_of_false other fun ⟨document, member, lost⟩ => lost (all document member)

/-- For a file that holds a value, a run ends well if every document in the value gives something
and a report that was asked for can be written. -/
theorem Holds.code_zero_iff {value : Json} (held : Holds files file value)
    (asked : parse arguments = .ok (.render file json verbose)) :
    (run arguments files time).exit = .code 0 ↔
      (∀ document ∈ documentsOf value, ∃ source text, Yields document source text) ∧
        ∀ path, json.filter (· ≠ "") = some path → Writable files path := by
  obtain ⟨ended, document, member, lost⟩ |
    ⟨all, ⟨ended, writable⟩ | ⟨⟨_, ended⟩, path, given, closed⟩⟩ := held.run_cases asked time
  · exact iff_of_false (by simp [ended]) fun whole => lost (whole.1 document member)
  · exact iff_of_true ended ⟨all, writable⟩
  · exact iff_of_false (by simp [ended]) fun whole => closed (whole.2 path given)

/-- The file at a path holds a report whose results have the sources given, in order. -/
def HoldsReport (files : FileStore) (path : String) (sources : List String) : Prop :=
  ∃ value results, Holds files path value ∧
    Json.member? value.members "results" = some (.array results) ∧
    List.Forall₂ (fun result source => Json.member? result.members "source" = some (.text source))
      results sources

/-- Every entry for a function of a file has an effect. -/
theorem effects_ne_nil_of_recorded {entries : List Entry}
    (recorded : List.Forall₂ Recorded found entries) : ∀ entry ∈ entries, entry.effects ≠ [] := by
  induction recorded with
  | nil => exact nofun
  | cons first _ hypothesis =>
    obtain ⟨_, -, created⟩ := first
    exact List.forall_mem_cons.mpr ⟨Entry.effects_ne_nil created, hypothesis⟩

/-- A file that has the text of a report holds its value. -/
theorem holds_of_read {path : String} {digest : Option String}
    (each : ∀ entry ∈ report.entries, entry.effects ≠ [])
    (short : (Decimal.digitsOf report.totalEffects).length ≤ Json.mostDigits)
    (read : files.read path = .ok (report.text reportLayout time digest).toUTF8.toList) :
    Holds files path (report.toJson time digest) := by
  have restorable := Report.restorable_toJson each short time digest
  exact ⟨_, _, read, restorable.textOf_render reportLayout,
    restorable.readChars_render reportLayout⟩

/-- The value of a report has the sources of its entries. -/
theorem Holds.holdsReport {path : String} {digest : Option String}
    (held : Holds files path (report.toJson time digest)) :
    HoldsReport files path (report.entries.map Entry.source) := by
  refine ⟨_, report.entries.map Entry.toJson, held, rfl, ?_⟩
  rw [List.forall₂_map_left_iff, List.forall₂_map_right_iff, List.forall₂_same]
  exact fun _ _ => rfl

/-- A run over a file does all that was asked for or nothing. If it ends with the code for an error,
the files are as before, one message is printed, and otherwise only the first lines of progress; it
ends so for a file that holds documents if one of them gives nothing. If it ends well, the sources
of all documents are printed in order, and a report that was asked for is written; if the number of
its effects can be read, it holds a result with the source of each. A report is not asked for with
an empty path. -/
theorem all_or_nothing (asked : parse arguments = .ok (.render file json verbose))
    (files : FileStore) (time : String) :
    ((run arguments files time).exit = .code 1 →
      (run arguments files time).files = files ∧
      (∃ message, (run arguments files time).errors = errorLine message) ∧
      ∃ announced, (run arguments files time).output = heard verbose announced ∧
        (announced ≠ [] →
          ∃ found, parseFile files file = .ok found ∧ announced <+: announcements file found)) ∧
    ((run arguments files time).exit = .code 0 →
      ∃ value found entries, Holds files file value ∧
        List.Forall₂ (Document.parse · = .ok ·) (documentsOf value) found ∧
        List.Forall₂ Recorded found entries ∧
        (run arguments files time).errors = "" ∧
        (∃ announced, announcements file found <+: announced ∧
          (run arguments files time).output =
            heard verbose announced ++ Text.join "\n" (entries.map Entry.source)) ∧
        (json = none ∨ json = some "" → (run arguments files time).files = files) ∧
        ∀ path, json = some path → path ≠ "" →
          (∃ digest, (run arguments files time).files.read path =
            .ok (Report.text { sourceFile := file, entries } reportLayout time
              digest).toUTF8.toList) ∧
          ((Decimal.digitsOf (Report.totalEffects { sourceFile := file, entries })).length ≤
              Json.mostDigits →
            HoldsReport (run arguments files time).files path (entries.map Entry.source))) ∧
    ∀ value, Holds files file value →
      ((run arguments files time).exit = .code 1 ↔
        ∃ document ∈ documentsOf value, ¬ ∃ source text, Yields document source text) := by
  refine ⟨run_of_code_one asked, fun ended => ?_, fun value held => held.code_one_iff asked⟩
  obtain ⟨found, entries, parsed, recorded, quiet, printed, unasked, stored⟩ :=
    run_of_code_zero asked ended
  obtain ⟨value, held⟩ := exists_holds_of_parseFile parsed
  refine ⟨value, found, entries, held, held.parseFile_eq_ok_iff.mp parsed, recorded, quiet, printed,
    fun none => unasked ?_, fun path given named => ?_⟩
  · rcases none with rfl | rfl <;> rfl
  · obtain ⟨_, text, -, -, read⟩ := stored path (by simp [given, named])
    have each := effects_ne_nil_of_recorded recorded
    exact ⟨⟨_, read⟩, fun short => (holds_of_read each short read).holdsReport⟩

/-- A list with a document for a function and a number in the place of a second document. -/
def secondRefused : Json := .array [.object (Service.contractSent []), .integer 2]

/-- Files of which one holds the list. -/
def refusedFiles : FileStore := ⟨[(["d.json"], .file (secondRefused.render {}).toUTF8.toList)]⟩

/-- A run over these files that was asked for a report in a new directory makes no directory and
prints nothing but a message. -/
theorem all_or_nothing_secondRefused :
    parse ["d.json", "--json", "out/r.json"] = .ok (.render "d.json" (some "out/r.json") false) ∧
      (run ["d.json", "--json", "out/r.json"] refusedFiles "now").exit = .code 1 ∧
      (run ["d.json", "--json", "out/r.json"] refusedFiles "now").files = refusedFiles ∧
      (run ["d.json", "--json", "out/r.json"] refusedFiles "now").output = "" := by
  have asked : parse ["d.json", "--json", "out/r.json"] =
      .ok (.render "d.json" (some "out/r.json") false) := rfl
  have restorable : secondRefused.Restorable := by
    simp [secondRefused, Service.contractSent]
    decide
  have held : Holds refusedFiles "d.json" secondRefused :=
    ⟨_, _, rfl, restorable.textOf_render {}, restorable.readChars_render {}⟩
  have refused : ¬ ∃ source text, Yields (.integer 2) source text := by
    rintro ⟨_, _, _, _, _, parsed, -⟩
    cases parsed
  obtain ⟨failed, -, bad⟩ := all_or_nothing asked refusedFiles "now"
  have ended : (run ["d.json", "--json", "out/r.json"] refusedFiles "now").exit = .code 1 :=
    (bad _ held).mpr ⟨.integer 2, by simp [secondRefused, documentsOf], refused⟩
  obtain ⟨kept, -, announced, printed, -⟩ := failed ended
  exact ⟨asked, ended, kept, printed⟩

end KotlinContract.CommandLine
