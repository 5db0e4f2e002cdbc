import KotlinContract.Proofs.CommandLine.Rendering
import KotlinContract.Proofs.Json.ReadBack

/-!
# Reports that are read back

A report to which functions were added has an entry for each, in order (`addAll_eq_ok_iff`), and its
value can be read back from its text (`restorable_toJson`). An entry that was read back confirms the
contract and the source that it shows, and no text with another digest in the place of one of them
(`readBack_confirms`).
-/
namespace KotlinContract

open Fingerprint (verify)

namespace Report

/-- A function with the contract and the source that are added to a report together. -/
structure Addition where
  /-- The function. -/
  function : Declaration
  /-- Its contract. -/
  contract : Contract
  /-- The source of the function with its contract. -/
  source : String

/-- The entry for what is added. -/
def Addition.entry (addition : Addition) : Except Error Entry :=
  Entry.create addition.function addition.contract addition.source

/-- Make the additions to a report one after the other. -/
def addAll (report : Report) (additions : List Addition) : Except Error Report :=
  additions.foldlM
    (fun report addition => report.add addition.function addition.contract addition.source) report

/-- The value shows the text of a contract and a source. -/
def Shows (result : Json) (contract source : String) : Prop :=
  (∃ inner, Json.member? result.members "contract" = some inner ∧
    Json.member? inner.members "text" = some (.text contract)) ∧
  Json.member? result.members "source" = some (.text source)

/-- The value confirms a contract and a source. A text with another digest in the place of one of
them is noticed in that place and nowhere else. -/
structure Confirms (result : Json) (contract source : String) : Prop where
  /-- All is right with the two texts. -/
  own : verify result contract source = ⟨true, true, true⟩ ∧ (verify result contract source).valid
  /-- Another contract is not confirmed. -/
  otherContract : ∀ other, Digest.hexDigest other ≠ Digest.hexDigest contract →
    verify result other source = ⟨false, true, true⟩ ∧ ¬ (verify result other source).valid
  /-- Another source is not confirmed. -/
  otherSource : ∀ other, Digest.hexDigest other ≠ Digest.hexDigest source →
    verify result contract other = ⟨true, false, true⟩ ∧ ¬ (verify result contract other).valid

/-- An entry compares the digests of its own texts with those of other texts. Its own digests go
together, whatever it is compared with. -/
theorem Entry.verify_toJson (entry : Entry) (contract source : String) :
    verify entry.toJson contract source =
      { contract := Digest.hexDigest entry.contract == Digest.hexDigest contract
        source := Digest.hexDigest entry.source == Digest.hexDigest source
        combined := true } := by
  have combined : Fingerprint.holds entry.fingerprint.toJson.members Fingerprint.combinedKey
      (Fingerprint.combine entry.fingerprint.contract entry.fingerprint.source) = true :=
    beq_self_eq_true _
  exact congrArg (Fingerprint.Verdict.mk _ _) combined

/-- An entry shows its texts. -/
theorem Entry.shows (entry : Entry) : Shows entry.toJson entry.contract entry.source :=
  ⟨⟨_, rfl, rfl⟩, rfl⟩

/-- An entry confirms its texts. -/
theorem Entry.confirms (entry : Entry) : Confirms entry.toJson entry.contract entry.source := by
  constructor
  · simp [Entry.verify_toJson, Fingerprint.Verdict.valid]
  · intro other differs
    have unlike := beq_eq_false_iff_ne.mpr (Ne.symm differs)
    simp [Entry.verify_toJson, Fingerprint.Verdict.valid, unlike]
  · intro other differs
    have unlike := beq_eq_false_iff_ne.mpr (Ne.symm differs)
    simp [Entry.verify_toJson, Fingerprint.Verdict.valid, unlike]

variable {report final : Report} {additions : List Addition} {entries : List Entry}

/-- An addition is made if there is an entry for it, and the entry comes behind those of the
report. -/
theorem add_eq_ok_iff {addition : Addition} :
    report.add addition.function addition.contract addition.source = .ok final ↔
      ∃ entry, addition.entry = .ok entry ∧
        final = { report with entries := report.entries ++ [entry] } := by
  rw [add, Chain.bind_eq_ok_iff]
  simp only [Addition.entry, pure, Except.pure, Except.ok.injEq, @eq_comm _ final]

/-- Additions are made if there is an entry for each of them. The entries come behind those of the
report. -/
theorem addAll_eq_ok_iff :
    report.addAll additions = .ok final ↔
      ∃ entries, List.Forall₂ (Addition.entry · = .ok ·) additions entries ∧
        final = { report with entries := report.entries ++ entries } := by
  rw [addAll]
  induction additions generalizing report with
  | nil => simp [pure, Except.pure, eq_comm]
  | cons addition rest hypothesis =>
    rw [List.foldlM_cons, Chain.bind_eq_ok_iff]
    simp only [add_eq_ok_iff, hypothesis, List.forall₂_cons_left_iff]
    constructor
    · rintro ⟨_, ⟨entry, created, rfl⟩, entries, each, rfl⟩
      exact ⟨entry :: entries, ⟨entry, entries, created, each, rfl⟩, by simp⟩
    · rintro ⟨_, ⟨entry, entries, created, each, rfl⟩, rfl⟩
      exact ⟨_, ⟨entry, created, rfl⟩, entries, each, by simp⟩

/-- An entry for a contract has an effect. -/
theorem Entry.effects_ne_nil {function : Declaration} {contract : Contract} {source : String}
    {entry : Entry} (created : Entry.create function contract source = .ok entry) :
    entry.effects ≠ [] := by
  obtain ⟨text, effects, -, each, rfl⟩ := Entry.create_eq_ok_iff.mp created
  have alike := (Chain.mapM_eq_ok_iff_forall₂.mp each).length_eq
  rintro ⟨⟩
  exact contract.nonempty (List.eq_nil_of_length_eq_zero alike)

/-- There are no more entries than effects. -/
theorem length_entries_le (each : ∀ entry ∈ report.entries, entry.effects ≠ []) :
    report.entries.length ≤ report.totalEffects := by
  rw [totalEffects]
  generalize report.entries = entries at each
  induction entries with
  | nil => exact Nat.le_refl _
  | cons entry rest hypothesis =>
    rw [List.forall_mem_cons] at each
    have some := List.length_pos_iff.mpr each.1
    have others := hypothesis each.2
    rw [List.flatMap_cons, List.length_append, List.length_cons]
    omega

/-- Texts can be read back. -/
theorem Entry.restorable_texts (values : List String) : (texts values).Restorable := by
  simp [texts]

/-- The value of an entry can be read back. -/
theorem Entry.restorable_toJson (entry : Entry) : entry.toJson.Restorable := by
  simp [toJson, restorable_texts, Fingerprint.toJson, Fingerprint.key, Fingerprint.contractKey,
    Fingerprint.sourceKey, Fingerprint.combinedKey]

/-- The value of a report can be read back if the number of its effects does not have too many
digits. -/
theorem restorable_toJson (each : ∀ entry ∈ report.entries, entry.effects ≠ [])
    (short : (Decimal.digitsOf report.totalEffects).length ≤ Json.mostDigits) (time : String)
    (digest : Option String) : (report.toJson time digest).Restorable := by
  have fewer : (Decimal.digitsOf report.entries.length).length ≤ Json.mostDigits := by
    rw [Decimal.digitsOf, Nat.length_toDigits_le_iff (by decide) (by decide)] at short ⊢
    exact Nat.lt_of_le_of_lt (length_entries_le each) short
  have stored : (optionalText digest).Restorable := by
    cases digest <;> simp [optionalText]
  simp [toJson, short, fewer, stored, Entry.restorable_toJson]

/-- The text of a report to which functions were added is read back in any layout as the value of
the report. Its results are the entries for what was added, in order; each shows its contract and
its source and confirms them, and notices any text with another digest in the place of one. No
number is read that has more than `Json.mostDigits` digits, so the number of effects has no more. -/
theorem readBack_confirms {file : String} (added : addAll ⟨file, []⟩ additions = .ok report)
    (short : (Decimal.digitsOf report.totalEffects).length ≤ Json.mostDigits)
    (layout : Json.Layout) (time : String) (digest : Option String) :
    ∃ value results, Json.readChars (report.text layout time digest).toList = .ok value ∧
      value = report.toJson time digest ∧
      Json.member? value.members "results" = some (.array results) ∧
      List.Forall₂ (fun addition result => ∃ entry, addition.entry = .ok entry ∧
        result = entry.toJson ∧ Shows result entry.contract addition.source ∧
        Confirms result entry.contract addition.source) additions results := by
  obtain ⟨entries, each, rfl⟩ := addAll_eq_ok_iff.mp added
  have effects : ∀ entry ∈ entries, entry.effects ≠ [] :=
    Chain.forall_mem_of_mapM_eq_ok (Chain.mapM_eq_ok_iff_forall₂.mpr each)
      fun addition _ entry created => Entry.effects_ne_nil created
  have restorable := restorable_toJson effects short time digest
  refine ⟨_, entries.map Entry.toJson, restorable.readChars_render layout, rfl, rfl, ?_⟩
  rw [List.forall₂_map_right_iff]
  refine each.imp fun addition entry created => ?_
  obtain ⟨_, _, -, -, rfl⟩ := Entry.create_eq_ok_iff.mp created
  exact ⟨_, created, rfl, Entry.shows _, Entry.confirms _⟩

/-- A function with the contract of a given argument, and a source with characters that are written
as escapes. -/
def Addition.escaped : Addition where
  function := .oneParameter
  contract := .argumentGiven
  source := "// \x22\\\t😀\x22\n"

/-- The entry for that function is read back and confirms its contract and its source, and a line
that is put behind the source is noticed. -/
theorem readBack_confirms_escaped :
    ∃ report entry value results, addAll ⟨"d.json", []⟩ [.escaped] = .ok report ∧
      Addition.escaped.entry = .ok entry ∧
      Json.readChars (report.text ⟨some 2⟩ "now" none).toList = .ok value ∧
      Json.member? value.members "results" = some (.array results) ∧
      ∃ result, results = [result] ∧
        (verify result entry.contract Addition.escaped.source).valid ∧
        ¬ (verify result entry.contract (Addition.escaped.source ++ "// edited\n")).valid := by
  have added : addAll ⟨"d.json", []⟩ [.escaped] = .ok _ := rfl
  obtain ⟨value, results, read, -, found, each⟩ :=
    readBack_confirms added (by decide) ⟨some 2⟩ "now" none
  obtain ⟨result, _, ⟨entry, created, -, -, confirms⟩, ⟨⟩, rfl⟩ :=
    List.forall₂_cons_left_iff.mp each
  have edited : Digest.hexDigest (Addition.escaped.source ++ "// edited\n") ≠
      Digest.hexDigest Addition.escaped.source := by decide +kernel
  exact ⟨_, entry, value, _, added, created, read, found, result, rfl, confirms.own.2,
    (confirms.otherSource _ edited).2⟩

end Report

end KotlinContract
