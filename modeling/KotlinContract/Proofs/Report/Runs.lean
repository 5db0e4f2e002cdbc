import KotlinContract.Proofs.Report.Integrity

/-!
# Runs of additions to a report

Additions are made to a report that stays at hand when one of them is refused. Whatever is done to
the report before the refusal stays done, so that a refused addition leaves the report alone has to
be shown (`attempt_eq`). By induction on the additions, a report after any run has an entry for each
one that was not refused, in their order (`attemptAll_eq`); what is generated from it lists these
entries, counts them and their effects, and each entry agrees with itself (`attemptAll_generated`).
-/
namespace KotlinContract

open Fingerprint (verify)

namespace Report

/-- A computation with a report at hand. If it is refused, what it did to the report stays done. -/
abbrev Recording (α : Type) : Type := ExceptT Error (StateM Report) α

/-- Make an addition to the report at hand: render the contract, then each of its effects, and put
an entry behind the others. -/
def record (addition : Addition) : Recording Unit := do
  let text ← MonadExcept.ofExcept (addition.contract.render addition.function)
  let effects ← MonadExcept.ofExcept (addition.contract.effects.mapM (·.render addition.function))
  modify fun report =>
    { report with
      entries := report.entries ++
        [{ name := addition.function.name
           parameters := addition.function.parameters.map Parameter.name
           modifiers := addition.function.modifiers.map Modifier.keyword
           effects
           contract := text
           source := addition.source }] }

/-- How an addition to a report ends, and the report that is at hand then. -/
def attempt (report : Report) (addition : Addition) : Except Error Unit × Report :=
  ((record addition).run report).run

/-- How additions to a report end, one after the other, whether or not those before were refused,
and the report that is at hand then. -/
def attemptAll (report : Report) : List Addition → List (Except Error Unit) × Report
  | [] => ([], report)
  | addition :: rest =>
    let (outcome, middle) := report.attempt addition
    let (outcomes, final) := attemptAll middle rest
    (outcome :: outcomes, final)

/-- The additions that were not refused. -/
def accepted (additions : List Addition) (outcomes : List (Except Error Unit)) : List Addition :=
  ((additions.zip outcomes).filter (·.2.isOk)).map (·.1)

variable {report later : Report} {addition : Addition} {error : Error}

/-- How an addition ends, whatever report it is made to. -/
def Addition.outcome (addition : Addition) : Except Error Unit := addition.entry.map fun _ => ()

/-- The entry for an addition, if it is not refused. -/
def Addition.entry? (addition : Addition) : Option Entry := addition.entry.toOption

/-- An addition ends as its entry decides, and adds the entry to the report if there is one. -/
theorem attempt_eq (report : Report) (addition : Addition) :
    report.attempt addition =
      (addition.outcome,
        { report with entries := report.entries ++ addition.entry?.toList }) := by
  have unchanged : { report with entries := report.entries ++ [] } = report := by
    rw [List.append_nil]
  rw [attempt, record, Addition.outcome, Addition.entry?, Addition.entry, Entry.create]
  -- the report is touched only after the last step that can be refused
  cases addition.contract.render addition.function with
  | error reason => exact congrArg (Prod.mk (Except.error reason)) unchanged.symm
  | ok text =>
    cases addition.contract.effects.mapM (·.render addition.function) with
    | error reason => exact congrArg (Prod.mk (Except.error reason)) unchanged.symm
    | ok effects => rfl

/-- An addition is refused for what its contract is refused for, and for nothing else. -/
theorem Addition.entry_eq_error_iff :
    addition.entry = .error error ↔
      addition.contract.render addition.function = .error error := by
  rw [entry, Entry.create]
  cases rendered : addition.contract.render addition.function with
  | error reason => simp [bind, Except.bind]
  | ok text =>
    -- where the whole contract is rendered, each effect is
    obtain ⟨effects, each, -⟩ := Contract.render_eq_ok_iff.mp rendered
    rw [each]
    simp [bind, Except.bind, pure, Except.pure]

/-- An addition is refused where its contract is, and leaves the report as it was. -/
theorem attempt_eq_error_iff :
    report.attempt addition = (.error error, later) ↔
      addition.contract.render addition.function = .error error ∧ later = report := by
  rw [attempt_eq, ← Addition.entry_eq_error_iff, Addition.outcome, Addition.entry?]
  cases addition.entry with
  | error reason =>
    have unchanged : { report with entries := report.entries ++ [] } = report := by
      rw [List.append_nil]
    simp only [Except.map, Except.toOption, Option.toList_none, unchanged, Prod.mk.injEq,
      Except.error.injEq, eq_comm]
  | ok entry => simp [Except.map]

/-- An addition that is not refused gives the report that is added to. -/
theorem attempt_eq_ok_iff :
    report.attempt addition = (.ok (), later) ↔
      report.add addition.function addition.contract addition.source = .ok later := by
  rw [attempt_eq, add_eq_ok_iff, Addition.outcome, Addition.entry?]
  cases addition.entry with
  | error reason => simp [Except.map]
  | ok entry => simp [Except.map, Except.toOption, eq_comm]

/-- In a run each addition ends as its entry decides, and the entries that there are come behind
those of the report. -/
theorem attemptAll_eq (report : Report) (additions : List Addition) :
    report.attemptAll additions =
      (additions.map Addition.outcome,
        { report with entries := report.entries ++ additions.filterMap Addition.entry? }) := by
  induction additions generalizing report with
  | nil => simp [attemptAll]
  | cons addition rest hypothesis =>
    rw [attemptAll, attempt_eq]
    dsimp only
    rw [hypothesis, List.append_assoc, List.map_cons]
    have entries : addition.entry?.toList ++ rest.filterMap Addition.entry? =
        (addition :: rest).filterMap Addition.entry? := by
      rw [List.filterMap_cons]
      cases addition.entry? <;> rfl
    rw [entries]

/-- The entries that there are are those of the additions that were not refused, in order. -/
theorem forall₂_accepted (additions : List Addition) :
    List.Forall₂ (Addition.entry · = .ok ·)
      (accepted additions (additions.map Addition.outcome))
      (additions.filterMap Addition.entry?) := by
  induction additions with
  | nil => exact .nil
  | cons addition rest hypothesis =>
    rw [accepted, List.map_cons, List.zip_cons_cons]
    cases created : addition.entry with
    | error error =>
      have refused : addition.outcome.isOk = false := by
        rw [Addition.outcome, created]
        rfl
      have absent : addition.entry? = none := by
        rw [Addition.entry?, created]
        rfl
      rw [List.filterMap_cons_none absent, List.filter_cons_of_neg (by simp [refused])]
      exact hypothesis
    | ok entry =>
      have made : addition.outcome.isOk = true := by
        rw [Addition.outcome, created]
        rfl
      have present : addition.entry? = some entry := by
        rw [Addition.entry?, created]
        rfl
      rw [List.filterMap_cons_some present, List.filter_cons_of_pos (by exact made), List.map_cons]
      exact .cons created hypothesis

/-- A result agrees with itself and with what was added: it lists the texts of the effects in order,
its contract is the block with a line for each of them, and it confirms its own contract and source.
The source is the one that was added. -/
structure Consistent (addition : Addition) (effects : List String) (result : Json) : Prop where
  /-- The effects are rendered for the function. -/
  rendered : addition.contract.effects.mapM (·.render addition.function) = .ok effects
  /-- Their texts are listed. -/
  listed : ∃ inner, Json.member? result.members "contract" = some inner ∧
    Json.member? inner.members "effects" = some (.array (effects.map .text))
  /-- The contract consists of the opening line, a line for each text and the closing line. -/
  shown : Shows result
    (Contract.opening ++ Text.join "" (effects.map ("  " ++ · ++ "\n")) ++ Contract.closing)
    addition.source
  /-- The result is verified with its own contract and source. -/
  verified : ∀ contract source, Shows result contract source →
    (verify result contract source).valid = true

/-- How many effects the contracts of additions have together. -/
def effectCount (additions : List Addition) : Nat :=
  additions.foldr (fun addition others => addition.contract.effects.length + others) 0

/-- A value lists a consistent result for each addition, in order, and says how many there are and
how many effects their contracts have together. -/
structure Generated (value : Json) (additions : List Addition) : Prop where
  /-- There is one result for each addition. -/
  results : ∃ results, Json.member? value.members "results" = some (.array results) ∧
    List.Forall₂ (fun addition result => ∃ effects, Consistent addition effects result)
      additions results
  /-- They are counted, and so are the effects of each contract. -/
  summary : ∃ summary, Json.member? value.members "summary" = some summary ∧
    Json.member? summary.members "total_functions" = some (.integer additions.length) ∧
    Json.member? summary.members "total_effects" = some (.integer (effectCount additions))

/-- The entry for an addition is written as a consistent result. -/
theorem consistent_of_entry {entry : Entry} (created : addition.entry = .ok entry) :
    Consistent addition entry.effects entry.toJson := by
  obtain ⟨text, effects, rendered, each, rfl⟩ := Entry.create_eq_ok_iff.mp created
  obtain ⟨lines, each', whole⟩ := Contract.render_eq_ok_iff.mp rendered
  obtain rfl : lines = effects := Except.ok.inj (each'.symm.trans each)
  subst whole
  refine ⟨each, ⟨_, rfl, rfl⟩, Entry.shows _, fun contract source shown => ?_⟩
  obtain ⟨⟨inner, found, text⟩, own⟩ := shown
  obtain rfl := Option.some.inj found
  obtain rfl := Json.text.inj (Option.some.inj text)
  obtain rfl := Json.text.inj (Option.some.inj own)
  exact (Entry.confirms _).own.2

/-- The entries of additions have the effects of their contracts, each one text. -/
theorem length_effects {additions : List Addition} {entries : List Entry}
    (each : List.Forall₂ (Addition.entry · = .ok ·) additions entries) :
    (entries.flatMap Entry.effects).length = effectCount additions := by
  induction each with
  | nil => rfl
  | @cons addition entry additions entries created _ hypothesis =>
    have alike := (consistent_of_entry created).rendered
    rw [Chain.mapM_eq_ok_iff_forall₂] at alike
    rw [List.flatMap_cons, List.length_append, hypothesis, ← alike.length_eq, effectCount,
      effectCount, List.foldr_cons]

/-- What is generated from a report with the entries of additions. -/
theorem generated_of_entries {additions : List Addition}
    (each : List.Forall₂ (Addition.entry · = .ok ·) additions report.entries) (time : String)
    (digest : Option String) : Generated (report.toJson time digest) additions where
  results := by
    refine ⟨report.entries.map Entry.toJson, rfl, ?_⟩
    rw [List.forall₂_map_right_iff]
    exact each.imp fun addition entry created => ⟨entry.effects, consistent_of_entry created⟩
  summary := by
    refine ⟨_, rfl, ?_, ?_⟩
    · rw [each.length_eq]
      rfl
    · rw [← length_effects each]
      rfl

/-- A report over a run of additions any of which may be refused. An addition is refused where its
contract cannot be rendered for its function, and then leaves the report exactly as it was; otherwise
it gives the report that is added to. However the additions of a run end, what is generated
afterwards lists one consistent result for each that was not refused, in order, and no other; and it
counts these additions and the effects of their contracts. -/
theorem attemptAll_generated (file : String) (additions : List Addition) :
    (∀ (report later : Report) (addition : Addition) (error : Error),
      report.attempt addition = (.error error, later) ↔
        addition.contract.render addition.function = .error error ∧ later = report) ∧
    (∀ (report later : Report) (addition : Addition),
      report.attempt addition = (.ok (), later) ↔
        report.add addition.function addition.contract addition.source = .ok later) ∧
    ∃ outcomes final, attemptAll ⟨file, []⟩ additions = (outcomes, final) ∧
      outcomes = additions.map Addition.outcome ∧
      ∀ time digest, Generated (final.toJson time digest) (accepted additions outcomes) := by
  refine ⟨fun _ _ _ _ => attempt_eq_error_iff, fun _ _ _ => attempt_eq_ok_iff, _, _,
    attemptAll_eq _ _, rfl, ?_⟩
  have each := forall₂_accepted additions
  exact generated_of_entries each

/-- Three additions of which the second is refused, since its contract speaks about a parameter that
the function does not have. The other two are listed and counted. -/
theorem attemptAll_generated_secondRefused :
    let lacking : Addition :=
      ⟨{ Declaration.oneParameter with parameters := [] }, .argumentGiven, "fun f() \x7b\n\x7d\n"⟩
    ∃ final, attemptAll ⟨"d.json", []⟩ [.escaped, lacking, .escaped] =
        ([.ok (), .error (.parameterMissing 1 "f" 0), .ok ()], final) ∧
      Generated (final.toJson "now" none) [.escaped, .escaped] ∧
      effectCount [.escaped, .escaped] = 2 := by
  intro lacking
  obtain ⟨-, -, outcomes, final, ran, ended, generated⟩ :=
    attemptAll_generated "d.json" [.escaped, lacking, .escaped]
  have outcomes_eq : outcomes = [.ok (), .error (.parameterMissing 1 "f" 0), .ok ()] := ended
  rw [outcomes_eq] at ran generated
  exact ⟨final, ran, generated "now" none, rfl⟩

end Report

end KotlinContract
