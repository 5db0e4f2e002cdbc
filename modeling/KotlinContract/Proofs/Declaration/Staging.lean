import KotlinContract.Proofs.Ascending
import KotlinContract.Proofs.Declaration.Assembly
import Mathlib.Data.String.Basic

/-!
# What a sequence of calls stages

Each call on a draft adds to one of its parts or sets one, so a part of the draft after any sequence
of calls can be read off the sequence (`Draft.assembled_eq`). To add one parameter is to add a list
of one. Building the draft is refused for the names that several parameters have, in ascending order,
and else gives a function that reflects the calls (`build_assembled`). The same function is built
from its own draft; and attaching a contract to it gives what the calls would have built had they
begun with the text of the contract.
-/
namespace KotlinContract

/-- A modifier is declared before another one. -/
def Modifier.Precedes (first second : Modifier) : Prop := all.idxOf first < all.idxOf second

instance (first second : Modifier) : Decidable (first.Precedes second) :=
  inferInstanceAs (Decidable (_ < _))

/-- Arranged modifiers come in the order of their declaration, each once. -/
theorem Modifier.pairwise_arranged (modifiers : List Modifier) :
    (arranged modifiers).Pairwise Precedes := by
  have declared : all.Pairwise Precedes := by decide
  exact declared.filter _

/-- Lists of the same modifiers are arranged alike. -/
theorem Modifier.arranged_eq_of_mem_iff {first second : List Modifier}
    (same : ∀ modifier, modifier ∈ first ↔ modifier ∈ second) :
    arranged first = arranged second := by
  rw [arranged, arranged]
  exact List.filter_congr fun modifier _ => decide_eq_decide.mpr (same modifier)

namespace Declaration

namespace Draft

namespace Call

/-- The modifiers that a call adds. -/
def modifiers : Call → List Modifier
  | .addModifiers modifiers => modifiers
  | _ => []

/-- The parameters that a call adds. -/
def parameters : Call → List Parameter
  | .addParameters parameters => parameters
  | _ => []

/-- The receiver that a call sets or removes. -/
def receivers : Call → List (Option TypeName)
  | .setReceiver receiver => [receiver]
  | _ => []

/-- The result type that a call sets or removes. -/
def results : Call → List (Option TypeName)
  | .setReturns returns => [returns]
  | _ => []

/-- The fragment that a call adds to the body, be it empty or not. A statement ends in a line
feed. -/
def fragments : Call → List String
  | .addCode code => [code]
  | .addStatement statement => [statement ++ "\n"]
  | _ => []

/-- Whether a call adds modifiers. -/
def addsModifiers : Call → Bool
  | .addModifiers _ => true
  | _ => false

end Call

/-- What one call makes of each part of a draft. -/
theorem perform_eq (draft : Draft) (call : Call) :
    draft.perform call =
      { name := draft.name
        parameters := draft.parameters ++ call.parameters
        modifiers := draft.modifiers ++ call.modifiers
        receiver := call.receivers.getLast?.getD draft.receiver
        returns := call.results.getLast?.getD draft.returns
        body := draft.body ++ call.fragments.filter (· ≠ "") } := by
  have added (code : String) :
      draft.addCode code = { draft with body := draft.body ++ [code].filter (· ≠ "") } :=
    foldl_addCode draft [code]
  -- a call touches one part; nothing is added to the others
  cases call <;>
    simp [perform, addModifiers, addParameters, setReceiver, setReturns, addStatement, added,
      Call.modifiers, Call.parameters, Call.receivers, Call.results, Call.fragments]

/-- What calls, one after the other, make of each part of a draft: what they add comes after what
was there, and what they set is what was set last. -/
theorem foldl_perform (draft : Draft) (calls : List Call) :
    calls.foldl perform draft =
      { name := draft.name
        parameters := draft.parameters ++ calls.flatMap Call.parameters
        modifiers := draft.modifiers ++ calls.flatMap Call.modifiers
        receiver := (calls.flatMap Call.receivers).getLast?.getD draft.receiver
        returns := (calls.flatMap Call.results).getLast?.getD draft.returns
        body := draft.body ++ (calls.flatMap Call.fragments).filter (· ≠ "") } := by
  induction calls generalizing draft with
  | nil => simp
  | cons call rest hypothesis =>
    rw [List.foldl_cons, hypothesis, perform_eq]
    simp only [List.flatMap_cons, List.append_assoc, List.filter_append, List.getLast?_append,
      Option.getD_or]

/-- The draft of a function after calls. -/
theorem assembled_eq (name : String) (calls : List Call) :
    assembled name calls =
      { name
        parameters := calls.flatMap Call.parameters
        modifiers := calls.flatMap Call.modifiers
        receiver := (calls.flatMap Call.receivers).getLast?.getD none
        returns := (calls.flatMap Call.results).getLast?.getD none
        body := (calls.flatMap Call.fragments).filter (· ≠ "") } := by
  rw [assembled, foldl_perform]
  simp only [List.nil_append]

/-- What calls add that add no modifiers is not changed by those that do. -/
theorem flatMap_filter_addsModifiers {α : Type} {part : Call → List α}
    (untouched : ∀ modifiers, part (.addModifiers modifiers) = []) (calls : List Call) :
    (calls.filter (!·.addsModifiers)).flatMap part = calls.flatMap part := by
  induction calls with
  | nil => rfl
  | cons call rest hypothesis =>
    cases call with
    | addModifiers modifiers =>
      have here : (Call.addModifiers modifiers :: rest).filter (!·.addsModifiers) =
          rest.filter (!·.addsModifiers) := rfl
      rw [here, hypothesis, List.flatMap_cons, untouched, List.nil_append]
    | _ => rw [List.filter_cons_of_pos rfl, List.flatMap_cons, List.flatMap_cons, hypothesis]

/-- Sequences that differ only in calls that add modifiers assemble drafts that differ only in their
modifiers. -/
theorem assembled_eq_of_filter_eq (name : String) {calls others : List Call}
    (same : others.filter (!·.addsModifiers) = calls.filter (!·.addsModifiers)) :
    assembled name others =
      { assembled name calls with modifiers := others.flatMap Call.modifiers } := by
  have alike {α : Type} {part : Call → List α}
      (untouched : ∀ modifiers, part (.addModifiers modifiers) = []) :
      others.flatMap part = calls.flatMap part := by
    rw [← flatMap_filter_addsModifiers untouched, same, flatMap_filter_addsModifiers untouched]
  have parameters : others.flatMap Call.parameters = calls.flatMap Call.parameters :=
    alike fun _ => rfl
  have receivers : others.flatMap Call.receivers = calls.flatMap Call.receivers :=
    alike fun _ => rfl
  have results : others.flatMap Call.results = calls.flatMap Call.results := alike fun _ => rfl
  have fragments : others.flatMap Call.fragments = calls.flatMap Call.fragments :=
    alike fun _ => rfl
  rw [assembled_eq, assembled_eq, parameters, receivers, results, fragments]

/-- Drafts that differ only in their modifiers, but not in which ones these are, are built alike. -/
theorem build_eq_of_mem_iff (draft : Draft) {first second : List Modifier}
    (same : ∀ modifier, modifier ∈ first ↔ modifier ∈ second) :
    { draft with modifiers := first }.build = { draft with modifiers := second }.build := by
  have names : { draft with modifiers := first }.duplicateNames =
      { draft with modifiers := second }.duplicateNames := rfl
  simp only [build, names, Modifier.arranged_eq_of_mem_iff same]

/-- The names are listed in ascending order, each once. -/
theorem pairwise_duplicateNames (draft : Draft) : draft.duplicateNames.Pairwise (· < ·) :=
  Ascending.pairwise_ofList (List.filter _ _)

/-- Building is refused for the names that several parameters have. -/
theorem build_eq_error_iff {draft : Draft} {error : Error} :
    draft.build = .error error ↔
      draft.duplicateNames ≠ [] ∧ error = .duplicateParameters draft.duplicateNames := by
  rw [build]
  cases draft.duplicateNames with
  | nil => simp
  | cons name rest => simp [eq_comm]

/-- Building is refused at all if several parameters have one name. -/
theorem exists_build_eq_error_iff {draft : Draft} :
    (∃ error, draft.build = .error error) ↔
      ∃ name, (draft.parameters.map Parameter.name).Duplicate name := by
  simp only [build_eq_error_iff, ← mem_duplicateNames]
  constructor
  · rintro ⟨-, some, -⟩
    exact List.exists_mem_of_ne_nil _ some
  · rintro ⟨name, listed⟩
    exact ⟨_, List.ne_nil_of_mem listed, rfl⟩

end Draft

/-- A function has what calls stage for it: the parameters in order; the modifiers, each once and in
the order of their declaration; the receiver and the result type that were set last; and the
fragments of code in order, without the empty ones. -/
structure Reflects (function : Declaration) (name : String) (calls : List Draft.Call) : Prop where
  /-- The name is the one that the draft began with. -/
  name : function.name = name
  /-- The parameters are those that were added. -/
  parameters : function.parameters = calls.flatMap Draft.Call.parameters
  /-- The modifiers are those that were added. -/
  modifiers : ∀ modifier,
    modifier ∈ function.modifiers ↔ modifier ∈ calls.flatMap Draft.Call.modifiers
  /-- They come in the order of their declaration, and so each of them once. -/
  ordered : function.modifiers.Pairwise Modifier.Precedes
  /-- The receiver is the one that was set last. -/
  receiver : function.receiver = (calls.flatMap Draft.Call.receivers).getLast?.getD none
  /-- The result type is the one that was set last. -/
  returns : function.returns = (calls.flatMap Draft.Call.results).getLast?.getD none
  /-- The body consists of the fragments with something in them. -/
  body : function.body = (calls.flatMap Draft.Call.fragments).filter (· ≠ "")
  /-- No fragment of the body is empty. -/
  filled : ∀ code ∈ function.body, code ≠ ""

variable {name : String} {calls : List Draft.Call} {function : Declaration}

/-- A function that was built after calls reflects them. -/
theorem reflects_of_build (built : (Draft.assembled name calls).build = .ok function) :
    function.Reflects name calls := by
  have parts := (Draft.build_eq_ok_iff.mp built).2
  rw [Draft.assembled_eq] at parts
  have modifiers : function.modifiers = Modifier.arranged (calls.flatMap Draft.Call.modifiers) :=
    congrArg Draft.modifiers parts
  have body : function.body = (calls.flatMap Draft.Call.fragments).filter (· ≠ "") :=
    congrArg Draft.body parts
  constructor
  · exact congrArg Draft.name parts
  · exact congrArg Draft.parameters parts
  · intro modifier
    rw [modifiers, Modifier.mem_arranged]
  · rw [modifiers]
    exact Modifier.pairwise_arranged _
  · exact congrArg Draft.receiver parts
  · exact congrArg Draft.returns parts
  · exact body
  · intro code among
    rw [body, List.mem_filter] at among
    exact of_decide_eq_true among.2

/-- A function that was built is built again from its own draft. -/
theorem build_toDraft_of_build {draft : Draft} (built : draft.build = .ok function) :
    function.toDraft.build = .ok function := by
  refine Draft.build_eq_ok_iff.mpr ⟨Draft.nodup_of_build built, ?_⟩
  have ordered : Modifier.arranged function.toDraft.modifiers = function.toDraft.modifiers :=
    Draft.arranged_of_build built
  rw [ordered]

/-- Attaching a contract to a function that was built after calls gives what is built after the same
calls once the text of the contract is added before them. -/
theorem build_of_attach (built : (Draft.assembled name calls).build = .ok function)
    {contract : Contract} {attached : Declaration}
    (accepted : function.attach contract = .ok attached) :
    ∃ text, contract.render function = .ok text ∧
      (Draft.assembled name (.addCode text :: calls)).build = .ok attached := by
  obtain ⟨-, -, text, rendered, rebuilt⟩ := attach_eq_ok_iff.mp accepted
  have visible : text ≠ "" := ne_empty_of_render rendered
  have whole := build_withBlock built (Draft.filled_assembled name calls) visible
  obtain rfl : attached = { function with body := text :: function.body } :=
    Except.ok.inj (rebuilt.symm.trans whole)
  refine ⟨text, rendered, ?_⟩
  have staged : Draft.assembled name (.addCode text :: calls) =
      { Draft.assembled name calls with body := text :: (Draft.assembled name calls).body } := by
    simp [Draft.assembled_eq, Draft.Call.modifiers, Draft.Call.parameters, Draft.Call.receivers,
      Draft.Call.results, Draft.Call.fragments, visible]
  obtain ⟨distinct, parts⟩ := Draft.build_eq_ok_iff.mp built
  rw [staged]
  exact Draft.build_eq_ok_iff.mpr
    ⟨distinct, congrArg (fun draft => { draft with body := text :: draft.body }) parts⟩

/-- What a sequence of calls builds. Building is refused if and only if two of the parameters that
were added have one name; the message lists exactly the names that several of them have, each once
and in ascending order of their code points. Otherwise the function reflects the calls, and it is
built again from its own draft. A function that a contract is attached to reflects the calls with the
text of the contract in front of them, from which it is built as well, and it is built again from its
own draft too. Calls that add modifiers may be left out, repeated or moved as long as the same
modifiers are added: what is built is the same. -/
theorem build_assembled (name : String) (calls : List Draft.Call) :
    ((∃ error, (Draft.assembled name calls).build = .error error) ↔
      ∃ repeated, ((calls.flatMap Draft.Call.parameters).map Parameter.name).Duplicate repeated) ∧
    (∀ error, (Draft.assembled name calls).build = .error error →
      ∃ names, error = .duplicateParameters names ∧
        error.message = "duplicate parameter names: " ++ Text.join ", " names ∧
        names.Pairwise (· < ·) ∧
        ∀ repeated, repeated ∈ names ↔
          ((calls.flatMap Draft.Call.parameters).map Parameter.name).Duplicate repeated) ∧
    (∀ function, (Draft.assembled name calls).build = .ok function →
      function.Reflects name calls ∧ function.toDraft.build = .ok function ∧
      ∀ contract attached, function.attach contract = .ok attached →
        ∃ text, contract.render function = .ok text ∧
          (Draft.assembled name (.addCode text :: calls)).build = .ok attached ∧
          attached.Reflects name (.addCode text :: calls) ∧
          attached.toDraft.build = .ok attached) ∧
    ∀ others : List Draft.Call,
      others.filter (!·.addsModifiers) = calls.filter (!·.addsModifiers) →
      (∀ modifier, modifier ∈ others.flatMap Draft.Call.modifiers ↔
        modifier ∈ calls.flatMap Draft.Call.modifiers) →
      (Draft.assembled name others).build = (Draft.assembled name calls).build := by
  have staged : (Draft.assembled name calls).parameters = calls.flatMap Draft.Call.parameters := by
    rw [Draft.assembled_eq]
  refine ⟨?_, fun error refused => ?_, fun function built => ⟨reflects_of_build built,
    build_toDraft_of_build built, fun contract attached accepted => ?_⟩,
    fun others same alike => ?_⟩
  · rw [Draft.exists_build_eq_error_iff, staged]
  · obtain ⟨-, rfl⟩ := Draft.build_eq_error_iff.mp refused
    refine ⟨_, rfl, rfl, Draft.pairwise_duplicateNames _, fun repeated => ?_⟩
    rw [Draft.mem_duplicateNames, staged]
  · obtain ⟨text, rendered, rebuilt⟩ := build_of_attach built accepted
    exact ⟨text, rendered, rebuilt, reflects_of_build rebuilt, build_toDraft_of_build rebuilt⟩
  · have unmodified : (Draft.assembled name calls).modifiers =
        calls.flatMap Draft.Call.modifiers := by
      rw [Draft.assembled_eq]
    rw [Draft.assembled_eq_of_filter_eq name same,
      Draft.build_eq_of_mem_iff (Draft.assembled name calls) alike, ← unmodified]

/-- A function whose receiver is set and then removed, with modifiers that are added in another order
and one of them twice. Moving these calls and adding that modifier once builds the same function, and
a contract is attached to it. Parameters of two names, each of them given twice, are refused by both
names. -/
theorem build_assembled_modifiersMoved :
    let calls : List Draft.Call :=
      [.addModifiers [.inlined, .isPublic], .setReceiver (some .any), .addStatement "return x",
        .addParameters oneParameter.parameters, .addModifiers [.inlined], .addCode "",
        .setReceiver none]
    let others : List Draft.Call :=
      [.setReceiver (some .any), .addStatement "return x",
        .addParameters oneParameter.parameters, .addCode "", .setReceiver none,
        .addModifiers [.isPublic], .addModifiers [.inlined]]
    let named (name : String) (named : name ≠ "") : Draft.Call :=
      .addParameters [⟨name, .any, [], named⟩]
    let twice : List Draft.Call :=
      [named "y" (by decide), named "x" (by decide), named "y" (by decide), named "x" (by decide)]
    (∃ function attached text, (Draft.assembled "f" calls).build = .ok function ∧
      function.modifiers = [.isPublic, .inlined] ∧ function.receiver = none ∧
      function.Reflects "f" calls ∧ function.toDraft.build = .ok function ∧
      (Draft.assembled "f" others).build = .ok function ∧
      function.attach .argumentGiven = .ok attached ∧
      attached.Reflects "f" (.addCode text :: calls) ∧ attached.toDraft.build = .ok attached) ∧
    ∃ error, (Draft.assembled "f" twice).build = .error error ∧
      error.message = "duplicate parameter names: x, y" ∧
      ∃ repeated, ((twice.flatMap Draft.Call.parameters).map Parameter.name).Duplicate repeated := by
  intro calls others named twice
  obtain ⟨-, -, accepted, moved⟩ := build_assembled "f" calls
  obtain ⟨refused, -⟩ := build_assembled "f" twice
  obtain ⟨function, built⟩ : ∃ function, (Draft.assembled "f" calls).build = .ok function := ⟨_, rfl⟩
  obtain ⟨attached, contracted⟩ : ∃ attached, function.attach .argumentGiven = .ok attached := by
    obtain rfl := Except.ok.inj built
    exact ⟨_, rfl⟩
  obtain ⟨reflects, rebuilt, attachment⟩ := accepted function built
  obtain ⟨text, -, -, again, rebuilt'⟩ := attachment .argumentGiven attached contracted
  have same : (Draft.assembled "f" others).build = (Draft.assembled "f" calls).build := by
    refine moved others rfl fun modifier => ?_
    cases modifier <;> decide
  have rejected : (Draft.assembled "f" twice).build = .error (.duplicateParameters ["x", "y"]) := rfl
  refine ⟨⟨function, attached, text, built, ?_, ?_, reflects, rebuilt, same.trans built, contracted,
    again, rebuilt'⟩, _, rejected, rfl, refused.mp ⟨_, rejected⟩⟩
  · obtain rfl := Except.ok.inj built
    rfl
  · exact reflects.receiver

end Declaration

end KotlinContract
