import KotlinContract.Proofs.Contract.NormalForm
import KotlinContract.Proofs.Rendering.Acceptance
import KotlinContract.Proofs.Text.Indentation

/-!
# Contracts attached one after the other

Attaching a contract to a function changes nothing of it but its body, which gets the text of the
contract in front (`Declaration.prefixed_of_attach`). So after any number of contracts the source is
that of the function with their indented blocks behind the header, the last one first
(`Declaration.source_attachAll`). A block ends with a line feed, which is why indentation does not mix
it with the code after it, and each of its lines is indented as a whole unless a name or a constant
of the contract has the end of a line in it.
-/
namespace KotlinContract

open Text (OneLine isBlankLine)

namespace Contract

/-- The lines of a block, without the ends of the lines. -/
def rows (entries : List String) : List String :=
  "kotlin.contracts.contract \x7b" :: (entries.map ("  " ++ ·) ++ ["\x7d"])

/-- A block consists of its lines. -/
theorem block_eq_join_rows (entries : List String) :
    block entries = Text.join "" ((rows entries).map (· ++ "\n")) := by
  rw [rows, List.map_cons, List.map_append, Text.join_empty_cons, Text.join_empty_append,
    List.map_map, block, String.append_assoc]
  rfl

/-- A block ends with a line feed. -/
theorem getLast?_block (entries : List String) :
    (block entries).toList.getLast? = some '\n' := by
  have split : (block entries).toList =
      (opening ++ Text.join "" (entries.map ("  " ++ · ++ "\n"))).toList ++ ['\x7d'] ++ ['\n'] := by
    rw [block, String.toList_append, List.append_assoc]
    rfl
  rw [split, List.getLast?_concat]

/-- The lines of an indented block are those of the block, if each entry is a line that is not
blank. -/
theorem lines_indentBlock_block {entries : List String}
    (each : ∀ entry ∈ entries, OneLine entry ∧ isBlankLine entry.toList = false) :
    Text.lines (Text.indentBlock (block entries)).toList =
      (["  " ++ opening] ++ entries.map ("    " ++ · ++ "\n") ++ ["  " ++ closing]).map
        String.toList := by
  have inside : ∀ row ∈ rows entries, OneLine row := by
    rw [rows, List.forall_mem_cons, List.forall_mem_append, List.forall_mem_map,
      List.forall_mem_singleton]
    have lead : OneLine "  " := by decide
    exact ⟨by decide, fun entry among => lead.append (each entry among).1, by decide⟩
  have visible : ∀ row ∈ rows entries, isBlankLine row.toList = false := by
    rw [rows, List.forall_mem_cons, List.forall_mem_append, List.forall_mem_map,
      List.forall_mem_singleton]
    refine ⟨by decide, fun entry among => ?_, by decide⟩
    rw [String.toList_append, Text.isBlankLine_append, (each entry among).2, Bool.and_false]
  rw [block_eq_join_rows, Text.indentBlock, Text.lines_indent_join (by decide) inside visible]
  simp [rows, Text.indentStep, opening, closing]

/-- Whether a block, after indentation, consists of an opening line, a line with the text of each
effect of the contract in order, four spaces deep, and a closing line. -/
def InLines (function : Declaration) (contract : Contract) (indented : String) : Prop :=
  ∃ entries, contract.effects.mapM (·.render function) = .ok entries ∧
    Text.lines indented.toList =
      (["  " ++ opening] ++ entries.map ("    " ++ · ++ "\n") ++ ["  " ++ closing]).map
        String.toList

end Contract

/-- The text of an effect with words and tokens on one line each is not blank and stands on one
line. -/
theorem Clause.oneLine_text {token : Nat → String} (tokens : ∀ index, OneLine (token index))
    {clause : Clause} (words : ∀ word ∈ clause.words, OneLine word) :
    OneLine (clause.text token) ∧ isBlankLine (clause.text token).toList = false := by
  constructor
  · have given : ∀ mark ∈ marks, OneLine mark := by decide +kernel
    exact composed_text (Text.composable_every (by decide) (by decide)) given tokens words
  · have parenthesis : '(' ∈ (clause.text token).toList := by
      simp [text_eq, TypeName.parenthesized]
    exact List.all_eq_false.mpr ⟨'(', parenthesis, by decide⟩

namespace Declaration

variable {function attached : Declaration} {contract : Contract}

/-- The tokens of a function stand on one line each if its name and those of its parameters do. -/
theorem oneLine_token (named : OneLine function.name)
    (parameters : ∀ parameter ∈ function.parameters, OneLine parameter.name) (index : Nat) :
    OneLine (function.token index) := by
  rw [token]
  split
  · have reference : OneLine "this@" := by decide
    exact reference.append named
  · split
    · rename_i parameter found
      exact parameters parameter (List.mem_of_getElem? found)
    · exact (plain_placeholder index).oneLine

/-- The block of a contract stands in lines if its words and the tokens of the function do. -/
theorem inLines_of_render {block : String} (tokens : ∀ index, OneLine (function.token index))
    (words : ∀ word ∈ contract.words, OneLine word)
    (rendered : contract.render function = .ok block) :
    contract.InLines function (Text.indentBlock block) := by
  obtain ⟨entries, written, rfl⟩ := Contract.render_eq_ok_iff.mp rendered
  refine ⟨entries, written, Contract.lines_indentBlock_block ?_⟩
  refine Chain.forall_mem_of_mapM_eq_ok written fun effect within entry shown => ?_
  obtain ⟨-, rfl⟩ := Effect.render_eq_ok_iff.mp shown
  exact Clause.oneLine_text tokens fun word member =>
    words word (List.mem_flatMap.mpr ⟨effect, within, member⟩)

/-- The second function is the first with more code in front of its body. -/
structure Prefixed (function attached : Declaration) (front : String) : Prop where
  /-- They differ in their bodies only. -/
  same : attached = { function with body := attached.body }
  /-- The code of the second is that of the first behind something else. -/
  code : attached.code = front ++ function.code

/-- The code of a body does not depend on its empty fragments. -/
theorem join_filter_ne_empty (body : List String) :
    Text.join "" (body.filter (· ≠ "")) = Text.join "" body := by
  induction body with
  | nil => rfl
  | cons code rest hypothesis =>
    by_cases empty : code = ""
    · rw [List.filter_cons_of_neg (by simp [empty]), hypothesis, Text.join_empty_cons, empty,
        String.empty_append]
    · rw [List.filter_cons_of_pos (by simp [empty]), Text.join_empty_cons, hypothesis,
        Text.join_empty_cons]

/-- Attaching a contract puts its text in front of the body of the function. -/
theorem prefixed_of_attach (arranged : Modifier.arranged function.modifiers = function.modifiers)
    (accepted : function.attach contract = .ok attached) :
    ∃ block, contract.render function = .ok block ∧ Prefixed function attached block := by
  obtain ⟨-, -, block, rendered, built⟩ := attach_eq_ok_iff.mp accepted
  have parts := (Draft.build_eq_ok_iff.mp built).2
  rw [withBlock_eq] at parts
  obtain ⟨name, parameters, modifiers, receiver, returns, body⟩ := attached
  simp only [toDraft, arranged, Draft.mk.injEq] at parts
  obtain ⟨rfl, rfl, rfl, rfl, rfl, rfl⟩ := parts
  refine ⟨block, rendered, rfl, ?_⟩
  rw [code, join_filter_ne_empty, Text.join_empty_cons]
  rfl

/-- The function with contracts attached one after the other. -/
def attachAll (function : Declaration) (contracts : List Contract) : Except Error Declaration :=
  contracts.foldlM attach function

/-- What is in front of the body of a function does not matter to a contract. -/
theorem Prefixed.render_eq {front : String} (extended : Prefixed function attached front)
    (contract : Contract) : contract.render attached = contract.render function := by
  rw [extended.same]
  rfl

/-- Attaching contracts one after the other puts the text of each in front of those before it. -/
theorem prefixed_of_attachAll {contracts : List Contract}
    (arranged : Modifier.arranged function.modifiers = function.modifiers)
    (accepted : function.attachAll contracts = .ok attached) :
    ∃ blocks, contracts.mapM (·.render function) = .ok blocks ∧
      Prefixed function attached (Text.join "" blocks.reverse) := by
  induction contracts generalizing function with
  | nil =>
    obtain rfl : function = attached := Except.ok.inj accepted
    exact ⟨[], rfl, rfl, (String.empty_append).symm⟩
  | cons contract rest hypothesis =>
    rw [attachAll, List.foldlM_cons, Chain.bind_eq_ok_iff] at accepted
    obtain ⟨middle, first, later⟩ := accepted
    obtain ⟨block, rendered, extended⟩ := prefixed_of_attach arranged first
    have ordered : Modifier.arranged middle.modifiers = middle.modifiers := by
      rw [extended.same, arranged]
    obtain ⟨blocks, others, beyond⟩ := hypothesis ordered later
    simp only [extended.render_eq] at others
    refine ⟨block :: blocks, ?_, ?_, ?_⟩
    · rw [Chain.mapM_eq_ok_iff_forall₂] at others ⊢
      exact .cons rendered others
    · rw [beyond.same, extended.same]
    · rw [beyond.code, extended.code, List.reverse_cons, Text.join_empty_append,
        String.append_assoc]
      rfl

/-- Attaching contracts to a function that was built inserts their blocks, indented, between the
header of its source and the rest, the last one first. If no name and no constant of them has the
end of a line in it, each block consists of an opening line, the lines of the effects and a closing
line. -/
theorem source_attachAll (draft : Draft) (function attached : Declaration)
    (contracts : List Contract) (built : draft.build = .ok function)
    (accepted : function.attachAll contracts = .ok attached) :
    ∃ blocks rest, contracts.mapM (·.render function) = .ok blocks ∧
      function.source = function.header ++ rest ∧
      attached.source =
        function.header ++ Text.join "" (blocks.reverse.map Text.indentBlock) ++ rest ∧
      ((∀ word ∈ function.name :: function.parameters.map Parameter.name ++
          contracts.flatMap Contract.words, OneLine word) →
        List.Forall₂ (fun contract block => contract.InLines function (Text.indentBlock block))
          contracts blocks) := by
  have ordered : Modifier.arranged function.modifiers = function.modifiers := by
    have modifiers := congrArg Draft.modifiers (Draft.build_eq_ok_iff.mp built).2
    change function.modifiers = Modifier.arranged draft.modifiers at modifiers
    rw [modifiers, Modifier.arranged_arranged]
  obtain ⟨blocks, rendered, extended⟩ := prefixed_of_attachAll ordered accepted
  have ended : ∀ block ∈ blocks.reverse, block.toList.getLast? = some '\n' := by
    have own : ∀ block ∈ blocks, block.toList.getLast? = some '\n' := by
      refine Chain.forall_mem_of_mapM_eq_ok rendered fun contract _ block text => ?_
      obtain ⟨entries, -, rfl⟩ := Contract.render_eq_ok_iff.mp text
      exact Contract.getLast?_block entries
    exact fun block member => own block (List.mem_reverse.mp member)
  refine ⟨blocks, Text.indentBlock function.code ++ "\x7d\n", rendered, ?_, ?_, fun oneLine => ?_⟩
  · rw [source, String.append_assoc]
  · have header : attached.header = function.header := by
      rw [extended.same]
      rfl
    rw [source, header, extended.code, Text.indentBlock, Text.indent_join_append ended]
    simp only [String.append_assoc, Text.indentBlock]
    rfl
  · rw [List.cons_append, List.forall_mem_cons, List.forall_mem_append,
      List.forall_mem_map] at oneLine
    obtain ⟨named, parameters, words⟩ := oneLine
    have each := (List.forall₂_and_left _ _).mpr
      ⟨fun contract among => among, Chain.mapM_eq_ok_iff_forall₂.mp rendered⟩
    refine each.imp fun contract block ⟨among, text⟩ => ?_
    exact inLines_of_render (oneLine_token named parameters)
      (fun word member => words word (List.mem_flatMap.mpr ⟨contract, among, member⟩)) text

/-- Two contracts, attached to a function with a body. -/
theorem source_attachAll_twoContracts :
    let function := { oneParameter with modifiers := [.inlined] }
    let contracts := [Contract.argumentGiven, .receiverTested .isNull true]
    ∃ attached blocks rest, function.attachAll contracts = .ok attached ∧
      function.source = function.header ++ rest ∧
      attached.source =
        function.header ++ Text.join "" (blocks.reverse.map Text.indentBlock) ++ rest ∧
      List.Forall₂ (fun contract block => contract.InLines function (Text.indentBlock block))
        contracts blocks := by
  intro function contracts
  obtain ⟨attached, accepted⟩ : ∃ attached, function.attachAll contracts = .ok attached := ⟨_, rfl⟩
  obtain ⟨blocks, rest, -, before, after, lines⟩ :=
    source_attachAll function.toDraft function attached contracts rfl accepted
  exact ⟨attached, blocks, rest, accepted, before, after, lines (by decide)⟩

end Declaration

end KotlinContract
