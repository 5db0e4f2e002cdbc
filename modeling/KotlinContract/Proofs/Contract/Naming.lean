import KotlinContract.Proofs.Contract.Template
import KotlinContract.Proofs.Declaration.Assembly

/-!
# Names in the text of a contract

The template of a contract says which tokens its text depends on: those of the parameters that it
speaks about (`Template.spell_congr`). Two functions of one name that give the parameters mentioned
by a contract the same names have the same tokens for them, so the contract is rendered for both and
in the same words (`Contract.render_of_namesAlike`), whatever else they declare.
-/
namespace KotlinContract

/-- The characters of a template depend only on the tokens of the parameters it speaks about. -/
theorem Template.spell_congr {token other : Nat → String} {template : List Piece}
    (alike : ∀ index ∈ parameters template, token index = other index) :
    spell token template = spell other template := by
  induction template with
  | nil => rfl
  | cons piece rest hypothesis =>
    cases piece with
    | literal c =>
      have later := hypothesis alike
      rw [spell_literal, spell_literal, later]
    | parameter index =>
      have here : token index = other index := alike index List.mem_cons_self
      have later := hypothesis fun next member => alike next (List.mem_cons_of_mem index member)
      rw [spell_parameter, spell_parameter, here, later]

/-- The text of a contract depends only on the tokens of the parameters that are written. -/
theorem Contract.text_congr {contract : Contract} {token other : Nat → String}
    (alike : ∀ index ∈ contract.rendered, token index = other index) :
    contract.text token = contract.text other := by
  have spelled :
      Template.spell token contract.template = Template.spell other contract.template := by
    apply Template.spell_congr
    rwa [parameters_template]
  rw [spell_template, spell_template] at spelled
  exact String.toList_injective spelled

namespace Declaration

/-- Two functions have one name, and each value parameter that a contract mentions is declared by
both under the same name. -/
structure NamesAlike (contract : Contract) (function other : Declaration) : Prop where
  /-- The functions have one name. -/
  name : function.name = other.name
  /-- Both declare each mentioned value parameter, under one name. -/
  parameter : ∀ index, contract.Mentions index → 1 ≤ index →
    ∃ here there, function.parameters[index - 1]? = some here ∧
      other.parameters[index - 1]? = some there ∧ here.name = there.name

variable {contract : Contract} {function other : Declaration}

/-- What names a contract alike does so the other way round. -/
theorem NamesAlike.symm (alike : NamesAlike contract function other) :
    NamesAlike contract other function where
  name := alike.name.symm
  parameter index mentioned positive := by
    obtain ⟨here, there, found, counterpart, same⟩ := alike.parameter index mentioned positive
    exact ⟨there, here, counterpart, found, same.symm⟩

/-- A mentioned index has one token for both functions. -/
theorem NamesAlike.token_eq (alike : NamesAlike contract function other) {index : Nat}
    (mentioned : contract.Mentions index) : function.token index = other.token index := by
  by_cases receiver : index = 0
  · rw [token, token, if_pos receiver, if_pos receiver, alike.name]
  · obtain ⟨here, there, found, counterpart, same⟩ :=
      alike.parameter index mentioned (Nat.one_le_iff_ne_zero.mpr receiver)
    rw [token, token, if_neg receiver, if_neg receiver, found, counterpart]
    exact same

/-- A mentioned index is not beyond the parameters. -/
theorem NamesAlike.declared (alike : NamesAlike contract function other) {index : Nat}
    (mentioned : contract.Mentions index) : index ≤ function.parameters.length := by
  by_cases receiver : index = 0
  · omega
  · obtain ⟨here, -, found, -, -⟩ :=
      alike.parameter index mentioned (Nat.one_le_iff_ne_zero.mpr receiver)
    have inside : index - 1 < function.parameters.length :=
      (List.getElem?_eq_some_iff.mp found).1
    omega

/-- Where both functions name the contract alike, it is rendered for both as one text. -/
theorem NamesAlike.exists_render (alike : NamesAlike contract function other) :
    ∃ text, contract.render function = .ok text ∧ contract.render other = .ok text := by
  have tokens : contract.text function.token = contract.text other.token :=
    Contract.text_congr fun index written =>
      alike.token_eq (Contract.mentions_of_mem_rendered written)
  have here : contract.render function = .ok (contract.text function.token) :=
    render_eq_text fun index member =>
      alike.declared (Contract.mem_indices_iff_mentions.mp member)
  have there : contract.render other = .ok (contract.text other.token) :=
    render_eq_text fun index member =>
      alike.symm.declared (Contract.mem_indices_iff_mentions.mp member)
  rw [← tokens] at there
  exact ⟨_, here, there⟩

/-- A function to which a contract is attached and one that begins with parameters of the same names
name the contract alike. -/
theorem namesAlike_of_extended {attached : Declaration}
    (accepted : function.attach contract = .ok attached) (name : function.name = other.name)
    (extended : function.parameters.map Parameter.name <+: other.parameters.map Parameter.name) :
    NamesAlike contract function other where
  name := name
  parameter index mentioned positive := by
    obtain ⟨-, declared, -⟩ := attach_eq_ok_iff.mp accepted
    have inside : index - 1 < function.parameters.length := by
      have bound := declared index (Contract.mem_indices_iff_mentions.mpr mentioned)
      omega
    have longer : function.parameters.length ≤ other.parameters.length := by
      simpa only [List.length_map] using extended.length_le
    have counterpart : index - 1 < other.parameters.length := Nat.lt_of_lt_of_le inside longer
    refine ⟨function.parameters[index - 1], other.parameters[index - 1],
      List.getElem?_eq_getElem inside, List.getElem?_eq_getElem counterpart, ?_⟩
    have same := extended.getElem (by simpa only [List.length_map] using inside)
    simpa only [List.getElem_map] using same

/-- An attached contract stands in front of the body. -/
theorem head?_body_of_attach {attached : Declaration}
    (accepted : function.attach contract = .ok attached) {text : String}
    (rendered : contract.render function = .ok text) : attached.body.head? = some text := by
  obtain ⟨-, -, block, written, built⟩ := attach_eq_ok_iff.mp accepted
  obtain rfl : text = block := Except.ok.inj (rendered.symm.trans written)
  have parts := (Draft.build_eq_ok_iff.mp built).2
  rw [withBlock_eq] at parts
  have body : attached.body = (text :: function.body).filter (· ≠ "") :=
    congrArg Draft.body parts
  rw [body, List.filter_cons_of_pos (by simpa using ne_empty_of_render rendered)]
  rfl

end Declaration

namespace Contract

/-- The text of a contract depends on nothing but the names that it refers to. It is rendered, and in
the same words, for any two functions of one name that both declare each mentioned value parameter
under the same name. So once it is attached to a function, it is rendered in the words that were
attached for every function of that name whose parameters begin with parameters of the same names,
and attaching it there, if that is not refused, puts these words in front of the body: neither
parameters that are added behind the others nor other types, modifiers, receivers, results or bodies
change them. -/
theorem render_of_namesAlike (contract : Contract) (function other : Declaration) :
    (Declaration.NamesAlike contract function other →
      ∃ text, contract.render function = .ok text ∧ contract.render other = .ok text) ∧
    ∀ attached, function.attach contract = .ok attached → function.name = other.name →
      function.parameters.map Parameter.name <+: other.parameters.map Parameter.name →
      ∃ text, contract.render function = .ok text ∧ contract.render other = .ok text ∧
        attached.body.head? = some text ∧
        ∀ changed, other.attach contract = .ok changed → changed.body.head? = some text := by
  refine ⟨fun alike => alike.exists_render, fun attached accepted name extended => ?_⟩
  obtain ⟨text, rendered, same⟩ :=
    (Declaration.namesAlike_of_extended accepted name extended).exists_render
  exact ⟨text, rendered, same, Declaration.head?_body_of_attach accepted rendered,
    fun changed again => Declaration.head?_body_of_attach again same⟩

/-- A function with one parameter, and an inline extension function of the same name whose first
parameter has the same name and another type. A contract about the receiver and that parameter has
the same text for both, also where it is attached. -/
theorem render_of_namesAlike_extension :
    let extension : Declaration :=
      { name := "f"
        parameters := [⟨"x", .string, [], by decide⟩, ⟨"y", .any, [], by decide⟩]
        modifiers := [.inlined]
        receiver := some .any
        returns := some .any
        body := [] }
    Declaration.NamesAlike argumentGiven .oneParameter extension ∧
      ∃ text, argumentGiven.render .oneParameter = .ok text ∧
        argumentGiven.render extension = .ok text ∧
        ∃ attached changed, Declaration.oneParameter.attach argumentGiven = .ok attached ∧
          extension.attach argumentGiven = .ok changed ∧
          attached.body.head? = some text ∧ changed.body.head? = some text := by
  intro extension
  obtain ⟨attached, accepted⟩ :
      ∃ attached, Declaration.oneParameter.attach argumentGiven = .ok attached := ⟨_, rfl⟩
  obtain ⟨changed, again⟩ : ∃ changed, extension.attach argumentGiven = .ok changed := ⟨_, rfl⟩
  have extended : Declaration.oneParameter.parameters.map Parameter.name <+:
      extension.parameters.map Parameter.name := by decide
  have alike : Declaration.NamesAlike argumentGiven .oneParameter extension :=
    Declaration.namesAlike_of_extended accepted rfl extended
  obtain ⟨direct, attachment⟩ := render_of_namesAlike argumentGiven .oneParameter extension
  obtain ⟨text, rendered, same⟩ := direct alike
  obtain ⟨words, own, -, front, others⟩ := attachment attached accepted rfl extended
  obtain rfl : text = words := Except.ok.inj (rendered.symm.trans own)
  exact ⟨alike, text, rendered, same, attached, changed, accepted, again, front,
    others changed again⟩

end Contract

end KotlinContract
