import KotlinContract.Proofs.Document.Expressions
import KotlinContract.Proofs.Document.Functions
import Mathlib.Data.List.Nodup

/-!
# Effects from documents

An effect that names a parameter to call is built for a function if it says how often and the
parameter is of function type. Every other effect is built if it has a kind, obeys the rule of its
kind, and all nodes of its expressions can be stated (`EffectForm.exists_build_iff`). What is built
mirrors it (`EffectForm.build_eq_ok_iff`).
-/
namespace KotlinContract

/-- Whether a form is that of a function type. -/
def TypeForm.isFunction : TypeForm → Bool
  | .functionForm .. => true
  | _ => false

/-- A type is a function type if it is written as one. -/
theorem TypeForm.isFunction_of_mirrors {form : TypeForm} {type : TypeName}
    (mirrored : form.Mirrors type) : type.isFunction = form.isFunction := by
  cases mirrored <;> rfl

/-- Where the names of the parameters differ, the parameter of a name is the one that has it. -/
theorem Declaration.parameter?_eq_some_iff {function : Declaration}
    (distinct : (function.parameters.map Parameter.name).Nodup) {name : String}
    {parameter : Parameter} :
    function.parameter? name = some parameter ↔
      parameter ∈ function.parameters ∧ parameter.name = name := by
  rw [parameter?]
  constructor
  · intro found
    exact ⟨List.mem_of_find?_eq_some found, by simpa using List.find?_some found⟩
  · rintro ⟨member, rfl⟩
    cases found : function.parameters.find? (·.name = parameter.name) with
    | none => simpa using List.find?_eq_none.mp found parameter member
    | some other =>
      have named : other.name = parameter.name := by simpa using List.find?_some found
      rw [List.inj_on_of_nodup_map distinct (List.mem_of_find?_eq_some found) member named]

/-- A function has a parameter of a name and of function type if one is written. -/
theorem FunctionForm.exists_callable_iff {form : FunctionForm} {function : Declaration}
    (built : form.build = .ok function) {name : String} :
    (∃ parameter, function.parameter? name = some parameter ∧ parameter.type.isFunction = true) ↔
      ∃ parameter ∈ form.parameters, parameter.name = name ∧ parameter.type.isFunction = true := by
  obtain ⟨distinct, mirrored⟩ := build_eq_ok_iff.mp built
  -- only the name and whether the type is a function type decide, and these are kept in order
  have same : form.parameters.map (fun parameter => (parameter.name, parameter.type.isFunction)) =
      function.parameters.map fun parameter => (parameter.name, parameter.type.isFunction) := by
    refine Chain.map_eq_map_of_forall₂ mirrored.parameters fun _ _ alike => ?_
    rw [alike.name, TypeForm.isFunction_of_mirrors alike.type]
  have names : (function.parameters.map Parameter.name).Nodup := by
    rw [names_eq_of_mirrors mirrored.parameters]
    exact distinct
  have declared : (∃ parameter ∈ function.parameters, parameter.name = name ∧
      parameter.type.isFunction = true) ↔ (name, true) ∈ function.parameters.map
        fun parameter => (parameter.name, parameter.type.isFunction) := by simp
  simp only [Declaration.parameter?_eq_some_iff names, and_assoc]
  rw [declared, ← same]
  simp

namespace EffectForm

/-- A form stands for an effect that calls the parameter that it names, as often as it says, or else
for one that has all of its parts. -/
inductive Mirrors : EffectForm → Effect → Prop
  /-- The parameter that is named is called; nothing else is looked at but how often. -/
  | call {form : EffectForm} {name : String} {invocation : InvocationKind}
      (calls : form.calls = some name) (given : form.invocation = some invocation) :
      Mirrors form ⟨.calls (.reference name) invocation, .empty⟩
  /-- Every part of the effect is the one that is written, and nothing is attached to it. -/
  | parts {form : EffectForm} {effect : Effect} (calls : form.calls = none)
      (kind : form.kind = some effect.clause.kind)
      (invocation : form.invocation = effect.clause.invocation?)
      (arguments : List.Forall₂ ExpressionForm.Mirrors form.arguments effect.clause.arguments)
      (conclusion : Option.Rel ExpressionForm.Mirrors form.conclusion effect.clause.conclusion?)
      (untagged : effect.tags = .empty) : Mirrors form effect

/-- The nodes of the expressions of an effect. -/
def nodes (form : EffectForm) : List ExpressionForm :=
  ExpressionForm.nodesAll form.arguments ++ ExpressionForm.nodesAll form.conclusion.toList

/-- An effect can be built for a function with certain parameters. -/
inductive Admissible (parameters : List ParameterForm) : EffectForm → Prop
  /-- It says how often a parameter is called, and the parameter is of function type. -/
  | call {form : EffectForm} {parameter : ParameterForm} (calls : form.calls = some parameter.name)
      (given : form.invocation.isSome = true) (declared : parameter ∈ parameters)
      (callable : parameter.type.isFunction = true) : Admissible parameters form
  /-- It has a kind whose rule it obeys, and every node can be stated. -/
  | parts {form : EffectForm} {kind : EffectKind} (calls : form.calls = none)
      (given : form.kind = some kind)
      (obeyed : kind.rule.Obeyed form.arguments.length form.conclusion.isSome
        form.invocation.isSome)
      (stateable : ∀ node ∈ form.nodes, node.Stateable) : Admissible parameters form

/-- The effect of calling a parameter is built if it says how often and the function has a parameter
of the name, which is of function type. -/
theorem buildCall_eq_ok_iff {function : Declaration} {name : String}
    {invocation : Option InvocationKind} {effect : Effect} :
    buildCall function name invocation = .ok effect ↔
      (∃ parameter, function.parameter? name = some parameter ∧
        parameter.type.isFunction = true) ∧
      ∃ kind, invocation = some kind ∧ effect = ⟨.calls (.reference name) kind, .empty⟩ := by
  cases invocation with
  | none => simp [buildCall]
  | some kind =>
    cases found : function.parameter? name with
    | none => simp [buildCall, found]
    | some parameter =>
      obtain rfl : parameter.name = name := by simpa using List.find?_some found
      cases callable : parameter.type.isFunction with
      | false => simp [buildCall, found, Effect.calling, callable]
      | true =>
        have called : buildCall function parameter.name (some kind) =
            .ok ⟨.calls (.reference parameter.name) kind, .empty⟩ := by
          simp only [buildCall, found, Effect.calling, callable, ↓reduceIte]
          rfl
        rw [called]
        simp [callable, @eq_comm _ effect]

/-- An effect that calls no parameter by its name is built if its parts are and its kind has
them. -/
theorem build_parts_eq_ok_iff {form : EffectForm} {function : Declaration} {effect : Effect}
    (calls : form.calls = none) :
    form.build function = .ok effect ↔
      form.kind = some effect.clause.kind ∧ form.invocation = effect.clause.invocation? ∧
        ExpressionForm.buildAll form.arguments = .ok effect.clause.arguments ∧
        ExpressionForm.buildOption form.conclusion = .ok effect.clause.conclusion? ∧
        Tags.empty = effect.tags := by
  rw [build, calls]
  cases form.kind with
  | none => simp
  | some kind =>
    rw [Effect.Draft.build_after_eq_ok_iff, Option.some.injEq]

/-- An effect that calls no parameter by its name can be built if it has a kind whose rule it obeys,
and every node can be stated. -/
theorem exists_build_parts_iff {form : EffectForm} (function : Declaration)
    (calls : form.calls = none) :
    (∃ effect, form.build function = .ok effect) ↔
      ∃ kind, form.kind = some kind ∧
        kind.rule.Obeyed form.arguments.length form.conclusion.isSome form.invocation.isSome ∧
        ∀ node ∈ form.nodes, node.Stateable := by
  rw [build, calls, nodes]
  cases form.kind with
  | none => simp
  | some kind =>
    rw [List.forall_mem_append, ← ExpressionForm.exists_buildAll_iff,
      ← ExpressionForm.exists_buildOption_iff]
    simp only [Chain.exists_bind_iff, Effect.Draft.exists_build_iff, Option.some.injEq,
      exists_eq_left']
    constructor
    · rintro ⟨_, arguments, _, conclusion, obeyed⟩
      refine ⟨?_, ⟨_, arguments⟩, _, conclusion⟩
      rwa [ExpressionForm.length_of_buildAll arguments,
        ExpressionForm.isSome_of_buildOption conclusion]
    · rintro ⟨obeyed, ⟨_, arguments⟩, _, conclusion⟩
      refine ⟨_, arguments, _, conclusion, ?_⟩
      rwa [← ExpressionForm.length_of_buildAll arguments,
        ← ExpressionForm.isSome_of_buildOption conclusion]

section Function

variable {form : EffectForm} {parent : FunctionForm} {function : Declaration}

/-- An effect is built for a function if it can be. -/
theorem exists_build_iff (built : parent.build = .ok function) :
    (∃ effect, form.build function = .ok effect) ↔ form.Admissible parent.parameters := by
  cases calls : form.calls with
  | some name =>
    simp only [build, calls, buildCall_eq_ok_iff, FunctionForm.exists_callable_iff built]
    constructor
    · rintro ⟨_, ⟨parameter, declared, rfl, callable⟩, kind, given, _⟩
      exact .call calls (by rw [given]; rfl) declared callable
    · intro admissible
      cases admissible with
      | call named given declared callable =>
        obtain ⟨kind, given⟩ := Option.isSome_iff_exists.mp given
        rw [calls, Option.some.injEq] at named
        exact ⟨_, ⟨_, declared, named.symm, callable⟩, kind, given, rfl⟩
      | parts absent => simp [calls] at absent
  | none =>
    rw [exists_build_parts_iff function calls]
    constructor
    · rintro ⟨kind, given, obeyed, stateable⟩
      exact .parts calls given obeyed stateable
    · intro admissible
      cases admissible with
      | call named => simp [calls] at named
      | parts _ given obeyed stateable => exact ⟨_, given, obeyed, stateable⟩

/-- An effect is built for a function if it can be, and what is built mirrors what is written. -/
theorem build_eq_ok_iff (built : parent.build = .ok function) {effect : Effect} :
    form.build function = .ok effect ↔ form.Admissible parent.parameters ∧ form.Mirrors effect := by
  rw [← exists_build_iff built]
  cases calls : form.calls with
  | some name =>
    simp only [build, calls, buildCall_eq_ok_iff]
    constructor
    · rintro ⟨callable, kind, given, rfl⟩
      exact ⟨⟨_, callable, kind, given, rfl⟩, .call calls given⟩
    · rintro ⟨⟨_, callable, -⟩, mirrored⟩
      cases mirrored with
      | call named given =>
        rw [calls, Option.some.injEq] at named
        exact ⟨callable, _, given, by rw [named]⟩
      | parts absent => simp [calls] at absent
  | none =>
    simp only [build_parts_eq_ok_iff calls, ExpressionForm.buildAll_eq_ok_iff_mirrors,
      ExpressionForm.buildOption_eq_ok_iff_mirrors]
    constructor
    · rintro ⟨kind, invocation, ⟨inside, arguments⟩, ⟨implied, conclusion⟩, untagged⟩
      exact ⟨⟨effect, kind, invocation, ⟨inside, arguments⟩, ⟨implied, conclusion⟩, untagged⟩,
        .parts calls kind invocation arguments conclusion untagged.symm⟩
    · rintro ⟨⟨_, -, -, ⟨inside, -⟩, ⟨implied, -⟩, -⟩, mirrored⟩
      cases mirrored with
      | call named => simp [calls] at named
      | parts _ kind invocation arguments conclusion untagged =>
        exact ⟨kind, invocation, ⟨inside, arguments⟩, ⟨implied, conclusion⟩, untagged.symm⟩

end Function

end EffectForm

end KotlinContract
