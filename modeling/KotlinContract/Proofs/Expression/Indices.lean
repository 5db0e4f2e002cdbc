import KotlinContract.Contract.Attachment

/-!
# The indices of an expression

Rendering looks at the indices that are written, attaching at those of all nodes. The nodes of a
node are nodes of the whole, and every written index is the index of a node; so whatever has no
missing index among its nodes can be rendered, and so can each of its nodes.
-/
namespace KotlinContract

namespace Expression

/-- The nodes of several expressions are those of each. -/
theorem nodesAll_eq_flatMap (expressions : List Expression) :
    nodesAll expressions = expressions.flatMap nodes := by
  induction expressions with
  | nil => rfl
  | cons expression rest hypothesis => rw [nodesAll, hypothesis, List.flatMap_cons]

/-- The nodes of an expression are the expression and those of what is joined to it. -/
theorem nodes_eq (expression : Expression) :
    expression.nodes =
      expression :: (expression.conjuncts.flatMap nodes ++ expression.disjuncts.flatMap nodes) := by
  obtain ⟨proposition, negated, conjuncts, disjuncts, tags⟩ := expression
  rw [nodes, nodesAll_eq_flatMap, nodesAll_eq_flatMap, List.cons_append]

/-- An expression is a node of itself. -/
theorem mem_nodes_self (expression : Expression) : expression ∈ expression.nodes := by
  rw [nodes_eq]
  exact List.mem_cons_self

mutual

/-- The nodes of a node are nodes of the whole. -/
theorem nodes_trans {inner : Expression} : ∀ {whole node : Expression},
    node ∈ whole.nodes → inner ∈ node.nodes → inner ∈ whole.nodes
  | ⟨proposition, negated, conjuncts, disjuncts, tags⟩, node, outer, member => by
    rw [nodes, List.cons_append, List.mem_cons, List.mem_append] at outer
    rcases outer with rfl | among | among
    · exact member
    · rw [nodes, List.cons_append]
      exact List.mem_cons_of_mem _ (List.mem_append_left _ (nodesAll_trans among member))
    · rw [nodes, List.cons_append]
      exact List.mem_cons_of_mem _ (List.mem_append_right _ (nodesAll_trans among member))

/-- The nodes of a node of several expressions are nodes of these. -/
theorem nodesAll_trans {inner : Expression} : ∀ {expressions : List Expression} {node : Expression},
    node ∈ nodesAll expressions → inner ∈ node.nodes → inner ∈ nodesAll expressions
  | [], node, outer, _ => by simp [nodesAll] at outer
  | first :: rest, node, outer, member => by
    rw [nodesAll, List.mem_append] at outer ⊢
    exact outer.imp (nodes_trans · member) (nodesAll_trans · member)

end

/-- An index is among those of an expression if it is the index of a node. -/
theorem mem_indices {expression : Expression} {index : Nat} :
    index ∈ expression.indices ↔ ∃ node ∈ expression.nodes, node.index? = some index :=
  List.mem_filterMap

/-- The indices of a node are indices of the whole. -/
theorem mem_indices_of_node {whole node : Expression} {index : Nat} (outer : node ∈ whole.nodes)
    (member : index ∈ node.indices) : index ∈ whole.indices := by
  obtain ⟨inner, within, found⟩ := mem_indices.mp member
  exact mem_indices.mpr ⟨inner, nodes_trans outer within, found⟩

mutual

/-- A written index is the index of a node. -/
theorem mem_indices_of_mem_rendered {index : Nat} : ∀ {expression : Expression},
    index ∈ expression.rendered → index ∈ expression.indices
  | ⟨.bare constant, negated, conjuncts, disjuncts, tags⟩, member => by
    simp [rendered] at member
  | ⟨.about own test, negated, conjuncts, disjuncts, tags⟩, member => by
    rw [rendered, List.cons_append, List.mem_cons, List.mem_append] at member
    rw [mem_indices, nodes, List.cons_append]
    rcases member with rfl | among | among
    · exact ⟨_, List.mem_cons_self, rfl⟩
    · obtain ⟨node, within, found⟩ := exists_node_of_mem_renderedAll among
      exact ⟨node, List.mem_cons_of_mem _ (List.mem_append_left _ within), found⟩
    · obtain ⟨node, within, found⟩ := exists_node_of_mem_renderedAll among
      exact ⟨node, List.mem_cons_of_mem _ (List.mem_append_right _ within), found⟩

/-- A written index of several expressions is the index of a node of these. -/
theorem exists_node_of_mem_renderedAll {index : Nat} : ∀ {expressions : List Expression},
    index ∈ renderedAll expressions → ∃ node ∈ nodesAll expressions, node.index? = some index
  | [], member => by simp [renderedAll] at member
  | first :: rest, member => by
    rw [renderedAll, List.mem_append] at member
    rcases member with here | later
    · obtain ⟨node, within, found⟩ := mem_indices.mp (mem_indices_of_mem_rendered here)
      exact ⟨node, List.mem_append_left _ within, found⟩
    · obtain ⟨node, within, found⟩ := exists_node_of_mem_renderedAll later
      exact ⟨node, List.mem_append_right _ within, found⟩

end

end Expression

namespace Declaration

variable {function : Declaration}

/-- The indices are granted if the function has a parameter for each. -/
theorem requireParameters_eq_ok {indices : List Nat} :
    function.requireParameters indices = .ok () ↔
      ∀ index ∈ indices, index ≤ function.parameters.length := by
  rw [requireParameters]
  split
  · rename_i index found
    refine iff_of_false (by simp) fun all => ?_
    have beyond : function.parameters.length < index := by simpa using List.find?_some found
    exact Nat.not_lt.mpr (all index (List.mem_of_find?_eq_some found)) beyond
  · rename_i absent
    refine iff_of_true rfl fun index member => ?_
    simpa using List.find?_eq_none.mp absent index member

/-- A refusal names one of the indices that the function does not have. -/
theorem exists_of_requireParameters_eq_error {indices : List Nat} {error : Error}
    (refused : function.requireParameters indices = .error error) :
    ∃ index ∈ indices, function.parameters.length < index ∧ error = function.missing index := by
  rw [requireParameters] at refused
  split at refused
  · rename_i index found
    cases refused
    have beyond : function.parameters.length < index := by simpa using List.find?_some found
    exact ⟨index, List.mem_of_find?_eq_some found, beyond, rfl⟩
  · contradiction

end Declaration

end KotlinContract
