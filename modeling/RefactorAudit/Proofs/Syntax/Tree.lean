import RefactorAudit.Syntax.Tree

/-!
# Handles and nodes

A handle names the node at its place in the list, and the list is sorted by handle.
-/

namespace RefactorAudit.SyntaxTree

variable {t : SyntaxTree} {n n' : Node} {h : Nat}

theorem handle_of_node? (hn : t.node? h = some n) : n.handle = h := by
  obtain ⟨hlt, rfl⟩ := List.getElem?_eq_some_iff.1 hn
  have hmap : (t.nodes.map Node.handle)[h]? = some (t.nodes[h]).handle := by simp [hlt]
  rw [t.handles_eq, List.getElem?_range hlt] at hmap
  exact (Option.some.inj hmap).symm

theorem node?_handle (hn : n ∈ t.nodes) : t.node? n.handle = some n := by
  obtain ⟨i, hi, rfl⟩ := List.mem_iff_getElem.1 hn
  have hnode : t.node? i = some t.nodes[i] := List.getElem?_eq_getElem hi
  rw [handle_of_node? hnode, hnode]

theorem handle_lt_size (hn : n ∈ t.nodes) : n.handle < t.size :=
  (List.getElem?_eq_some_iff.1 (node?_handle hn)).1

theorem eq_of_handle_eq (hn : n ∈ t.nodes) (hn' : n' ∈ t.nodes) (h : n.handle = n'.handle) : n = n' := by
  have := node?_handle hn
  rw [h, node?_handle hn'] at this
  exact (Option.some.inj this).symm

/-- The nodes stand in the order of their handles. -/
theorem pairwise_handle (t : SyntaxTree) : t.nodes.Pairwise fun a b => a.handle < b.handle := by
  rw [← List.pairwise_map (f := Node.handle) (R := (· < ·)), t.handles_eq]
  exact List.pairwise_lt_range

/-! ## Named nodes -/

theorem mem_nodes_of_mem_namedNodes (hn : n ∈ t.namedNodes) : n ∈ t.nodes := (List.mem_filter.1 hn).1

theorem isNamed_of_mem_namedNodes (hn : n ∈ t.namedNodes) : n.metadata.isNamed = true := (List.mem_filter.1 hn).2

theorem pairwise_handle_namedNodes (t : SyntaxTree) : t.namedNodes.Pairwise fun a b => a.handle < b.handle :=
  t.pairwise_handle.filter _

theorem name_ne_none_of_mem_namedNodes (hn : n ∈ t.namedNodes) : n.metadata.name ≠ none := by
  intro hnone
  have hnamed := isNamed_of_mem_namedNodes hn
  simp [Metadata.isNamed, Metadata.nameText, hnone] at hnamed

theorem mem_nodes_of_findByName? {name : String} (hn : t.findByName? name = some n) : n ∈ t.nodes :=
  List.mem_of_find?_eq_some hn

theorem name_of_findByName? {name : String} (hn : t.findByName? name = some n) : n.metadata.name = some name := by
  simpa using List.find?_some hn

/-- Some node of the tree declares the name. -/
def Declares (t : SyntaxTree) (name : String) : Prop := ∃ n ∈ t.nodes, n.metadata.name = some name

theorem findByName?_eq_none_iff {name : String} : t.findByName? name = none ↔ ¬t.Declares name := by
  simp [findByName?, Declares]

/-- Different names are found at different nodes. -/
theorem name_eq_of_handle_eq {name name' : String} (hn : t.findByName? name = some n)
    (hn' : t.findByName? name' = some n') (h : n.handle = n'.handle) : name = name' := by
  obtain rfl := eq_of_handle_eq (mem_nodes_of_findByName? hn) (mem_nodes_of_findByName? hn') h
  exact Option.some.inj ((name_of_findByName? hn).symm.trans (name_of_findByName? hn'))

end RefactorAudit.SyntaxTree
