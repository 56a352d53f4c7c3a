import RefactorAudit.Proofs.Changes.Diff

/-!
# Modified nodes

Whether a pair is modified is decided by the signatures of its nodes, which hold a
text made from their metadata; the reasons come from comparing the fields one by one.
The two agree (`nodeChanges_eq_nil_iff`), since the text determines the metadata. So
the modified pairs are those that have a reason (`Diff.filterMap_modification?`).
-/

namespace RefactorAudit

/-- There is no reason exactly if the nodes say the same. -/
theorem nodeChanges_eq_nil_iff {old new : Node} : nodeChanges old new = [] ↔ old.SameContent new := by
  have hunless : ∀ (same : Prop) [Decidable same] (r : Reason), (if same then [] else [r]) = [] ↔ same := by
    intro same _ r
    by_cases hsame : same <;> simp [hsame]
  obtain ⟨_, kind, text, _, ⟨name, parameters, imports⟩, _, _⟩ := old
  obtain ⟨_, kind', text', _, ⟨name', parameters', imports'⟩, _, _⟩ := new
  simp only [nodeChanges, Node.SameContent, List.append_eq_nil_iff, hunless, Metadata.mk.injEq, and_assoc]

namespace Diff

variable {path : String} {legacy refactored : SyntaxTree} {pairs : NodePairs} {d : Diff}

theorem modification?_eq (old new : Node) :
    modification? old new = if nodeChanges old new = [] then none else some ⟨old, new, nodeChanges old new⟩ := by
  simp only [modification?, Node.isEquivalent_iff, nodeChanges_eq_nil_iff]

/-! ## The pairs of a diff -/

theorem lt_size_of_nodeAt {t : SyntaxTree} {h : Nat} {n : Node} (hn : nodeAt t h = .ok n) : h < t.size := by
  unfold nodeAt at hn
  split at hn
  · next hnode => exact (List.getElem?_eq_some_iff.1 hnode).1
  · cases hn

/-- There is a diff exactly for pairs within the two trees. -/
theorem compute_ok_iff : (∃ d, compute path legacy refactored pairs = .ok d) ↔ PairsWithin legacy refactored pairs := by
  refine ⟨?_, compute_total path⟩
  rintro ⟨d, hd⟩ p hp
  -- all pairs were read, also those that are not modified
  obtain ⟨nodes, hnodes, -⟩ := Chains.bind_eq_ok_iff.1 (compute_eq_ok_iff.1 hd).modified
  obtain ⟨n, -, hn⟩ := Chains.exists_of_mem_results (Chains.forall₂_of_mapM hnodes).flip hp
  obtain ⟨old, hold, hn⟩ := Chains.bind_eq_ok_iff.1 hn
  obtain ⟨new, hnew, -⟩ := Chains.bind_eq_ok_iff.1 hn
  exact ⟨lt_size_of_nodeAt hold, lt_size_of_nodeAt hnew⟩

/-- The nodes that the pairs name, in the order of the pairs. -/
def pairedNodes (legacy refactored : SyntaxTree) (pairs : NodePairs) : List (Node × Node) :=
  pairs.pairs.filterMap fun p => do return (← legacy.node? p.1, ← refactored.node? p.2)

/-- Pairs within the trees all name two nodes, and the modified ones are read off these. -/
theorem modifications_eq (hpairs : PairsWithin legacy refactored pairs) :
    (pairedNodes legacy refactored pairs).map (fun n => (n.1.handle, n.2.handle)) = pairs.pairs ∧
      modifications legacy refactored pairs =
        .ok ((pairedNodes legacy refactored pairs).filterMap fun n => modification? n.1 n.2) := by
  obtain ⟨nodes, hnodes, hok⟩ := modifications_ok hpairs
  have hall : pairedNodes legacy refactored pairs = nodes := by
    refine (Chains.filterMap_eq_of_results hnodes fun p n hread => ?_).trans List.filterMap_some
    rw [hread.1, hread.2]
    rfl
  refine ⟨?_, hall ▸ hok⟩
  rw [hall, eq_comm, ← List.forall₂_eq_eq_eq, List.forall₂_map_right_iff]
  refine hnodes.imp fun p n hread => ?_
  rw [SyntaxTree.handle_of_node? hread.1, SyntaxTree.handle_of_node? hread.2]

theorem Computed.pairsWithin (h : Computed path legacy refactored pairs d) : PairsWithin legacy refactored pairs :=
  compute_ok_iff.1 ⟨d, compute_eq_ok_iff.2 h⟩

theorem Computed.modified_eq (h : Computed path legacy refactored pairs d) :
    d.modified = (pairedNodes legacy refactored pairs).filterMap fun n => modification? n.1 n.2 :=
  Except.ok.inj (h.modified.symm.trans (modifications_eq h.pairsWithin).2)

theorem filterMap_modification? (nodes : List (Node × Node)) :
    (nodes.filterMap fun n => modification? n.1 n.2) =
      (nodes.filter fun n => nodeChanges n.1 n.2 ≠ []).map fun n => ⟨n.1, n.2, nodeChanges n.1 n.2⟩ := by
  induction nodes with
  | nil => rfl
  | cons n rest ih =>
    rw [List.filterMap_cons, modification?_eq, ih, List.filter_cons]
    by_cases hnone : nodeChanges n.1 n.2 = [] <;> simp [hnone]

/-- A diff does not depend on the order of the pairs, except that the modified nodes
stand in that order. -/
theorem compute_of_perm (path : String) {pairs' : NodePairs} (hpairs : PairsWithin legacy refactored pairs)
    (hperm : pairs'.pairs.Perm pairs.pairs) :
    ∃ d d', compute path legacy refactored pairs = .ok d ∧ compute path legacy refactored pairs' = .ok d' ∧
      d'.added = d.added ∧ d'.removed = d.removed ∧ d'.modified.Perm d.modified ∧
      d'.files = d.files ∧ d'.overall = d.overall := by
  have hpairs' : PairsWithin legacy refactored pairs' := fun p hp => hpairs p (hperm.mem_iff.1 hp)
  obtain ⟨d, hd⟩ := compute_total path hpairs
  obtain ⟨d', hd'⟩ := compute_total path hpairs'
  have hcomputed := compute_eq_ok_iff.1 hd
  have hcomputed' := compute_eq_ok_iff.1 hd'
  have hadded : d'.added = d.added := by
    rw [hcomputed.added, hcomputed'.added, funext (Correspondence.isTarget_of_perm hperm)]
  have hremoved : d'.removed = d.removed := by
    rw [hcomputed.removed, hcomputed'.removed, funext (Correspondence.isSource_of_perm hperm)]
  have hmodified : d'.modified.Perm d.modified := by
    rw [hcomputed.modified_eq, hcomputed'.modified_eq]
    exact (hperm.filterMap _).filterMap _
  -- of the modified nodes, the file and the counts tell the number only
  refine ⟨d, d', hd, hd', hadded, hremoved, hmodified, ?_, ?_⟩
  · simp only [hcomputed.files, hcomputed'.files, hadded, hremoved, structuralSummary, hmodified.length_eq]
  · simp only [hcomputed.overall, hcomputed'.overall, hadded, hremoved, hmodified.length_eq]

/-- Two notions of change agree, for all nodes: there is a reason unless the nodes are
equivalent. Hence for all trees and all pairs of their nodes, the modified pairs are
those with a reason, in the order of the pairs, and each lists its reasons. Only pairs
that name no node of their tree have no diff. -/
theorem modified_iff_nodeChanges :
    (∀ old new : Node, nodeChanges old new = [] ↔ old.isEquivalent new = true) ∧
    ∀ (path : String) (legacy refactored : SyntaxTree) (pairs : NodePairs),
      ((∃ d, compute path legacy refactored pairs = .ok d) ↔ PairsWithin legacy refactored pairs) ∧
      ∀ d, compute path legacy refactored pairs = .ok d →
        (pairedNodes legacy refactored pairs).map (fun n => (n.1.handle, n.2.handle)) = pairs.pairs ∧
        d.modified = ((pairedNodes legacy refactored pairs).filter fun n => nodeChanges n.1 n.2 ≠ []).map
          (fun n => ⟨n.1, n.2, nodeChanges n.1 n.2⟩) ∧
        ∀ c ∈ d.modified, c.reasons ≠ [] := by
  refine ⟨fun old new => by rw [nodeChanges_eq_nil_iff, Node.isEquivalent_iff], fun path legacy refactored pairs => ?_⟩
  refine ⟨compute_ok_iff, fun d hd => ?_⟩
  obtain ⟨hpaired, hok⟩ := modifications_eq (compute_ok_iff.1 ⟨d, hd⟩)
  have hmodified : d.modified = _ := Except.ok.inj ((compute_eq_ok_iff.1 hd).modified.symm.trans hok)
  rw [filterMap_modification?] at hmodified
  refine ⟨hpaired, hmodified, fun c hc => ?_⟩
  rw [hmodified] at hc
  obtain ⟨n, hn, rfl⟩ := List.mem_map.1 hc
  simpa using (List.mem_filter.1 hn).2

end Diff

end RefactorAudit
