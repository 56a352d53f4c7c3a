import RefactorAudit.Changes.Diff
import RefactorAudit.Proofs.Chains
import RefactorAudit.Proofs.LineDiff.Script
import RefactorAudit.Proofs.Pairing.Declared
import RefactorAudit.Proofs.Syntax.Node
import RefactorAudit.Proofs.Syntax.Tree

/-!
# What a diff holds

`Computed` says what each part of a diff is; `compute_eq_ok_iff` ties it to
`Diff.compute`, and later proofs cite its fields. A diff exists for all pairs within
the two trees (`compute_total`). One that counts nothing is `Diff.unchanged`, down to
the text of the file (`Computed.eq_unchanged`), and so is the diff of a tree and
itself (`compute_self`).
-/

namespace RefactorAudit

namespace Diff

/-- The pairs name nodes of the two trees. -/
def PairsWithin (legacy refactored : SyntaxTree) (pairs : NodePairs) : Prop :=
  ∀ p ∈ pairs.pairs, p.1 < legacy.size ∧ p.2 < refactored.size

/-- `d` is the diff of the two trees under the pairs. -/
structure Computed (path : String) (legacy refactored : SyntaxTree) (pairs : NodePairs) (d : Diff) : Prop where
  added : d.added = unmatched refactored.nodes pairs.isTarget (legacy.nodes.map Node.signature)
  removed : d.removed = unmatched legacy.nodes pairs.isSource (refactored.nodes.map Node.signature)
  modified : modifications legacy refactored pairs = .ok d.modified
  overall : d.overall = ⟨d.added.length, d.removed.length, d.modified.length,
    (LineDiff.lineCounts legacy.source refactored.source).added,
    (LineDiff.lineCounts legacy.source refactored.source).removed⟩
  files : d.files = [⟨path, LineDiff.unified path legacy.source refactored.source,
    structuralSummary d.added d.removed d.modified, fileImpact d.added.length d.removed.length d.modified.length,
    (LineDiff.lineCounts legacy.source refactored.source).added,
    (LineDiff.lineCounts legacy.source refactored.source).removed, d.modified.length⟩]

variable {path : String} {legacy refactored t : SyntaxTree} {pairs : NodePairs} {d : Diff}

theorem compute_eq_ok_iff : compute path legacy refactored pairs = .ok d ↔ Computed path legacy refactored pairs d := by
  unfold compute
  constructor
  · intro h
    cases hm : modifications legacy refactored pairs with
    | error e =>
      rw [hm] at h
      exact nomatch h
    | ok modified =>
      rw [hm] at h
      cases h
      exact ⟨rfl, rfl, hm, rfl, rfl⟩
  · rintro ⟨hadded, hremoved, hmodified, hoverall, hfiles⟩
    obtain ⟨added, removed, modified, files, overall⟩ := d
    simp only at hadded hremoved hmodified hoverall hfiles
    subst hadded hremoved hoverall hfiles
    rw [hmodified]
    rfl

/-- Unmatched nodes are not exempt, and none of the others says the same. -/
theorem mem_unmatched {nodes others : List Node} {exempt : Nat → Bool} {n : Node} :
    n ∈ unmatched nodes exempt (others.map Node.signature) ↔
      n ∈ nodes ∧ exempt n.handle = false ∧ ∀ o ∈ others, ¬n.SameContent o := by
  rw [unmatched, List.mem_filter, Bool.and_eq_true, Bool.not_eq_true', Bool.not_eq_true', ← Bool.not_eq_true (List.contains _ _),
    List.contains_iff_mem]
  refine and_congr_right fun _ => and_congr_right fun _ => ?_
  constructor
  · intro hnot o ho hsame
    exact hnot (List.mem_map.2 ⟨o, ho, (Node.signature_eq_iff.2 hsame).symm⟩)
  · intro hall hmem
    obtain ⟨o, ho, heq⟩ := List.mem_map.1 hmem
    exact hall o ho (Node.signature_eq_iff.1 heq.symm)

/-! ## Pairs within the trees have a diff -/

theorem PairsWithin.of_declared (h : ∀ p ∈ pairs.pairs, Matching.JoinsDeclarations legacy refactored p) :
    PairsWithin legacy refactored pairs := by
  intro p hp
  obtain ⟨l, hl, r, hr, rfl, -⟩ := h p hp
  exact ⟨SyntaxTree.handle_lt_size hl, SyntaxTree.handle_lt_size hr⟩

theorem nodeAt_ok {h : Nat} (hlt : h < t.size) : ∃ n, nodeAt t h = .ok n ∧ t.node? h = some n := by
  have hn : t.node? h = some (t.nodes.get ⟨h, hlt⟩) := List.getElem?_eq_getElem hlt
  exact ⟨_, by rw [nodeAt, hn], hn⟩

/-- The modified pairs are read off the pairs of nodes that the handles name. -/
theorem modifications_ok (h : PairsWithin legacy refactored pairs) :
    ∃ nodes : List (Node × Node),
      List.Forall₂ (fun p n => legacy.node? p.1 = some n.1 ∧ refactored.node? p.2 = some n.2) pairs.pairs nodes ∧
      modifications legacy refactored pairs = .ok (nodes.filterMap fun n => modification? n.1 n.2) := by
  have hread : ∀ p ∈ pairs.pairs, ∃ n : Node × Node,
      (do return (← nodeAt legacy p.1, ← nodeAt refactored p.2) : Except NoSuchNode (Node × Node)) = .ok n ∧
        legacy.node? p.1 = some n.1 ∧ refactored.node? p.2 = some n.2 := by
    intro p hp
    obtain ⟨old, hold, hold'⟩ := nodeAt_ok (h p hp).1
    obtain ⟨new, hnew, hnew'⟩ := nodeAt_ok (h p hp).2
    refine ⟨(old, new), ?_, hold', hnew'⟩
    rw [hold, hnew]
    rfl
  obtain ⟨nodes, hnodes, hall⟩ := Chains.mapM_ok hread
  refine ⟨nodes, hall, ?_⟩
  rw [modifications, hnodes]
  rfl

theorem compute_total (path : String) (h : PairsWithin legacy refactored pairs) :
    ∃ d, compute path legacy refactored pairs = .ok d := by
  obtain ⟨nodes, -, hmodified⟩ := modifications_ok h
  rw [compute, hmodified]
  exact ⟨_, rfl⟩

/-! ## No change -/

/-- The diff of a file in which nothing changed. -/
def unchanged (path : String) : Diff :=
  ⟨[], [], [], [⟨path, "", "No structural changes", 0, 0, 0, 0⟩], .zero⟩

/-- A diff all of whose counts are 0 is that of an unchanged file. -/
theorem Computed.eq_unchanged (h : Computed path legacy refactored pairs d) (hempty : d.overall.isEmpty = true) :
    d = unchanged path := by
  obtain ⟨-, -, -, hoverall, hfiles⟩ := h
  obtain ⟨added, removed, modified, files, overall⟩ := d
  simp only at hoverall hfiles hempty
  have hzero : overall = .zero := by simpa [DiffStats.isEmpty] using hempty
  simp only [hzero, DiffStats.zero, DiffStats.mk.injEq] at hoverall
  obtain ⟨hadded, hremoved, hmodified, hin, hout⟩ := hoverall
  obtain rfl : added = [] := List.length_eq_zero_iff.1 (by omega)
  obtain rfl : removed = [] := List.length_eq_zero_iff.1 (by omega)
  obtain rfl : modified = [] := List.length_eq_zero_iff.1 (by omega)
  have hcounts : LineDiff.lineCounts legacy.source refactored.source = ⟨0, 0⟩ :=
    congrArg₂ LineDiff.LineCounts.mk (Int.natCast_eq_zero.1 hin.symm) (Int.natCast_eq_zero.1 hout.symm)
  -- the counts and the text come from different matchers; both see equal lines
  have hlines := (LineDiff.lineCounts_eq_zero_iff _ _).1 hcounts
  rw [hfiles, hzero, hcounts, LineDiff.unified_of_lines_eq path hlines]
  rfl

theorem unmatched_eq_nil {nodes : List Node} {exempt : Nat → Bool} :
    unmatched nodes exempt (nodes.map Node.signature) = [] := by
  rw [unmatched, List.filter_eq_nil_iff]
  intro n hn
  have hknown : (nodes.map Node.signature).contains n.signature = true :=
    List.contains_iff_mem.2 (List.mem_map_of_mem hn)
  rw [hknown]
  simp

theorem modification?_self (n : Node) : modification? n n = none := by
  simp [modification?, Node.isEquivalent]

/-- A tree whose nodes are paired with themselves is unchanged. -/
theorem compute_self (path : String) (h : ∀ p ∈ pairs.pairs, ∃ n ∈ t.nodes, p = (n.handle, n.handle)) :
    compute path t t pairs = .ok (unchanged path) := by
  have hwithin : PairsWithin t t pairs := by
    intro p hp
    obtain ⟨n, hn, rfl⟩ := h p hp
    exact ⟨SyntaxTree.handle_lt_size hn, SyntaxTree.handle_lt_size hn⟩
  obtain ⟨nodes, hall, hmodified⟩ := modifications_ok hwithin
  have hnone : (nodes.filterMap fun n => modification? n.1 n.2) = [] := by
    rw [List.filterMap_eq_nil_iff]
    intro n hn
    obtain ⟨p, hp, hl, hr⟩ := Chains.exists_of_mem_results hall hn
    obtain ⟨m, -, rfl⟩ := h p hp
    rw [Option.some.inj (hl.symm.trans hr)]
    exact modification?_self _
  have hcounts : LineDiff.lineCounts t.source t.source = ⟨0, 0⟩ := (LineDiff.lineCounts_eq_zero_iff _ _).2 rfl
  rw [compute_eq_ok_iff]
  exact ⟨unmatched_eq_nil.symm, unmatched_eq_nil.symm, by rw [hmodified, hnone]; rfl, by rw [hcounts]; rfl, by
    rw [hcounts, LineDiff.unified_of_lines_eq path rfl]; rfl⟩

end Diff

end RefactorAudit
