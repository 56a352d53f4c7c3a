import RefactorAudit.Proofs.Changes.Modified

/-!
# The diff of the change back

Exchanging the two trees and the sides of their pairs turns a diff round
(`compute_swap`): what was added is removed, and each modified pair gives its reasons
from the other side. Within one diff every node has one standing
(`Computed.exists_unique_standing`). It is enough to see this for the refactored tree,
since the legacy tree is the refactored one of the change back.
-/

namespace RefactorAudit

/-! ## Reasons from the other side -/

namespace Reason

/-- The reason for the change back. -/
def reversed : Reason → Reason
  | .kind old new => .kind new old
  | .name old new => .name new old
  | r => r

/-- What a reason is about. -/
def label : Reason → String
  | .kind _ _ => "Type changed"
  | .content => "Content modified"
  | .name _ _ => "Name changed"
  | .parameters => "Parameters changed"
  | .imports => "Imports changed"
  | .stated text => text

/-- What the arrow of a reason leads from and to, if it has one. -/
def arrow? : Reason → Option (String × String)
  | .kind old new => some (old, new)
  | .name old new => some (mention old, mention new)
  | _ => none

theorem text_eq (r : Reason) : r.text = r.arrow?.elim r.label fun ends => s!"{r.label}: {ends.1} -> {ends.2}" := by
  cases r <;> rfl

@[simp] theorem label_reversed (r : Reason) : r.reversed.label = r.label := by
  cases r <;> rfl

@[simp] theorem arrow?_reversed (r : Reason) : r.reversed.arrow? = r.arrow?.map Prod.swap := by
  cases r <;> rfl

/-- A reason and the one for the change back have the same label, and their arrows
lead in opposite directions. -/
theorem text_reversed (r : Reason) :
    r.reversed.text = r.arrow?.elim r.label fun ends => s!"{r.label}: {ends.2} -> {ends.1}" := by
  rw [text_eq, label_reversed, arrow?_reversed]
  cases r.arrow? <;> rfl

end Reason

theorem nodeChanges_comm (old new : Node) : nodeChanges new old = (nodeChanges old new).map Reason.reversed := by
  have hunless : ∀ (same : Prop) [Decidable same] (r : Reason),
      (if same then [] else [r] : List Reason).map Reason.reversed = if same then [] else [r.reversed] := by
    intro same _ r
    split <;> rfl
  simp only [nodeChanges, List.map_append, hunless, Reason.reversed, eq_comm (a := new.kind), eq_comm (a := new.text),
    eq_comm (a := new.metadata.name), eq_comm (a := new.metadata.parameters), eq_comm (a := new.metadata.imports)]

/-- The change back. -/
def ModifiedNode.reversed (c : ModifiedNode) : ModifiedNode := ⟨c.refactored, c.legacy, c.reasons.map Reason.reversed⟩

theorem Node.isEquivalent_comm (a b : Node) : a.isEquivalent b = b.isEquivalent a := Bool.beq_comm

namespace Diff

variable {path : String} {legacy refactored : SyntaxTree} {pairs : NodePairs} {d d' : Diff} {n : Node}

theorem modification?_comm (old new : Node) :
    modification? new old = (modification? old new).map ModifiedNode.reversed := by
  rw [modification?_eq, modification?_eq, nodeChanges_comm old new]
  by_cases hnone : nodeChanges old new = [] <;> simp [hnone, ModifiedNode.reversed]

/-! ## The change back -/

theorem PairsWithin.swap (h : PairsWithin legacy refactored pairs) : PairsWithin refactored legacy pairs.swap := by
  rintro _ hmem
  obtain ⟨p, hp, rfl⟩ := List.mem_map.1 hmem
  exact (h p hp).symm

theorem pairsWithin_swap_iff : PairsWithin refactored legacy pairs.swap ↔ PairsWithin legacy refactored pairs := by
  refine ⟨fun h => ?_, PairsWithin.swap⟩
  have := h.swap
  rwa [Correspondence.swap_swap] at this

theorem pairedNodes_swap (legacy refactored : SyntaxTree) (pairs : NodePairs) :
    pairedNodes refactored legacy pairs.swap = (pairedNodes legacy refactored pairs).map Prod.swap := by
  rw [pairedNodes, pairedNodes, Correspondence.pairs_swap, List.filterMap_map, List.map_filterMap]
  refine List.filterMap_congr fun p _ => ?_
  simp only [Function.comp_apply, Prod.fst_swap, Prod.snd_swap]
  cases legacy.node? p.1 <;> cases refactored.node? p.2 <;> rfl

/-- `d'` tells of the change back from what `d` tells of. -/
structure Exchanged (d d' : Diff) : Prop where
  added : d'.added = d.removed
  removed : d'.removed = d.added
  modified : d'.modified = d.modified.map ModifiedNode.reversed
  nodesAdded : d'.overall.nodesAdded = d.overall.nodesRemoved
  nodesRemoved : d'.overall.nodesRemoved = d.overall.nodesAdded
  nodesModified : d'.overall.nodesModified = d.overall.nodesModified

theorem Computed.exchanged (h : Computed path legacy refactored pairs d)
    (h' : Computed path refactored legacy pairs.swap d') : Exchanged d d' := by
  have hadded : d'.added = d.removed := by
    rw [h'.added, h.removed, funext pairs.isTarget_swap]
  have hremoved : d'.removed = d.added := by
    rw [h'.removed, h.added, funext pairs.isSource_swap]
  have hmodified : d'.modified = d.modified.map ModifiedNode.reversed := by
    rw [h'.modified_eq, h.modified_eq, pairedNodes_swap, List.filterMap_map, List.map_filterMap]
    exact List.filterMap_congr fun n _ => modification?_comm n.1 n.2
  refine ⟨hadded, hremoved, hmodified, ?_, ?_, ?_⟩
  · rw [h'.overall, h.overall, hadded]
  · rw [h'.overall, h.overall, hremoved]
  · rw [h'.overall, h.overall, hmodified, List.length_map]

/-- There is a diff of the change back wherever there is one of the change. -/
theorem compute_swap (h : compute path legacy refactored pairs = .ok d) :
    ∃ d', compute path refactored legacy pairs.swap = .ok d' ∧ Exchanged d d' := by
  obtain ⟨d', hd'⟩ := compute_total path (compute_ok_iff.1 ⟨d, h⟩).swap
  exact ⟨d', hd', (compute_eq_ok_iff.1 h).exchanged (compute_eq_ok_iff.1 hd')⟩

/-! ## Where a node stands -/

/-- What can become of a node. -/
inductive Standing where
  /-- It is in a pair with an equivalent node. -/
  | kept
  /-- It is in a pair with a node that differs. -/
  | modified
  /-- It is in no pair, but the other tree has an equivalent node. -/
  | found
  /-- It is in no pair, and the other tree has nothing like it. -/
  | unmatched
  deriving DecidableEq, Repr

/-- The node has this standing in a diff that lists the nodes of its tree as modified
and as unmatched; `partner?` leads to the handles of the other tree. -/
def Standing.Holds (partner? : Nat → Option Nat) (other : SyntaxTree) (modified unmatched : List Node) (n : Node) :
    Standing → Prop
  | .kept => ∃ handle o, partner? n.handle = some handle ∧ other.node? handle = some o ∧ n.isEquivalent o = true
  | .modified => n ∈ modified
  | .found => partner? n.handle = none ∧ ∃ o ∈ other.nodes, n.isEquivalent o = true
  | .unmatched => n ∈ unmatched

theorem mem_pairedNodes_iff {old new : Node} :
    (old, new) ∈ pairedNodes legacy refactored pairs ↔
      new ∈ refactored.nodes ∧ ∃ handle, pairs.source? new.handle = some handle ∧ legacy.node? handle = some old := by
  have hread : ∀ p : Nat × Nat, (do return (← legacy.node? p.1, ← refactored.node? p.2) : Option (Node × Node)) =
      some (old, new) ↔ legacy.node? p.1 = some old ∧ refactored.node? p.2 = some new := by
    intro p
    cases legacy.node? p.1 <;> cases refactored.node? p.2 <;> simp
  rw [pairedNodes, List.mem_filterMap]
  constructor
  · rintro ⟨p, hp, hnodes⟩
    obtain ⟨hold, hnew⟩ := (hread p).1 hnodes
    have hpair : pairs.source? new.handle = some p.1 := by
      rw [SyntaxTree.handle_of_node? hnew]
      exact Correspondence.source?_eq_some_iff.2 hp
    exact ⟨List.mem_of_getElem? hnew, p.1, hpair, hold⟩
  · rintro ⟨hnew, handle, hsource, hold⟩
    exact ⟨(handle, new.handle), Correspondence.source?_eq_some_iff.1 hsource,
      (hread _).2 ⟨hold, SyntaxTree.node?_handle hnew⟩⟩

section Computed

variable (h : Computed path legacy refactored pairs d)
include h

/-- A node in a pair has its partner in the other tree. -/
theorem Computed.exists_partner {handle : Nat} (hsource : pairs.source? n.handle = some handle) :
    ∃ o, legacy.node? handle = some o := by
  obtain ⟨o, -, ho⟩ := nodeAt_ok (h.pairsWithin _ (Correspondence.source?_eq_some_iff.1 hsource)).1
  exact ⟨o, ho⟩

/-- The modified nodes are those in a pair with a node that differs. -/
theorem Computed.mem_modified_iff :
    n ∈ d.modified.map ModifiedNode.refactored ↔ n ∈ refactored.nodes ∧
      ∃ handle o, pairs.source? n.handle = some handle ∧ legacy.node? handle = some o ∧ n.isEquivalent o = false := by
  have hdiffers : ∀ old new : Node, (modification? old new).map ModifiedNode.refactored = some n ↔
      new = n ∧ n.isEquivalent old = false := by
    intro old new
    rw [modification?, Node.isEquivalent_comm]
    cases hequivalent : new.isEquivalent old with
    | true =>
      simp only [if_true, Option.map_none, reduceCtorEq, false_iff, not_and]
      rintro rfl
      simp [hequivalent]
    | false =>
      simp only [Bool.false_eq_true, if_false, Option.map_some, Option.some.injEq]
      exact ⟨fun heq => ⟨heq, heq ▸ hequivalent⟩, And.left⟩
  rw [h.modified_eq, List.map_filterMap, List.mem_filterMap]
  constructor
  · rintro ⟨⟨old, new⟩, hmem, hmodified⟩
    obtain ⟨rfl, hequivalent⟩ := (hdiffers old new).1 hmodified
    obtain ⟨hnew, handle, hsource, hold⟩ := mem_pairedNodes_iff.1 hmem
    exact ⟨hnew, handle, old, hsource, hold, hequivalent⟩
  · rintro ⟨hnew, handle, old, hsource, hold, hequivalent⟩
    exact ⟨(old, n), mem_pairedNodes_iff.2 ⟨hnew, handle, hsource, hold⟩, (hdiffers old n).2 ⟨rfl, hequivalent⟩⟩

/-- The added nodes are those in no pair for which the other tree has no equivalent. -/
theorem Computed.mem_added_iff :
    n ∈ d.added ↔ n ∈ refactored.nodes ∧ pairs.source? n.handle = none ∧
      ∀ o ∈ legacy.nodes, n.isEquivalent o = false := by
  have hfree : pairs.isTarget n.handle = false ↔ pairs.source? n.handle = none := by
    rw [← Bool.not_eq_true, Correspondence.isTarget_iff, Correspondence.mem_targets_iff, not_not]
  have hdiffers : ∀ o, n.isEquivalent o = false ↔ ¬n.SameContent o := by
    intro o
    rw [← Bool.not_eq_true, Node.isEquivalent_iff]
  rw [h.added, mem_unmatched]
  simp only [hfree, hdiffers]

/-- Each node of the refactored tree has exactly one standing: whether it is in a pair
and whether it has an equivalent decide which. -/
theorem Computed.exists_unique_standing (hn : n ∈ refactored.nodes) :
    ∃! s, Standing.Holds pairs.source? legacy (d.modified.map ModifiedNode.refactored) d.added n s := by
  have hmodified := h.mem_modified_iff (n := n)
  have hadded := h.mem_added_iff (n := n)
  cases hsource : pairs.source? n.handle with
  | none =>
    simp only [hn, hsource, true_and, reduceCtorEq, false_and, exists_false, iff_false] at hmodified hadded
    by_cases hfound : ∃ o ∈ legacy.nodes, n.isEquivalent o = true
    · refine ⟨.found, ⟨hsource, hfound⟩, fun s hs => ?_⟩
      cases s with
      | kept => simp [Standing.Holds, hsource] at hs
      | modified => exact absurd hs hmodified
      | found => rfl
      | unmatched =>
        obtain ⟨o, ho, hequivalent⟩ := hfound
        exact absurd hequivalent (Bool.eq_false_iff.1 (hadded.1 hs o ho))
    · refine ⟨.unmatched, hadded.2 (by simpa using hfound), fun s hs => ?_⟩
      cases s with
      | kept => simp [Standing.Holds, hsource] at hs
      | modified => exact absurd hs hmodified
      | found => exact absurd hs.2 hfound
      | unmatched => rfl
  | some handle =>
    obtain ⟨o, ho⟩ := h.exists_partner hsource
    simp only [hn, hsource, true_and, Option.some.injEq, exists_and_left, exists_eq_left', ho, reduceCtorEq, false_and,
      iff_false] at hmodified hadded
    cases hequivalent : n.isEquivalent o with
    | true =>
      refine ⟨.kept, ⟨handle, o, hsource, ho, hequivalent⟩, fun s hs => ?_⟩
      cases s with
      | kept => rfl
      | modified => simp [Standing.Holds, hmodified, hequivalent] at hs
      | found => simp [Standing.Holds, hsource] at hs
      | unmatched => exact absurd hs hadded
    | false =>
      refine ⟨.modified, hmodified.2 hequivalent, fun s hs => ?_⟩
      cases s with
      | kept => simp [Standing.Holds, hsource, ho, hequivalent] at hs
      | modified => rfl
      | found => simp [Standing.Holds, hsource] at hs
      | unmatched => exact absurd hs hadded

end Computed

/-- Exchanging the two trees, with the pairs reversed in their order, turns the diff
round: added and removed nodes change places, as their numbers do, and the modified
pairs are the same ones from the other side, with the same labels in the same order and
all arrows turned. Pairs that name no node have no diff either way. Within one diff
every node has exactly one standing, in the refactored tree and in the legacy one. -/
theorem compute_exchanges_sides :
    (∀ r : Reason,
      r.text = r.arrow?.elim r.label (fun ends => s!"{r.label}: {ends.1} -> {ends.2}") ∧
      r.reversed.text = r.arrow?.elim r.label fun ends => s!"{r.label}: {ends.2} -> {ends.1}") ∧
    ∀ (path : String) (legacy refactored : SyntaxTree) (pairs : NodePairs),
      Correspondence.empty.addAll (pairs.pairs.map Prod.swap) = .ok pairs.swap ∧
      ((∃ d, compute path legacy refactored pairs = .ok d) ↔ ∃ d', compute path refactored legacy pairs.swap = .ok d') ∧
      ∀ d, compute path legacy refactored pairs = .ok d →
        (∀ d', compute path refactored legacy pairs.swap = .ok d' → Exchanged d d') ∧
        (∀ n ∈ refactored.nodes, ∃! s,
          Standing.Holds pairs.source? legacy (d.modified.map ModifiedNode.refactored) d.added n s) ∧
        ∀ n ∈ legacy.nodes, ∃! s,
          Standing.Holds pairs.target? refactored (d.modified.map ModifiedNode.legacy) d.removed n s := by
  refine ⟨fun r => ⟨r.text_eq, r.text_reversed⟩, fun path legacy refactored pairs => ?_⟩
  refine ⟨pairs.addAll_swap, ?_, fun d hd => ⟨fun d' hd' => ?_, fun n hn => ?_, fun n hn => ?_⟩⟩
  · rw [compute_ok_iff, compute_ok_iff, pairsWithin_swap_iff]
  · exact (compute_eq_ok_iff.1 hd).exchanged (compute_eq_ok_iff.1 hd')
  · exact (compute_eq_ok_iff.1 hd).exists_unique_standing hn
  · -- the legacy tree is the refactored one of the change back
    obtain ⟨d', hd', hexchanged⟩ := compute_swap hd
    have hstanding := (compute_eq_ok_iff.1 hd').exists_unique_standing hn
    rw [funext pairs.source?_swap, hexchanged.modified, hexchanged.added, List.map_map] at hstanding
    exact hstanding

/-- A source of nodes with these kinds and names. -/
def declarations (nodes : List (String × Option String)) : SyntaxTree :=
  .ofNodes "python" "" <| nodes.map fun p => ⟨0, p.1, "", ⟨⟨0, 0⟩, ⟨0, 0⟩⟩, ⟨p.2, [], []⟩, none, []⟩

def beforeMethod : SyntaxTree := declarations [("function", some "f"), ("pass", none), ("pass", none)]

def afterMethod : SyntaxTree := declarations [("pass", none), ("method", none)]

def methodPairs : NodePairs := ⟨[(1, 0), (0, 1)], by decide, by decide⟩

/-- A function becomes a method without a name, beside two equal nodes of which one is
in a pair. -/
theorem compute_exchanges_sides_method :
    ∃ d d', compute "main" beforeMethod afterMethod methodPairs = .ok d ∧
      compute "main" afterMethod beforeMethod methodPairs.swap = .ok d' ∧ Exchanged d d' ∧
      d.modified.map (fun c => c.reasons.map Reason.text) =
        [["Type changed: function -> method", "Name changed: f -> <anonymous>"]] ∧
      (∃! s, Standing.Holds methodPairs.target? afterMethod (d.modified.map ModifiedNode.legacy) d.removed
        (beforeMethod.nodes.get ⟨2, by decide⟩) s) := by
  have hwithin : PairsWithin beforeMethod afterMethod methodPairs := by
    unfold PairsWithin
    decide
  obtain ⟨d, hd⟩ := compute_total "main" hwithin
  obtain ⟨-, hall⟩ := compute_exchanges_sides
  obtain ⟨-, hexists, hspec⟩ := hall "main" beforeMethod afterMethod methodPairs
  obtain ⟨d', hd'⟩ := hexists.1 ⟨d, hd⟩
  obtain ⟨hexchanged, -, hlegacy⟩ := hspec d hd
  refine ⟨d, d', hd, hd', hexchanged d' hd', ?_, hlegacy _ (List.get_mem _ _)⟩
  rw [(compute_eq_ok_iff.1 hd).modified_eq]
  decide +kernel

end Diff

end RefactorAudit
