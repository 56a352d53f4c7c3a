import RefactorAudit.Proofs.Pairing.Hints

/-!
# Only declarations are paired

However numbers are computed, matching runs to its end, and each of its pairs joins
two nodes that declare a name (`run_declared`). A node takes its turn once, and only
free candidates are offered to it, so no pair is ever refused.
-/

namespace RefactorAudit

namespace Similarity

variable {α : Type} [Scalar α] {target r : Node} {s : α}

theorem mem_of_bestFrom (best : Option (Node × α)) (cs : List Node) (h : bestFrom target best cs = some (r, s)) :
    best = some (r, s) ∨ r ∈ cs := by
  induction cs generalizing best with
  | nil => exact .inl h
  | cons c cs ih =>
    have htake : ∀ (better : Prop) [Decidable better] (x : α),
        (if better then some (c, x) else best) = some (r, s) → c = r ∨ best = some (r, s) := by
      intro better _ x hbest
      split at hbest
      · cases hbest
        exact .inl rfl
      · exact .inr hbest
    unfold bestFrom at h
    rcases ih _ h with hbest | hmem
    · rcases htake _ _ hbest with rfl | hbest
      · exact .inr List.mem_cons_self
      · exact .inl hbest
    · exact .inr (List.mem_cons_of_mem _ hmem)

theorem mem_of_best? {cs : List Node} (h : best? target cs = some (r, s)) : r ∈ cs := by
  rcases mem_of_bestFrom none cs h with hnone | hmem
  · exact nomatch hnone
  · exact hmem

end Similarity

namespace Matching

variable {α : Type} [Scalar α] {legacy refactored : SyntaxTree} {m start : NodePairs} {l : Node} {turns : List Node}

/-- A node that is not yet paired stays so, or is paired with a free candidate. -/
theorem matchNode_of_fresh (threshold : α) (candidates : List Node) (hl : l.handle ∉ m.sources) :
    matchNode threshold candidates m l = .ok m ∨
      ∃ r ∈ candidates, ∃ m', matchNode threshold candidates m l = .ok m' ∧
        m'.pairs = m.pairs ++ [(l.handle, r.handle)] := by
  unfold matchNode
  split
  · next r s hbest =>
    split
    · obtain ⟨hr, hfree⟩ := List.mem_filter.1 (Similarity.mem_of_best? hbest)
      have hrt : r.handle ∉ m.targets := by simpa [Correspondence.isTarget] using hfree
      obtain ⟨m', hm', hpairs⟩ := Correspondence.add_ok hl hrt
      exact .inr ⟨r, hr, m', hm', hpairs⟩
    · exact .inl rfl
  · exact .inl rfl

/-- What the turns keep: pairs join declarations, and besides the hinted nodes only
those are paired whose turn it was. -/
structure Fair (legacy refactored : SyntaxTree) (start : NodePairs) (turns : List Node) (m : NodePairs) : Prop where
  declared : ∀ p ∈ m.pairs, JoinsDeclarations legacy refactored p
  sources : ∀ h ∈ m.sources, h ∈ start.sources ∨ ∃ l ∈ turns, l.handle = h

theorem Fair.step (h : Fair legacy refactored start turns m) (threshold : α) (hl : l ∈ legacy.namedNodes)
    (hstart : l.handle ∉ start.sources) (hturns : ∀ l' ∈ turns, l'.handle < l.handle) :
    ∃ m', matchNode threshold refactored.namedNodes m l = .ok m' ∧ Fair legacy refactored start (turns ++ [l]) m' := by
  have hfresh : l.handle ∉ m.sources := by
    intro hmem
    rcases h.sources _ hmem with hhinted | ⟨l', hl', he⟩
    · exact hstart hhinted
    · have := hturns l' hl'
      omega
  have hkept : ∀ h' ∈ m.sources, h' ∈ start.sources ∨ ∃ l' ∈ turns ++ [l], l'.handle = h' := by
    intro h' hh'
    rcases h.sources h' hh' with hhinted | ⟨l', hl', he⟩
    · exact .inl hhinted
    · exact .inr ⟨l', List.mem_append_left _ hl', he⟩
  rcases matchNode_of_fresh threshold refactored.namedNodes hfresh with hm | ⟨r, hr, m', hm', hpairs⟩
  · exact ⟨m, hm, h.declared, hkept⟩
  · refine ⟨m', hm', ?_, ?_⟩
    · intro p hp
      rw [hpairs] at hp
      rcases List.mem_append.1 hp with hp | hp
      · exact h.declared p hp
      · exact ⟨l, SyntaxTree.mem_nodes_of_mem_namedNodes hl, r, SyntaxTree.mem_nodes_of_mem_namedNodes hr,
          List.mem_singleton.1 hp, SyntaxTree.name_ne_none_of_mem_namedNodes hl,
          SyntaxTree.name_ne_none_of_mem_namedNodes hr⟩
    · intro h' hh'
      rw [Correspondence.sources, hpairs, List.map_append] at hh'
      rcases List.mem_append.1 hh' with hh' | hh'
      · exact hkept h' hh'
      · exact .inr ⟨l, by simp, (List.mem_singleton.1 hh').symm⟩

/-- Matching never fails, and pairs declarations only. -/
theorem run_declared (threshold : α) (hints : Hints) (legacy refactored : SyntaxTree) :
    ∃ m, run threshold hints legacy refactored = .ok m ∧ ∀ p ∈ m.pairs, JoinsDeclarations legacy refactored p := by
  obtain ⟨start, hstart, hhinted⟩ := applyHints_ok legacy refactored hints.entries
  let turns := legacy.namedNodes.filter fun l => !start.isSource l.handle
  have hsorted : turns.Pairwise fun a b => a.handle < b.handle := legacy.pairwise_handle_namedNodes.filter _
  obtain ⟨m, hm, hfair⟩ : ∃ m, turns.foldlM (matchNode threshold refactored.namedNodes) start = .ok m ∧
      Fair legacy refactored start turns m := by
    refine Chains.foldlM_ok (P := Fair legacy refactored start) ?_ ?_
    · exact ⟨fun p hp => hhinted.joinsDeclarations hp, fun h hh => .inl hh⟩
    · intro done l rest heq m hfair
      have hl : l ∈ turns := by simp [heq]
      obtain ⟨hnamed, hopen⟩ := List.mem_filter.1 hl
      rw [heq, List.pairwise_append] at hsorted
      refine hfair.step threshold hnamed ?_ fun l' hl' => hsorted.2.2 l' hl' l List.mem_cons_self
      simpa [Correspondence.isSource] using hopen
  refine ⟨m, ?_, hfair.declared⟩
  rw [run, hstart]
  exact hm

end Matching

end RefactorAudit
