import RefactorAudit.Proofs.Pairing.Matching

/-!
# Matching a tree with itself

If hints send names to themselves only, then pairing all other declarations with
themselves completes the hinted pairs. Since only one outcome does, that is the
outcome, however many declarations look alike (`run_self_pairs`). Without hints it is
the identity (`run_self_identity`).
-/

namespace RefactorAudit.Matching

open Scalar Similarity

/-- Every named node that has no hinted pair, with itself. -/
def identityPairs (t : SyntaxTree) (hinted : List (Nat × Nat)) : List (Nat × Nat) :=
  (t.namedNodes.filter fun n => !(hinted.map Prod.fst).contains n.handle).map fun n => (n.handle, n.handle)

variable {t : SyntaxTree} {hinted : List (Nat × Nat)}

theorem mem_identityPairs {p : Nat × Nat} :
    p ∈ identityPairs t hinted ↔ ∃ n ∈ t.namedNodes, n.handle ∉ hinted.map Prod.fst ∧ p = (n.handle, n.handle) := by
  simp only [identityPairs, List.mem_map, List.mem_filter, Bool.not_eq_true', ← Bool.not_eq_true,
    List.contains_iff_mem]
  constructor
  · rintro ⟨n, ⟨hn, hnot⟩, rfl⟩
    exact ⟨n, hn, by simpa using hnot, rfl⟩
  · rintro ⟨n, hn, hnot, rfl⟩
    exact ⟨n, ⟨hn, by simpa using hnot⟩, rfl⟩

theorem pairwise_identityPairs : (identityPairs t hinted).Pairwise fun p q => p.1 < q.1 :=
  List.pairwise_map.2 (t.pairwise_handle_namedNodes.filter _)

/-- The hinted and the identity pairs share no node. -/
theorem exists_pairs_identityPairs (hnodup : (hinted.map Prod.fst).Nodup) (hself : ∀ p ∈ hinted, p.1 = p.2) :
    ∃ m : NodePairs, m.pairs = hinted ++ identityPairs t hinted := by
  have hsame : (hinted ++ identityPairs t hinted).map Prod.snd = (hinted ++ identityPairs t hinted).map Prod.fst := by
    refine List.map_congr_left fun p hp => ?_
    rcases List.mem_append.1 hp with hp | hp
    · exact (hself p hp).symm
    · obtain ⟨n, -, -, rfl⟩ := mem_identityPairs.1 hp
      rfl
  have hsources : ((hinted ++ identityPairs t hinted).map Prod.fst).Nodup := by
    rw [List.map_append, List.nodup_append]
    refine ⟨hnodup, ?_, ?_⟩
    · exact List.pairwise_map.2 (pairwise_identityPairs.imp Nat.ne_of_lt)
    · rintro a ha b hb rfl
      obtain ⟨p, hp, rfl⟩ := List.mem_map.1 hb
      obtain ⟨n, -, hnot, rfl⟩ := mem_identityPairs.1 hp
      exact hnot ha
  exact ⟨⟨_, hsources, hsame ▸ hsources⟩, rfl⟩

variable {α : Type} [Scalar α] [Exact α] {threshold : α}

/-- Pairing each declaration with itself leaves nothing to wish for: the free ones
before it are gone, and none is more similar. -/
theorem completes_identityPairs (hthreshold : toReal threshold < 1) (hself : ∀ p ∈ hinted, p.1 = p.2) :
    Completes threshold t.namedNodes t.namedNodes hinted (identityPairs t hinted) where
  similar p hp := by
    obtain ⟨n, hn, -, rfl⟩ := mem_identityPairs.1 hp
    refine ⟨n, hn, n, hn, rfl, ?_⟩
    rwa [Exact.lt_iff, toReal_ofNodes_self (SyntaxTree.isNamed_of_mem_namedNodes hn)]
  no_envy l hl r hr r' hr' hmem hpref := by
    obtain ⟨n, hn, -, he⟩ := mem_identityPairs.1 hmem
    obtain ⟨hln, hrn⟩ : l.handle = n.handle ∧ r.handle = n.handle := by simpa using he
    obtain rfl := eq_of_handle_eq t.pairwise_handle_namedNodes hr hl (hrn.trans hln.symm)
    rcases hpref with hlt | ⟨-, hhandle⟩
    · rw [Exact.lt_iff, toReal_ofNodes_self (SyntaxTree.isNamed_of_mem_namedNodes hl)] at hlt
      exact absurd hlt (not_lt.2 (toReal_ofNodes_mem r r').2)
    · by_cases hh : r'.handle ∈ hinted.map Prod.fst
      · obtain ⟨p, hp, hfst⟩ := List.mem_map.1 hh
        exact .inl (List.mem_map.2 ⟨p, hp, (hself p hp).symm.trans hfst⟩)
      · exact .inr ⟨r'.handle, hhandle, mem_identityPairs.2 ⟨r', hr', hh, rfl⟩⟩
  no_missed l hl hnot r _ _ := by
    rw [List.map_append, List.mem_append, not_or] at hnot
    exact absurd (List.mem_map.2 ⟨_, mem_identityPairs.2 ⟨l, hl, hnot.1, rfl⟩, rfl⟩) hnot.2

/-- A tree matched with itself, each hint from a name to itself: all declarations
without a hinted pair are paired with themselves, in pre-order. -/
theorem run_self_pairs (hthreshold : toReal threshold < 1) {hints : Hints}
    (hself : ∀ hint ∈ hints.entries, hint.1 = hint.2) (t : SyntaxTree) :
    ∃ m hinted, run threshold hints t t = .ok m ∧ m.pairs = hinted ++ identityPairs t hinted ∧
      IsHinted t t hints.entries hinted := by
  obtain ⟨m, hinted, greedy, hrun, hm, hhinted, hcomp, horder⟩ := run_ok threshold hints t t
  have hdiag : ∀ p ∈ hinted, p.1 = p.2 := fun p hp => hhinted.source_eq_target hself hp
  have hnodup : (hinted.map Prod.fst).Nodup := by
    have := m.sources_nodup
    rw [hm, List.map_append] at this
    exact this.of_append_left
  obtain ⟨m', hm'⟩ := exists_pairs_identityPairs (t := t) hnodup hdiag
  -- the same pairs in the same order, since each list is sorted by source
  have heq : greedy = identityPairs t hinted := by
    have : Std.Irrefl fun p q : Nat × Nat => p.1 < q.1 := ⟨fun p => lt_irrefl p.1⟩
    have : Std.Antisymm fun p q : Nat × Nat => p.1 < q.1 := ⟨fun p q hlt hgt => absurd hlt hgt.asymm⟩
    exact horder.eq_of_mem_iff pairwise_identityPairs fun p =>
      hcomp.mem_iff hm hm' (completes_identityPairs hthreshold hdiag) p.1 p.2
  exact ⟨m, hinted, hrun, heq ▸ hm, hhinted⟩

/-- A tree matched with itself, each hint from a name to itself, has only pairs of a
node with itself. -/
theorem run_self (hthreshold : toReal threshold < 1) {hints : Hints} (hself : ∀ hint ∈ hints.entries, hint.1 = hint.2)
    (t : SyntaxTree) :
    ∃ m, run threshold hints t t = .ok m ∧ ∀ p ∈ m.pairs, ∃ n ∈ t.nodes, p = (n.handle, n.handle) := by
  obtain ⟨m, hinted, hrun, hm, hhinted⟩ := run_self_pairs hthreshold hself t
  refine ⟨m, hrun, fun p hp => ?_⟩
  rw [hm] at hp
  rcases List.mem_append.1 hp with hp | hp
  · have hdiag := hhinted.source_eq_target hself hp
    obtain ⟨l, hl, r, -, rfl, -⟩ := hhinted.joinsDeclarations hp
    exact ⟨l, hl, Prod.ext rfl hdiag.symm⟩
  · obtain ⟨n, hn, -, he⟩ := mem_identityPairs.1 hp
    exact ⟨n, SyntaxTree.mem_nodes_of_mem_namedNodes hn, he⟩

/-- With similarities as rational numbers and a threshold below 1, a tree matched with
itself without hints has the pairs of its named nodes with themselves, in pre-order,
however alike these nodes are. -/
theorem run_self_identity {threshold : ℚ} (hthreshold : threshold < 1) (t : SyntaxTree) :
    ∃ m, run threshold .empty t t = .ok m ∧ m.pairs = t.namedNodes.map fun n => (n.handle, n.handle) := by
  have hreal : toReal threshold < 1 := by
    rw [toReal_rat]
    exact_mod_cast hthreshold
  have hself : ∀ hint ∈ (Table.empty : Hints).entries, hint.1 = hint.2 := by simp [Table.empty]
  obtain ⟨m, hinted, hrun, hm, hhinted⟩ := run_self_pairs hreal hself t
  obtain rfl : hinted = [] := hhinted.unique isHinted_nil
  refine ⟨m, hrun, ?_⟩
  simp [hm, identityPairs]

/-- A module without a name and three functions that are fully similar to each other. -/
def overloads : SyntaxTree :=
  .ofNodes "python" "" [⟨0, "module", "", ⟨⟨0, 0⟩, ⟨0, 0⟩⟩, .empty, none, [1, 2, 3]⟩,
    overload 1 ["x", "x", "y"], overload 2 ["x", "y", "y"], overload 3 ["y", "x", "x"]]

theorem run_self_identity_overloads :
    (0.99 : ℚ) < 1 ∧
    (∀ a ∈ overloads.namedNodes, ∀ b ∈ overloads.namedNodes, (ofNodes a b : ℚ) = 1) ∧
    ∃ m, run (0.99 : ℚ) .empty overloads overloads = .ok m ∧ m.pairs = [(1, 1), (2, 2), (3, 3)] := by
  have hthreshold : (0.99 : ℚ) < 1 := by norm_num
  exact ⟨hthreshold, by decide +kernel, run_self_identity hthreshold overloads⟩

end RefactorAudit.Matching
