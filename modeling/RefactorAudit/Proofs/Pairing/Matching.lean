import RefactorAudit.Proofs.Pairing.Hints
import RefactorAudit.Proofs.Pairing.Similarity

/-!
# The outcome of matching two trees

After the hints, the legacy declarations take their turns in pre-order. What comes
out can be said without turns (`Completes`): the pairs are similar enough, no node
prefers a candidate that was still free at its turn, and no node without a partner
could have had one. `run_ok` shows that matching never fails and ends with such
pairs; `Completes.mem_iff` shows that there are no others.
-/

namespace RefactorAudit.Matching

open Scalar Similarity

variable {α : Type} [Scalar α]

/-- The legacy node rather takes `r'` than `r`: it is more similar, or it is as
similar and comes first. -/
def Prefers (α : Type) [Scalar α] (l r' r : Node) : Prop :=
  (ofNodes l r : α) < ofNodes l r' ∨ ((ofNodes l r' : α) = ofNodes l r ∧ r'.handle < r.handle)

/-- The refactored node is gone when the turn comes to `l`: it is the target of a
hint or of an earlier node. -/
def TakenBefore (hinted greedy : List (Nat × Nat)) (l r : Nat) : Prop :=
  r ∈ hinted.map Prod.snd ∨ ∃ l', l' < l ∧ (l', r) ∈ greedy

/-- The pairs `greedy` complete the hinted pairs, as far as the legacy nodes
`turns` are concerned. -/
structure Completes (threshold : α) (turns candidates : List Node) (hinted greedy : List (Nat × Nat)) : Prop where
  similar : ∀ p ∈ greedy, ∃ l ∈ turns, ∃ r ∈ candidates, p = (l.handle, r.handle) ∧ threshold < ofNodes l r
  /-- No justified envy. -/
  no_envy : ∀ l ∈ turns, ∀ r ∈ candidates, ∀ r' ∈ candidates, (l.handle, r.handle) ∈ greedy → Prefers α l r' r →
    TakenBefore hinted greedy l.handle r'.handle
  /-- No missed match. -/
  no_missed : ∀ l ∈ turns, l.handle ∉ (hinted ++ greedy).map Prod.fst → ∀ r ∈ candidates, threshold < ofNodes l r →
    TakenBefore hinted greedy l.handle r.handle

variable {threshold : α} {turns candidates : List Node} {hinted greedy greedy' : List (Nat × Nat)} {l r r' : Node}
  {m : NodePairs}

/-! ## More pairs -/

theorem TakenBefore.mono {a b : Nat} (h : TakenBefore hinted greedy a b) (hsub : greedy ⊆ greedy') :
    TakenBefore hinted greedy' a b := by
  rcases h with h | ⟨l', hlt, hmem⟩
  · exact .inl h
  · exact .inr ⟨l', hlt, hsub hmem⟩

theorem eq_of_handle_eq (hsorted : candidates.Pairwise fun a b => a.handle < b.handle) (hr : r ∈ candidates)
    (hr' : r' ∈ candidates) (h : r.handle = r'.handle) : r = r' :=
  List.inj_on_of_nodup_map (List.pairwise_map.2 (hsorted.imp Nat.ne_of_lt)) hr hr' h

theorem takenBefore_of_mem_targets {a b : Nat} (hpairs : m.pairs = hinted ++ greedy) (hlt : ∀ p ∈ greedy, p.1 < a)
    (hb : b ∈ m.targets) : TakenBefore hinted greedy a b := by
  obtain ⟨p, hp, rfl⟩ := List.mem_map.1 hb
  rw [hpairs] at hp
  rcases List.mem_append.1 hp with hp | hp
  · exact .inl (List.mem_map.2 ⟨p, hp, rfl⟩)
  · exact .inr ⟨p.1, hlt p hp, hp⟩

/-- A node that finds no partner has its turn. -/
theorem Completes.pass (h : Completes threshold turns candidates hinted greedy) (hlt : ∀ p ∈ greedy, p.1 < l.handle)
    (hmissed : ∀ r ∈ candidates, threshold < ofNodes l r → TakenBefore hinted greedy l.handle r.handle) :
    Completes threshold (turns ++ [l]) candidates hinted greedy where
  similar p hp := by
    obtain ⟨l', hl', hrest⟩ := h.similar p hp
    exact ⟨l', List.mem_append_left _ hl', hrest⟩
  no_envy l' hl' r hr r' hr' hmem hpref := by
    rcases List.mem_append.1 hl' with hl' | hl'
    · exact h.no_envy l' hl' r hr r' hr' hmem hpref
    · obtain rfl := List.mem_singleton.1 hl'
      have hself := hlt _ hmem
      exact (lt_irrefl _ hself).elim
  no_missed l' hl' hnot r hr hsim := by
    rcases List.mem_append.1 hl' with hl' | hl'
    · exact h.no_missed l' hl' hnot r hr hsim
    · obtain rfl := List.mem_singleton.1 hl'
      exact hmissed r hr hsim

/-- A node that takes a partner has its turn. -/
theorem Completes.take (h : Completes threshold turns candidates hinted greedy) (hlt : ∀ p ∈ greedy, p.1 < l.handle)
    (hsorted : candidates.Pairwise fun a b => a.handle < b.handle) (hr : r ∈ candidates)
    (hsim : threshold < ofNodes l r) (hturns : ∀ l' ∈ turns, l'.handle < l.handle)
    (henvy : ∀ r' ∈ candidates, Prefers α l r' r → TakenBefore hinted greedy l.handle r'.handle) :
    Completes threshold (turns ++ [l]) candidates hinted (greedy ++ [(l.handle, r.handle)]) where
  similar p hp := by
    rcases List.mem_append.1 hp with hp | hp
    · obtain ⟨l', hl', hrest⟩ := h.similar p hp
      exact ⟨l', List.mem_append_left _ hl', hrest⟩
    · exact ⟨l, by simp, r, hr, List.mem_singleton.1 hp, hsim⟩
  no_envy l' hl' r₁ hr₁ r' hr' hmem hpref := by
    have hmono : greedy ⊆ greedy ++ [(l.handle, r.handle)] := List.subset_append_left _ _
    rcases List.mem_append.1 hl' with hold | hnew <;> rcases List.mem_append.1 hmem with hpair | hpair
    · exact (h.no_envy l' hold r₁ hr₁ r' hr' hpair hpref).mono hmono
    · have := hturns l' hold
      simp only [List.mem_singleton, Prod.mk.injEq] at hpair
      omega
    · obtain rfl := List.mem_singleton.1 hnew
      have hself := hlt _ hpair
      exact (lt_irrefl _ hself).elim
    · obtain rfl := List.mem_singleton.1 hnew
      simp only [List.mem_singleton, Prod.mk.injEq, true_and] at hpair
      obtain rfl := eq_of_handle_eq hsorted hr₁ hr hpair
      exact (henvy r' hr' hpref).mono hmono
  no_missed l' hl' hnot r₁ hr₁ hsim₁ := by
    have hmono : greedy ⊆ greedy ++ [(l.handle, r.handle)] := List.subset_append_left _ _
    rw [← List.append_assoc, List.map_append, List.mem_append, not_or] at hnot
    rcases List.mem_append.1 hl' with hl' | hl'
    · exact (h.no_missed l' hl' hnot.1 r₁ hr₁ hsim₁).mono hmono
    · obtain rfl := List.mem_singleton.1 hl'
      exact absurd hnot.2 (by simp)

/-- Hinted nodes need no turn. -/
theorem Completes.of_open {legacy : SyntaxTree}
    (h : Completes threshold (legacy.namedNodes.filter fun l => !(hinted.map Prod.fst).contains l.handle) candidates
      hinted greedy) : Completes threshold legacy.namedNodes candidates hinted greedy where
  similar p hp := by
    obtain ⟨l, hl, hrest⟩ := h.similar p hp
    exact ⟨l, (List.mem_filter.1 hl).1, hrest⟩
  no_envy l hl r hr r' hr' hmem hpref := by
    obtain ⟨l', hl', _, -, he, -⟩ := h.similar _ hmem
    have heq : l = l' := SyntaxTree.eq_of_handle_eq (SyntaxTree.mem_nodes_of_mem_namedNodes hl)
      (SyntaxTree.mem_nodes_of_mem_namedNodes (List.mem_filter.1 hl').1) (congrArg Prod.fst he)
    exact h.no_envy l (heq ▸ hl') r hr r' hr' hmem hpref
  no_missed l hl hnot r hr hsim := by
    refine h.no_missed l (List.mem_filter.2 ⟨hl, ?_⟩) hnot r hr hsim
    rw [List.map_append, List.mem_append, not_or] at hnot
    simpa using hnot.1

/-- The partner of a node was free at its turn. -/
theorem not_takenBefore {a b : Nat} (hm : m.pairs = hinted ++ greedy) (hmem : (a, b) ∈ greedy) :
    ¬TakenBefore hinted greedy a b := by
  have hpair : (a, b) ∈ m.pairs := hm ▸ List.mem_append_right _ hmem
  rintro (hhint | ⟨l', hlt, hmem'⟩)
  · obtain ⟨q, hq, he⟩ := List.mem_map.1 hhint
    have hq' : q ∈ m.pairs := hm ▸ List.mem_append_left _ hq
    obtain rfl := Correspondence.eq_of_target_eq hq' hpair he
    -- the pair would stand in the list twice
    have hnodup := m.targets_nodup
    rw [hm, List.map_append] at hnodup
    exact List.disjoint_of_nodup_append hnodup hhint (List.mem_map_of_mem hmem)
  · have hpair' : (l', b) ∈ m.pairs := hm ▸ List.mem_append_right _ hmem'
    have := congrArg Prod.fst (Correspondence.eq_of_target_eq hpair' hpair rfl)
    simp only at this
    omega

variable [Exact α]

/-! ## One turn -/

/-- The first of the best candidates is preferred to all of them. -/
theorem not_prefers_of_isFirstBest (hsorted : candidates.Pairwise fun a b => a.handle < b.handle)
    (h : IsFirstBest α l candidates r) (hr' : r' ∈ candidates) : ¬Prefers α l r' r := by
  obtain ⟨before, after, rfl, hbefore, hafter⟩ := h
  rintro (hlt | ⟨heq, hhandle⟩)
  · have hle : (ofNodes l r' : α) ≤ ofNodes l r := IsFirstBest.le ⟨before, after, rfl, hbefore, hafter⟩ hr'
    exact absurd ((Exact.lt_iff _ _).1 hlt) (not_lt.2 ((Exact.le_iff _ _).1 hle))
  · rcases List.mem_append.1 hr' with hr' | hr'
    · have hlt := hbefore r' hr'
      rw [heq] at hlt
      exact lt_irrefl _ ((Exact.lt_iff _ _).1 hlt)
    · -- the nodes from `r` on have no smaller handle than `r`
      rcases List.mem_cons.1 hr' with rfl | hr'
      · exact lt_irrefl _ hhandle
      · have htail := (List.pairwise_append.1 hsorted).2.1
        have := List.rel_of_pairwise_cons htail hr'
        omega

/-- A node whose turn it is takes the first of the best free candidates, or finds no
free one that is similar enough. -/
theorem matchNode_cases (threshold : α) (candidates : List Node) (hl : l.handle ∉ m.sources) :
    (matchNode threshold candidates m l = .ok m ∧
      ∀ r ∈ candidates, r.handle ∉ m.targets → ¬threshold < ofNodes l r) ∨
    ∃ r m', matchNode threshold candidates m l = .ok m' ∧ m'.pairs = m.pairs ++ [(l.handle, r.handle)] ∧
      threshold < ofNodes l r ∧ r.handle ∉ m.targets ∧
      IsFirstBest α l (candidates.filter fun c => !m.isTarget c.handle) r := by
  have hfree : ∀ c, c ∈ candidates.filter (fun c => !m.isTarget c.handle) ↔ c ∈ candidates ∧ c.handle ∉ m.targets := by
    intro c
    rw [List.mem_filter, Bool.not_eq_true', ← Bool.not_eq_true, Correspondence.isTarget_iff]
  unfold matchNode
  generalize candidates.filter (fun c => !m.isTarget c.handle) = free at hfree ⊢
  cases free with
  | nil => exact .inl ⟨rfl, fun r hr hrt => absurd ((hfree r).2 ⟨hr, hrt⟩) (by simp)⟩
  | cons c cs =>
    obtain ⟨r, hr, hbest⟩ := best?_cons (α := α) l c cs
    rw [hr]
    by_cases hlt : threshold < ofNodes l r
    · have hrt := ((hfree r).1 hbest.mem).2
      obtain ⟨m', hm', hpairs⟩ := Correspondence.add_ok hl hrt
      exact .inr ⟨r, m', by simpa [hlt] using hm', hpairs, hlt, hrt, hbest⟩
    · refine .inl ⟨by simp [hlt], fun r' hr' hrt' hlt' => hlt ?_⟩
      have hle := (Exact.le_iff _ _).1 (hbest.le ((hfree r').2 ⟨hr', hrt'⟩))
      exact (Exact.lt_iff _ _).2 (((Exact.lt_iff _ _).1 hlt').trans_le hle)

/-! ## All turns -/

/-- What a fold over the turns keeps: the pairs so far complete the hints for the
nodes so far, and stand in the order of their sources. -/
def Turned (threshold : α) (candidates : List Node) (hinted : List (Nat × Nat)) (turns : List Node) (m : NodePairs) :
    Prop :=
  ∃ greedy, m.pairs = hinted ++ greedy ∧ Completes threshold turns candidates hinted greedy ∧
    greedy.Pairwise fun p q => p.1 < q.1

theorem Turned.step (h : Turned threshold candidates hinted turns m)
    (hsorted : candidates.Pairwise fun a b => a.handle < b.handle) (hturns : ∀ l' ∈ turns, l'.handle < l.handle)
    (hl : l.handle ∉ hinted.map Prod.fst) :
    ∃ m', matchNode threshold candidates m l = .ok m' ∧ Turned threshold candidates hinted (turns ++ [l]) m' := by
  obtain ⟨greedy, hpairs, hcomp, horder⟩ := h
  have hlt : ∀ p ∈ greedy, p.1 < l.handle := by
    intro p hp
    obtain ⟨l', hl', _, -, rfl, -⟩ := hcomp.similar p hp
    exact hturns l' hl'
  have hfresh : l.handle ∉ m.sources := by
    intro hmem
    obtain ⟨p, hp, he⟩ := List.mem_map.1 hmem
    rw [hpairs] at hp
    rcases List.mem_append.1 hp with hp | hp
    · exact hl (List.mem_map.2 ⟨p, hp, he⟩)
    · have := hlt p hp
      omega
  rcases matchNode_cases threshold candidates hfresh with
    ⟨hm, hnone⟩ | ⟨r, m', hm', hpairs', hsim, -, hbest⟩
  · refine ⟨m, hm, greedy, hpairs, hcomp.pass hlt fun r hr hsim => ?_, horder⟩
    by_contra hfree
    exact hnone r hr (fun hmem => hfree (takenBefore_of_mem_targets hpairs hlt hmem)) hsim
  · refine ⟨m', hm', greedy ++ [(l.handle, r.handle)], by rw [hpairs', hpairs, List.append_assoc], ?_, ?_⟩
    · refine hcomp.take hlt hsorted (List.mem_filter.1 hbest.mem).1 hsim hturns fun r' hr' hpref => ?_
      by_contra hfree
      refine not_prefers_of_isFirstBest (hsorted.filter _) hbest (List.mem_filter.2 ⟨hr', ?_⟩) hpref
      rw [Bool.not_eq_true', ← Bool.not_eq_true, Correspondence.isTarget_iff]
      exact fun hmem => hfree (takenBefore_of_mem_targets hpairs hlt hmem)
    · rw [List.pairwise_append]
      exact ⟨horder, List.pairwise_singleton _ _, by simpa using fun a b hp => hlt (a, b) hp⟩

/-! ## The whole run -/

/-- Matching never fails. Its pairs are the hinted ones, then those that complete
them, in pre-order. -/
theorem run_ok (threshold : α) (hints : Hints) (legacy refactored : SyntaxTree) :
    ∃ m hinted greedy, run threshold hints legacy refactored = .ok m ∧ m.pairs = hinted ++ greedy ∧
      IsHinted legacy refactored hints.entries hinted ∧
      Completes threshold legacy.namedNodes refactored.namedNodes hinted greedy ∧
      greedy.Pairwise fun p q => p.1 < q.1 := by
  obtain ⟨start, hstart, hhinted⟩ := applyHints_ok legacy refactored hints.entries
  let turns := legacy.namedNodes.filter fun l => !start.isSource l.handle
  have hsorted : turns.Pairwise fun a b => a.handle < b.handle := legacy.pairwise_handle_namedNodes.filter _
  obtain ⟨m, hm, greedy, hpairs, hcomp, horder⟩ :
      ∃ m, turns.foldlM (matchNode threshold refactored.namedNodes) start = .ok m ∧
        Turned threshold refactored.namedNodes start.pairs turns m := by
    refine Chains.foldlM_ok (P := Turned threshold refactored.namedNodes start.pairs) ⟨[], by simp, ?_, .nil⟩ ?_
    · constructor <;> simp
    · intro done l rest heq m hturned
      rw [heq, List.pairwise_append] at hsorted
      refine hturned.step refactored.pairwise_handle_namedNodes
        (fun l' hl' => hsorted.2.2 l' hl' l List.mem_cons_self) ?_
      have hl : l ∈ turns := by simp [heq]
      simpa [Correspondence.isSource, Correspondence.sources] using (List.mem_filter.1 hl).2
  refine ⟨m, start.pairs, greedy, ?_, hpairs, hhinted, hcomp.of_open, horder⟩
  rw [run, hstart]
  exact hm

/-! ## No other outcome -/

theorem prefers_or_prefers (h : r.handle ≠ r'.handle) : Prefers α l r' r ∨ Prefers α l r r' := by
  rcases lt_trichotomy (toReal (ofNodes l r : α)) (toReal (ofNodes l r' : α)) with hlt | heq | hlt
  · exact .inl (.inl ((Exact.lt_iff _ _).2 hlt))
  · have heq' : (ofNodes l r : α) = ofNodes l r' := Exact.toReal_injective heq
    rcases Nat.lt_or_gt_of_ne h with hlt | hlt
    · exact .inr (.inr ⟨heq', hlt⟩)
    · exact .inl (.inr ⟨heq'.symm, hlt⟩)
  · exact .inr (.inl ((Exact.lt_iff _ _).2 hlt))

variable {legacy refactored : SyntaxTree} {m' : NodePairs}

/-- One half of uniqueness, for a source below which the outcomes agree. -/
theorem Completes.mem_of_mem (hm : m.pairs = hinted ++ greedy) (hm' : m'.pairs = hinted ++ greedy')
    (h : Completes threshold legacy.namedNodes refactored.namedNodes hinted greedy)
    (h' : Completes threshold legacy.namedNodes refactored.namedNodes hinted greedy') {a b : Nat}
    (hagree : ∀ a' < a, ∀ b', (a', b') ∈ greedy ↔ (a', b') ∈ greedy') (hmem : (a, b) ∈ greedy) :
    (a, b) ∈ greedy' := by
  have htaken : ∀ b', TakenBefore hinted greedy a b' ↔ TakenBefore hinted greedy' a b' := by
    intro b'
    refine or_congr_right (exists_congr fun a' => and_congr_right fun hlt => hagree a' hlt b')
  obtain ⟨l, hl, r, hr, he, hsim⟩ := h.similar _ hmem
  obtain ⟨rfl, rfl⟩ : a = l.handle ∧ b = r.handle := by simpa using he
  -- `l` has a partner in the other outcome, for `r` would have been free for it
  have hsource : l.handle ∈ (hinted ++ greedy').map Prod.fst := by
    by_contra hnot
    exact not_takenBefore hm hmem ((htaken _).2 (h'.no_missed l hl hnot r hr hsim))
  obtain ⟨⟨a', b'⟩, hmem', hfst⟩ := List.mem_map.1 hsource
  obtain rfl : a' = l.handle := hfst
  have hgreedy' : (l.handle, b') ∈ greedy' := by
    rcases List.mem_append.1 hmem' with hmem' | hmem'
    · have hnodup := m.sources_nodup
      rw [hm, List.map_append] at hnodup
      have hsource' : l.handle ∈ greedy.map Prod.fst := List.mem_map.2 ⟨_, hmem, rfl⟩
      exact (List.disjoint_of_nodup_append hnodup (List.mem_map_of_mem hmem') hsource').elim
    · exact hmem'
  obtain ⟨l', hl', r', hr', he', -⟩ := h'.similar _ hgreedy'
  obtain ⟨-, rfl⟩ : l.handle = l'.handle ∧ b' = r'.handle := by simpa using he'
  by_cases hrr : r.handle = r'.handle
  · rwa [hrr]
  · -- of two different partners one is preferred, and it was free
    rcases prefers_or_prefers (α := α) (l := l) hrr with hpref | hpref
    · exact absurd ((htaken _).1 (h.no_envy l hl r hr r' hr' hmem hpref)) (not_takenBefore hm' hgreedy')
    · exact absurd ((htaken _).2 (h'.no_envy l hl r' hr' r hr hgreedy' hpref)) (not_takenBefore hm hmem)

/-- Two ways to complete the hinted pairs have the same pairs. -/
theorem Completes.mem_iff (hm : m.pairs = hinted ++ greedy) (hm' : m'.pairs = hinted ++ greedy')
    (h : Completes threshold legacy.namedNodes refactored.namedNodes hinted greedy)
    (h' : Completes threshold legacy.namedNodes refactored.namedNodes hinted greedy') (a b : Nat) :
    (a, b) ∈ greedy ↔ (a, b) ∈ greedy' := by
  -- by induction on the source: the outcome for a node depends on those before it only
  induction a using Nat.strongRecOn generalizing b with
  | ind a ih =>
    exact ⟨h.mem_of_mem hm hm' h' ih, h'.mem_of_mem hm' hm h fun a' hlt b' => (ih a' hlt b').symm⟩

/-- What matching two trees comes to, with similarities compared as rational
numbers. It never fails and never pairs a node twice. The hinted pairs come first.
Those after them complete the hinted ones, in pre-order. All pairs that do so are
these. -/
theorem run_unique_outcome (threshold : ℚ) (hints : Hints) (legacy refactored : SyntaxTree) :
    ∃ (m : NodePairs) (hinted greedy : List (Nat × Nat)),
      run threshold hints legacy refactored = .ok m ∧
      m.pairs = hinted ++ greedy ∧
      (∀ p ∈ m.pairs, ∀ q ∈ m.pairs, p.1 = q.1 ∨ p.2 = q.2 → p = q) ∧
      IsHinted legacy refactored hints.entries hinted ∧
      Completes threshold legacy.namedNodes refactored.namedNodes hinted greedy ∧
      (greedy.Pairwise fun p q => p.1 < q.1) ∧
      ∀ (m' : NodePairs) (hinted' greedy' : List (Nat × Nat)), m'.pairs = hinted' ++ greedy' →
        IsHinted legacy refactored hints.entries hinted' →
        Completes threshold legacy.namedNodes refactored.namedNodes hinted' greedy' → m'.pairs.Perm m.pairs := by
  obtain ⟨m, hinted, greedy, hrun, hm, hhinted, hcomp, horder⟩ := run_ok threshold hints legacy refactored
  refine ⟨m, hinted, greedy, hrun, hm, ?_, hhinted, hcomp, horder, ?_⟩
  · rintro p hp q hq (h | h)
    · exact Correspondence.eq_of_source_eq hp hq h
    · exact Correspondence.eq_of_target_eq hp hq h
  · intro m' hinted' greedy' hm' hhinted' hcomp'
    obtain rfl := hhinted'.unique hhinted
    have hnodup : ∀ n : NodePairs, n.pairs.Nodup := fun n => n.sources_nodup.of_map
    rw [List.perm_ext_iff_of_nodup (hnodup m') (hnodup m), hm, hm']
    rintro ⟨a, b⟩
    rw [List.mem_append, List.mem_append, hcomp'.mem_iff hm' hm hcomp]

end RefactorAudit.Matching
