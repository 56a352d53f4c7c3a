import Mathlib.Data.List.Sort
import RefactorAudit.Pairing.Matching
import RefactorAudit.Proofs.Chains
import RefactorAudit.Proofs.Pairing.Correspondence
import RefactorAudit.Proofs.Syntax.Tree

/-!
# What hints contribute

A hint names a pair: the first legacy node with the old name and the first refactored
node with the new one. It contributes that pair unless an earlier hint took one of
the two nodes. `Contributes` says so without reference to a state; the fold over the
hints collects exactly the contributed pairs, in the order of the hints
(`applyHints_ok`), and nothing else does (`IsHinted.unique`).
-/

namespace RefactorAudit.Matching

variable (legacy refactored : SyntaxTree)

/-- The pair that a hint names, if both names are declared. -/
def hintPair? (hint : String × String) : Option (Nat × Nat) :=
  match legacy.findByName? hint.1, refactored.findByName? hint.2 with
  | some l, some r => some (l.handle, r.handle)
  | _, _ => none

/-- The `i`-th hint contributes the pair `p`: it names `p`, and no earlier hint
contributes a pair with the same source or the same target. -/
def Contributes (hints : List (String × String)) (i : Nat) (p : Nat × Nat) : Prop :=
  hints[i]?.bind (hintPair? legacy refactored) = some p ∧
    ∀ j, j < i → ∀ q, Contributes hints j q → q.1 ≠ p.1 ∧ q.2 ≠ p.2
termination_by i

/-- The pairs are those that the hints contribute, in the order of the hints. -/
def IsHinted (hints : List (String × String)) (pairs : List (Nat × Nat)) : Prop :=
  ∃ indices : List Nat, indices.Pairwise (· < ·) ∧
    List.Forall₂ (Contributes legacy refactored hints) indices pairs ∧
    ∀ i p, Contributes legacy refactored hints i p → i ∈ indices

variable {legacy refactored} {hints before : List (String × String)} {hint : String × String}
  {i : Nat} {p q : Nat × Nat} {pairs : List (Nat × Nat)}

theorem hintPair?_eq_some_iff :
    hintPair? legacy refactored hint = some p ↔
      ∃ l r, legacy.findByName? hint.1 = some l ∧ refactored.findByName? hint.2 = some r ∧
        p = (l.handle, r.handle) := by
  unfold hintPair?
  cases legacy.findByName? hint.1 with
  | none => simp
  | some l =>
    cases refactored.findByName? hint.2 with
    | none => simp
    | some r => simp [eq_comm]

/-! ## Contributions -/

theorem Contributes.lt (h : Contributes legacy refactored hints i p) : i < hints.length := by
  rw [Contributes] at h
  by_contra hge
  rw [List.getElem?_eq_none (by omega)] at h
  exact nomatch h.1

theorem Contributes.exists_hint (h : Contributes legacy refactored hints i p) :
    ∃ hint ∈ hints, hintPair? legacy refactored hint = some p := by
  rw [Contributes] at h
  obtain ⟨hint, hget, hpair⟩ := Option.bind_eq_some_iff.1 h.1
  exact ⟨hint, List.mem_of_getElem? hget, hpair⟩

theorem Contributes.unique (h : Contributes legacy refactored hints i p)
    (h' : Contributes legacy refactored hints i q) : p = q := by
  rw [Contributes] at h h'
  exact Option.some.inj (h.1.symm.trans h'.1)

/-- What a hint contributes depends only on the hints up to it. -/
theorem contributes_append_iff (after : List (String × String)) (hi : i < before.length) :
    Contributes legacy refactored (before ++ after) i p ↔ Contributes legacy refactored before i p := by
  -- by induction on the index, for the earlier hints stand in `before` too
  induction i using Nat.strongRecOn generalizing p with
  | ind i ih =>
    rw [Contributes, Contributes, List.getElem?_append_left hi]
    refine and_congr_right fun _ => forall_congr' fun j => forall_congr' fun hj => forall_congr' fun q => ?_
    rw [ih j hj (Nat.lt_trans hj hi)]

/-- The last hint contributes the pair that it names if no pair of the hints before
it is in the way. -/
theorem contributes_concat_iff :
    Contributes legacy refactored (before ++ [hint]) before.length p ↔
      hintPair? legacy refactored hint = some p ∧
        ∀ j q, Contributes legacy refactored before j q → q.1 ≠ p.1 ∧ q.2 ≠ p.2 := by
  rw [Contributes]
  refine and_congr (by simp) ⟨fun h j q hq => ?_, fun h j hj q hq => ?_⟩
  · exact h j hq.lt q ((contributes_append_iff [hint] hq.lt).2 hq)
  · exact h j q ((contributes_append_iff [hint] hj).1 hq)

/-! ## Hinted pairs -/

theorem IsHinted.mem_iff (h : IsHinted legacy refactored hints pairs) :
    p ∈ pairs ↔ ∃ i, Contributes legacy refactored hints i p := by
  obtain ⟨indices, -, hall, hcomplete⟩ := h
  constructor
  · intro hp
    obtain ⟨i, -, hi⟩ := Chains.exists_of_mem_results hall hp
    exact ⟨i, hi⟩
  · rintro ⟨i, hi⟩
    obtain ⟨q, hq, hi'⟩ := Chains.exists_of_mem_results hall.flip (hcomplete i p hi)
    rwa [hi.unique hi']

theorem isHinted_nil : IsHinted legacy refactored [] [] :=
  ⟨[], .nil, .nil, fun _ _ h => absurd h.lt (by simp)⟩

/-- A hint that contributes nothing leaves the pairs as they are. -/
theorem IsHinted.skip (h : IsHinted legacy refactored before pairs)
    (hskip : ∀ p, ¬Contributes legacy refactored (before ++ [hint]) before.length p) :
    IsHinted legacy refactored (before ++ [hint]) pairs := by
  obtain ⟨indices, hsorted, hall, hcomplete⟩ := h
  refine ⟨indices, hsorted, hall.imp fun i p hp => (contributes_append_iff _ hp.lt).2 hp, fun i p hp => ?_⟩
  have hne : i ≠ before.length := fun he => hskip p (he ▸ hp)
  have hlt : i < before.length := by
    have := hp.lt
    simp only [List.length_append, List.length_singleton] at this
    omega
  exact hcomplete i p ((contributes_append_iff _ hlt).1 hp)

/-- A hint that contributes a pair adds it at the end. -/
theorem IsHinted.concat (h : IsHinted legacy refactored before pairs)
    (hp : Contributes legacy refactored (before ++ [hint]) before.length p) :
    IsHinted legacy refactored (before ++ [hint]) (pairs ++ [p]) := by
  obtain ⟨indices, hsorted, hall, hcomplete⟩ := h
  have hlt : ∀ i ∈ indices, i < before.length := by
    intro i hi
    obtain ⟨q, -, hq⟩ := Chains.exists_of_mem_results hall.flip hi
    exact hq.lt
  refine ⟨indices ++ [before.length], ?_, ?_, fun i q hq => ?_⟩
  · rw [List.pairwise_append]
    exact ⟨hsorted, List.pairwise_singleton _ _, by simpa using hlt⟩
  · exact List.rel_append (hall.imp fun i q hq => (contributes_append_iff _ hq.lt).2 hq) (.cons hp .nil)
  · by_cases he : i = before.length
    · simp [he]
    · have hi : i < before.length := by
        have := hq.lt
        simp only [List.length_append, List.length_singleton] at this
        omega
      exact List.mem_append_left _ (hcomplete i q ((contributes_append_iff _ hi).1 hq))

/-- The hints determine the hinted pairs. -/
theorem IsHinted.unique {pairs' : List (Nat × Nat)} (h : IsHinted legacy refactored hints pairs)
    (h' : IsHinted legacy refactored hints pairs') : pairs = pairs' := by
  obtain ⟨indices, hsorted, hall, hcomplete⟩ := h
  obtain ⟨indices', hsorted', hall', hcomplete'⟩ := h'
  have heq : indices = indices' := by
    refine hsorted.eq_of_mem_iff hsorted' fun i => ⟨fun hi => ?_, fun hi => ?_⟩
    · obtain ⟨p, -, hp⟩ := Chains.exists_of_mem_results hall.flip hi
      exact hcomplete' i p hp
    · obtain ⟨p, -, hp⟩ := Chains.exists_of_mem_results hall'.flip hi
      exact hcomplete i p hp
  subst heq
  have hunique : Relator.RightUnique (Contributes legacy refactored hints) := fun _ _ _ h h' => h.unique h'
  exact hunique.forall₂ hall hall'

/-! ## The fold over the hints -/

theorem applyHint_of_none {m : NodePairs} (h : hintPair? legacy refactored hint = none) :
    applyHint legacy refactored m hint = .ok m := by
  unfold hintPair? at h
  unfold applyHint
  cases hl : legacy.findByName? hint.1 with
  | none => rfl
  | some l =>
    cases hr : refactored.findByName? hint.2 with
    | none => rfl
    | some r =>
      rw [hl, hr] at h
      exact nomatch h

theorem applyHint_of_some {m : NodePairs} (h : hintPair? legacy refactored hint = some p) :
    applyHint legacy refactored m hint =
      if m.isSource p.1 || m.isTarget p.2 then .ok m else m.add p.1 p.2 := by
  obtain ⟨l, r, hl, hr, rfl⟩ := hintPair?_eq_some_iff.1 h
  unfold applyHint
  rw [hl, hr]

/-- One hint adds the pair that it contributes, if any. -/
theorem applyHint_ok {m : NodePairs} (h : IsHinted legacy refactored before m.pairs) (hint : String × String) :
    ∃ m', applyHint legacy refactored m hint = .ok m' ∧ IsHinted legacy refactored (before ++ [hint]) m'.pairs := by
  cases hpair : hintPair? legacy refactored hint with
  | none =>
    refine ⟨m, applyHint_of_none hpair, h.skip fun p hp => ?_⟩
    rw [contributes_concat_iff, hpair] at hp
    exact nomatch hp.1
  | some p =>
    rw [applyHint_of_some hpair]
    split
    · next htaken =>
      refine ⟨m, rfl, h.skip fun p' hp' => ?_⟩
      obtain ⟨heq, hfree⟩ := contributes_concat_iff.1 hp'
      obtain rfl := Option.some.inj (hpair.symm.trans heq)
      simp only [Bool.or_eq_true, Correspondence.isSource_iff, Correspondence.isTarget_iff] at htaken
      rcases htaken with hs | ht
      · obtain ⟨q, hq, he⟩ := List.mem_map.1 hs
        obtain ⟨j, hj⟩ := h.mem_iff.1 hq
        exact (hfree j q hj).1 he
      · obtain ⟨q, hq, he⟩ := List.mem_map.1 ht
        obtain ⟨j, hj⟩ := h.mem_iff.1 hq
        exact (hfree j q hj).2 he
    · next hfree =>
      simp only [Bool.or_eq_true, Correspondence.isSource_iff, Correspondence.isTarget_iff, not_or] at hfree
      obtain ⟨m', hm', hpairs⟩ := Correspondence.add_ok hfree.1 hfree.2
      refine ⟨m', hm', ?_⟩
      rw [hpairs]
      refine h.concat (contributes_concat_iff.2 ⟨hpair, fun j q hq => ?_⟩)
      have hmem := h.mem_iff.2 ⟨j, hq⟩
      exact ⟨fun he => hfree.1 (List.mem_map.2 ⟨q, hmem, he⟩), fun he => hfree.2 (List.mem_map.2 ⟨q, hmem, he⟩)⟩

/-- All hints together add the pairs that they contribute, and never fail. -/
theorem applyHints_ok (legacy refactored : SyntaxTree) (hints : List (String × String)) :
    ∃ m : NodePairs, hints.foldlM (applyHint legacy refactored) .empty = .ok m ∧
      IsHinted legacy refactored hints m.pairs :=
  Chains.foldlM_ok (P := fun done (m : NodePairs) => IsHinted legacy refactored done m.pairs) isHinted_nil
    fun _ hint _ _ _ h => applyHint_ok h hint

/-! ## What hinted pairs join -/

/-- The pair joins nodes of the two trees that both declare a name. -/
def JoinsDeclarations (legacy refactored : SyntaxTree) (p : Nat × Nat) : Prop :=
  ∃ l ∈ legacy.nodes, ∃ r ∈ refactored.nodes, p = (l.handle, r.handle) ∧
    l.metadata.name ≠ none ∧ r.metadata.name ≠ none

theorem IsHinted.joinsDeclarations (h : IsHinted legacy refactored hints pairs) (hp : p ∈ pairs) :
    JoinsDeclarations legacy refactored p := by
  obtain ⟨i, hi⟩ := h.mem_iff.1 hp
  obtain ⟨hint, -, hpair⟩ := hi.exists_hint
  obtain ⟨l, r, hl, hr, rfl⟩ := hintPair?_eq_some_iff.1 hpair
  refine ⟨l, SyntaxTree.mem_nodes_of_findByName? hl, r, SyntaxTree.mem_nodes_of_findByName? hr, rfl, ?_, ?_⟩
  · simp [SyntaxTree.name_of_findByName? hl]
  · simp [SyntaxTree.name_of_findByName? hr]

/-- In one tree, a hint from a name to itself pairs a node with itself. -/
theorem IsHinted.source_eq_target {t : SyntaxTree} (h : IsHinted t t hints pairs)
    (hself : ∀ hint ∈ hints, hint.1 = hint.2) (hp : p ∈ pairs) : p.1 = p.2 := by
  obtain ⟨i, hi⟩ := h.mem_iff.1 hp
  obtain ⟨hint, hmem, hpair⟩ := hi.exists_hint
  obtain ⟨l, r, hl, hr, rfl⟩ := hintPair?_eq_some_iff.1 hpair
  rw [← hself hint hmem, hl] at hr
  rw [Option.some.inj hr]

end RefactorAudit.Matching
