import RefactorAudit.Proofs.Changes.Modified
import RefactorAudit.Proofs.Pairing.Declared

/-!
# The order of hints

Hints whose new names differ never compete for a node: old names differ in any case,
and different names are found at different nodes. So each hint that names two
declarations contributes their pair, whatever came before it (`applyHints_of_distinct`).
The turns that follow depend on which nodes are taken, not on when they were
(`matchNode_of_perm`). Hence the order of such hints does not matter
(`hint_order_irrelevant`), and this holds however similarities are computed.
-/

namespace RefactorAudit.Matching

variable {legacy refactored : SyntaxTree} {hint hint' : String × String} {p q : Nat × Nat}

/-! ## Hints that do not compete -/

theorem hintPair?_eq_none_iff :
    hintPair? legacy refactored hint = none ↔ ¬legacy.Declares hint.1 ∨ ¬refactored.Declares hint.2 := by
  rw [← SyntaxTree.findByName?_eq_none_iff, ← SyntaxTree.findByName?_eq_none_iff, hintPair?]
  cases legacy.findByName? hint.1 <;> cases refactored.findByName? hint.2 <;> simp

/-- On each side, hints with different names name different nodes. -/
theorem ends_ne_of_names_ne (hp : hintPair? legacy refactored hint = some p)
    (hq : hintPair? legacy refactored hint' = some q) :
    (hint.1 ≠ hint'.1 → p.1 ≠ q.1) ∧ (hint.2 ≠ hint'.2 → p.2 ≠ q.2) := by
  obtain ⟨l, r, hl, hr, rfl⟩ := hintPair?_eq_some_iff.1 hp
  obtain ⟨l', r', hl', hr', rfl⟩ := hintPair?_eq_some_iff.1 hq
  exact ⟨fun hne heq => hne (SyntaxTree.name_eq_of_handle_eq hl hl' heq),
    fun hne heq => hne (SyntaxTree.name_eq_of_handle_eq hr hr' heq)⟩

/-- Hints with different names on both sides contribute all the pairs that they name. -/
theorem applyHints_of_distinct (legacy refactored : SyntaxTree) {hints : List (String × String)}
    (hold : (hints.map Prod.fst).Nodup) (hnew : (hints.map Prod.snd).Nodup) :
    ∃ m : NodePairs, hints.foldlM (applyHint legacy refactored) .empty = .ok m ∧
      m.pairs = hints.filterMap (hintPair? legacy refactored) := by
  refine Chains.foldlM_ok
    (P := fun done (m : NodePairs) => m.pairs = done.filterMap (hintPair? legacy refactored)) rfl ?_
  intro done hint rest hsplit m hm
  cases hpair : hintPair? legacy refactored hint with
  | none => exact ⟨m, applyHint_of_none hpair, by simp [hm, hpair]⟩
  | some p =>
    -- the pairs so far come from hints with other names
    have hother : ∀ q ∈ m.pairs, q.1 ≠ p.1 ∧ q.2 ≠ p.2 := by
      intro q hq
      rw [hm] at hq
      obtain ⟨hint', hmem, hq⟩ := List.mem_filterMap.1 hq
      rw [hsplit, List.map_append, List.nodup_append] at hold hnew
      obtain ⟨hsources, htargets⟩ := ends_ne_of_names_ne hq hpair
      exact ⟨hsources (hold.2.2 _ (List.mem_map_of_mem hmem) hint.1 (by simp)),
        htargets (hnew.2.2 _ (List.mem_map_of_mem hmem) hint.2 (by simp))⟩
    have hsource : p.1 ∉ m.sources := by
      intro hmem
      obtain ⟨q, hq, heq⟩ := List.mem_map.1 hmem
      exact (hother q hq).1 heq
    have htarget : p.2 ∉ m.targets := by
      intro hmem
      obtain ⟨q, hq, heq⟩ := List.mem_map.1 hmem
      exact (hother q hq).2 heq
    obtain ⟨m', hm', hpairs⟩ := Correspondence.add_ok hsource htarget
    refine ⟨m', ?_, by simp [hpairs, hm, hpair]⟩
    rw [applyHint_of_some hpair, if_neg (by simp [hsource, htarget])]
    exact hm'

/-- Hints that name no pair may be left out. -/
theorem applyHints_of_sublist {hints hints' : List (String × String)} (hsub : hints'.Sublist hints)
    (hnodup : hints.Nodup) (habsent : ∀ hint ∈ hints, hint ∉ hints' → hintPair? legacy refactored hint = none)
    (m : NodePairs) :
    hints'.foldlM (applyHint legacy refactored) m = hints.foldlM (applyHint legacy refactored) m := by
  induction hsub generalizing m with
  | slnil => rfl
  | cons hint hsub ih =>
    obtain ⟨hfresh, hnodup⟩ := List.nodup_cons.1 hnodup
    have hnone := habsent hint List.mem_cons_self fun hmem => hfresh (hsub.mem hmem)
    rw [List.foldlM_cons, applyHint_of_none hnone]
    exact ih hnodup (fun hint' hmem => habsent hint' (List.mem_cons_of_mem _ hmem)) m
  | cons_cons hint hsub ih =>
    obtain ⟨hfresh, hnodup⟩ := List.nodup_cons.1 hnodup
    rw [List.foldlM_cons, List.foldlM_cons]
    refine bind_congr fun m' => ih hnodup (fun hint' hmem hnot => ?_) m'
    refine habsent hint' (List.mem_cons_of_mem _ hmem) fun hcons => ?_
    rcases List.mem_cons.1 hcons with rfl | hmem'
    · exact hfresh hmem
    · exact hnot hmem'

/-! ## Turns after reordered hints -/

variable {α : Type} [Scalar α]

/-- What a node takes depends on which candidates are taken only. -/
theorem matchNode_of_perm (threshold : α) (candidates : List Node) {m m' n : NodePairs} {l : Node}
    (hperm : m'.pairs.Perm m.pairs) (h : matchNode threshold candidates m l = .ok n) :
    ∃ n', matchNode threshold candidates m' l = .ok n' ∧ n'.pairs.Perm n.pairs := by
  unfold matchNode at h ⊢
  simp only [Correspondence.isTarget_of_perm hperm]
  generalize Similarity.best? (α := α) l (candidates.filter fun c => !m.isTarget c.handle) = best at h ⊢
  cases best with
  | none =>
    cases h
    exact ⟨m', rfl, hperm⟩
  | some best =>
    by_cases hlt : threshold < best.2
    · simp only [if_pos hlt] at h ⊢
      exact Correspondence.add_of_perm hperm h
    · simp only [if_neg hlt] at h ⊢
      cases h
      exact ⟨m', rfl, hperm⟩

theorem run_of_perm (threshold : α) (legacy refactored : SyntaxTree) {hints hints' : Hints}
    (hdistinct : (hints.entries.map Prod.snd).Nodup) (hperm : hints'.entries.Perm hints.entries) {m : NodePairs}
    (h : run threshold hints legacy refactored = .ok m) :
    ∃ m', run threshold hints' legacy refactored = .ok m' ∧ m'.pairs.Perm m.pairs := by
  obtain ⟨start, hstart, hpairs⟩ := applyHints_of_distinct legacy refactored hints.keys_nodup hdistinct
  obtain ⟨start', hstart', hpairs'⟩ := applyHints_of_distinct legacy refactored hints'.keys_nodup
    ((hperm.map Prod.snd).nodup_iff.2 hdistinct)
  have hstarts : start'.pairs.Perm start.pairs := by
    rw [hpairs, hpairs']
    exact hperm.filterMap _
  rw [run, hstart, Chains.bind_ok] at h
  rw [run, hstart', Chains.bind_ok]
  simp only [Correspondence.isSource_of_perm hstarts]
  -- the same nodes take their turns, and each finds the same candidates free
  exact Chains.foldlM_related (f := matchNode threshold refactored.namedNodes)
    (R := fun m m' => m'.pairs.Perm m.pairs)
    (fun _ _ _ _ hrelated hturn => matchNode_of_perm threshold _ hrelated hturn) hstarts h

/-! ## The order of hints -/

/-- Hints to different new names may be given in any order: matching has the same
pairs, so the diff has the same added and removed nodes and the same modified ones up
to their order. Hints that name a declaration which is not there may be left out:
matching has the same result. Neither depends on how numbers are computed. -/
theorem hint_order_irrelevant (threshold : α) (legacy refactored : SyntaxTree) (hints : Hints)
    (hdistinct : (hints.entries.map Prod.snd).Nodup) :
    (∀ hints' : Hints, hints'.entries.Perm hints.entries →
      ∃ m m', run threshold hints legacy refactored = .ok m ∧ run threshold hints' legacy refactored = .ok m' ∧
        m'.pairs.Perm m.pairs ∧
        ∀ path, ∃ d d', Diff.compute path legacy refactored m = .ok d ∧ Diff.compute path legacy refactored m' = .ok d' ∧
          d'.added = d.added ∧ d'.removed = d.removed ∧ d'.modified.Perm d.modified ∧
          d'.files = d.files ∧ d'.overall = d.overall) ∧
    ∀ hints' : Hints, hints'.entries.Sublist hints.entries →
      (∀ hint ∈ hints.entries, hint ∉ hints'.entries → ¬legacy.Declares hint.1 ∨ ¬refactored.Declares hint.2) →
      run threshold hints' legacy refactored = run threshold hints legacy refactored := by
  refine ⟨fun hints' hperm => ?_, fun hints' hsub habsent => ?_⟩
  · obtain ⟨m, hm, hdeclared⟩ := run_declared threshold hints legacy refactored
    obtain ⟨m', hm', hpairs⟩ := run_of_perm threshold legacy refactored hdistinct hperm hm
    exact ⟨m, m', hm, hm', hpairs, fun path => Diff.compute_of_perm path (.of_declared hdeclared) hpairs⟩
  · have hsame := applyHints_of_sublist hsub hints.keys_nodup.of_map
      (fun hint hmem hnot => hintPair?_eq_none_iff.2 (habsent hint hmem hnot)) .empty
    rw [run, run, hsame]

/-- A source that declares functions of these names. -/
def functions (names : List String) : SyntaxTree :=
  .ofNodes "python" "" <| names.map fun name =>
    ⟨0, "function_definition", name, ⟨⟨0, 0⟩, ⟨0, 0⟩⟩, ⟨some name, [], []⟩, none, []⟩

def renames : Hints := ⟨[("f", "k"), ("gone", "m"), ("g", "h")], by decide⟩

def renamesReversed : Hints := ⟨[("g", "h"), ("gone", "m"), ("f", "k")], by decide⟩

def renamesFound : Hints := ⟨[("f", "k"), ("g", "h")], by decide⟩

/-- Two functions change places in the source, and a third one is gone. -/
theorem hint_order_irrelevant_renames :
    (renames.entries.map Prod.snd).Nodup ∧ renamesReversed.entries.Perm renames.entries ∧
    renamesFound.entries.Sublist renames.entries ∧ ¬(functions ["f", "g"]).Declares "gone" ∧
    ∃ m m', run defaultThreshold renames (functions ["f", "g"]) (functions ["h", "k"]) = .ok m ∧
      run defaultThreshold renamesReversed (functions ["f", "g"]) (functions ["h", "k"]) = .ok m' ∧
      m.pairs = [(0, 1), (1, 0)] ∧ m'.pairs.Perm m.pairs ∧
      run defaultThreshold renamesFound (functions ["f", "g"]) (functions ["h", "k"]) = .ok m := by
  have hdistinct : (renames.entries.map Prod.snd).Nodup := by decide
  have hperm : renamesReversed.entries.Perm renames.entries := by decide
  have hsub : renamesFound.entries.Sublist renames.entries := by decide
  have hgone : ¬(functions ["f", "g"]).Declares "gone" := by
    unfold SyntaxTree.Declares
    decide
  obtain ⟨hreordered, hshortened⟩ :=
    hint_order_irrelevant defaultThreshold (functions ["f", "g"]) (functions ["h", "k"]) renames hdistinct
  obtain ⟨m, m', hm, hm', hpairs, -⟩ := hreordered renamesReversed hperm
  have hsame := hshortened renamesFound hsub fun hint hmem hnot => by
    obtain rfl : hint = ("gone", "m") := by
      revert hint
      decide
    exact .inl hgone
  have hrun : run defaultThreshold renames (functions ["f", "g"]) (functions ["h", "k"]) =
      .ok ⟨[(0, 1), (1, 0)], by decide, by decide⟩ := rfl
  have hpair : m.pairs = [(0, 1), (1, 0)] := by
    rw [Except.ok.inj (hm.symm.trans hrun)]
  exact ⟨hdistinct, hperm, hsub, hgone, m, m', hm, hm', hpair, hpairs, hsame.trans hm⟩

end RefactorAudit.Matching
