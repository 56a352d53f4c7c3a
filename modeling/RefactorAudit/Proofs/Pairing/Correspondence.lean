import Mathlib.Data.List.Nodup
import RefactorAudit.Pairing.Correspondence
import RefactorAudit.Proofs.Chains

/-!
# Pairs stay one to one

Each side of a pair determines the other. So looking an element up, from either side,
finds the one pair that it is in (`target?_eq_some_iff`, `source?_eq_some_iff`). Read
from the other side, a correspondence is the one that the reversed pairs make
(`addAll_swap`).
-/

namespace RefactorAudit.Correspondence

variable {α β : Type} {m : Correspondence α β} {p q : α × β}

theorem eq_of_source_eq (hp : p ∈ m.pairs) (hq : q ∈ m.pairs) (h : p.1 = q.1) : p = q :=
  List.inj_on_of_nodup_map m.sources_nodup hp hq h

theorem eq_of_target_eq (hp : p ∈ m.pairs) (hq : q ∈ m.pairs) (h : p.2 = q.2) : p = q :=
  List.inj_on_of_nodup_map m.targets_nodup hp hq h

@[simp] theorem isSource_iff [DecidableEq α] {a : α} : m.isSource a = true ↔ a ∈ m.sources := by simp [isSource]

@[simp] theorem isTarget_iff [DecidableEq β] {b : β} : m.isTarget b = true ↔ b ∈ m.targets := by simp [isTarget]

/-! ## Looking up -/

/-- Where keys are not repeated, looking up a key finds its entry. -/
theorem lookup_eq_some_iff_mem {κ ν : Type} [DecidableEq κ] {entries : List (κ × ν)} (h : (entries.map Prod.fst).Nodup)
    {k : κ} {v : ν} : entries.lookup k = some v ↔ (k, v) ∈ entries := by
  constructor
  · intro hfound
    obtain ⟨before, after, rfl, -⟩ := List.lookup_eq_some_iff.1 hfound
    simp
  · intro hmem
    cases hfound : entries.lookup k with
    | none => simpa using List.lookup_eq_none_iff.1 hfound _ hmem
    | some w =>
      obtain ⟨before, after, rfl, -⟩ := List.lookup_eq_some_iff.1 hfound
      have heq := List.inj_on_of_nodup_map h hmem (show (k, w) ∈ _ by simp) rfl
      rw [(Prod.mk.inj heq).2]

theorem target?_eq_some_iff [DecidableEq α] {a : α} {b : β} : m.target? a = some b ↔ (a, b) ∈ m.pairs :=
  lookup_eq_some_iff_mem m.sources_nodup

theorem source?_eq_some_iff [DecidableEq β] {a : α} {b : β} : m.source? b = some a ↔ (a, b) ∈ m.pairs := by
  have hnodup : ((m.pairs.map Prod.swap).map Prod.fst).Nodup := by
    rw [List.map_map]
    exact m.targets_nodup
  rw [source?, lookup_eq_some_iff_mem hnodup]
  simp

theorem mem_targets_iff [DecidableEq β] {b : β} : b ∈ m.targets ↔ m.source? b ≠ none := by
  rw [Option.ne_none_iff_exists', targets, List.mem_map]
  simp only [source?_eq_some_iff]
  exact ⟨fun ⟨p, hp, hb⟩ => ⟨p.1, hb ▸ hp⟩, fun ⟨a, ha⟩ => ⟨(a, b), ha, rfl⟩⟩

/-! ## Adding -/

section Adding

variable [DecidableEq α] [DecidableEq β] {a : α} {b : β}

theorem add_of_mem_sources (ha : a ∈ m.sources) : m.add a b = .error (.source a) := dif_pos ha

theorem add_of_mem_targets (ha : a ∉ m.sources) (hb : b ∈ m.targets) : m.add a b = .error (.target b) := by
  rw [add, dif_neg ha, dif_pos hb]

/-- A pair of free elements can be added. -/
theorem add_ok (ha : a ∉ m.sources) (hb : b ∉ m.targets) :
    ∃ m', m.add a b = .ok m' ∧ m'.pairs = m.pairs ++ [(a, b)] := by
  rw [add, dif_neg ha, dif_neg hb]
  exact ⟨_, rfl, rfl⟩

theorem add_refuses_iff : (∃ why, m.add a b = .error why) ↔ a ∈ m.sources ∨ b ∈ m.targets := by
  constructor
  · rintro ⟨why, hwhy⟩
    by_contra hfree
    obtain ⟨ha, hb⟩ := not_or.1 hfree
    obtain ⟨m', hm', -⟩ := m.add_ok ha hb
    exact nomatch hwhy.symm.trans hm'
  · intro htaken
    by_cases ha : a ∈ m.sources
    · exact ⟨_, add_of_mem_sources ha⟩
    · exact ⟨_, add_of_mem_targets ha (htaken.resolve_left ha)⟩

theorem free_of_add {m' : Correspondence α β} (h : m.add a b = .ok m') : a ∉ m.sources ∧ b ∉ m.targets := by
  rw [← not_or, ← add_refuses_iff]
  rintro ⟨why, hwhy⟩
  exact nomatch hwhy.symm.trans h

/-- A pair that was added is the last one. -/
theorem pairs_of_add {m' : Correspondence α β} (h : m.add a b = .ok m') : m'.pairs = m.pairs ++ [(a, b)] := by
  obtain ⟨ha, hb⟩ := free_of_add h
  obtain ⟨m'', hm'', hpairs⟩ := add_ok ha hb
  rwa [Except.ok.inj (h.symm.trans hm'')]

end Adding

/-! ## The same pairs in another order -/

section Reordered

variable {m' : Correspondence α β}

theorem isSource_of_perm [DecidableEq α] (h : m'.pairs.Perm m.pairs) (a : α) : m'.isSource a = m.isSource a :=
  (h.map Prod.fst).contains_eq

theorem isTarget_of_perm [DecidableEq β] (h : m'.pairs.Perm m.pairs) (b : β) : m'.isTarget b = m.isTarget b :=
  (h.map Prod.snd).contains_eq

theorem add_of_perm [DecidableEq α] [DecidableEq β] {n : Correspondence α β} {a : α} {b : β}
    (h : m'.pairs.Perm m.pairs) (hadd : m.add a b = .ok n) : ∃ n', m'.add a b = .ok n' ∧ n'.pairs.Perm n.pairs := by
  obtain ⟨ha, hb⟩ := free_of_add hadd
  have ha' : a ∉ m'.sources := fun hmem => ha ((h.map Prod.fst).mem_iff.1 hmem)
  have hb' : b ∉ m'.targets := fun hmem => hb ((h.map Prod.snd).mem_iff.1 hmem)
  obtain ⟨n', hn', hpairs⟩ := add_ok ha' hb'
  refine ⟨n', hn', ?_⟩
  rw [hpairs, pairs_of_add hadd]
  exact h.append_right _

end Reordered

/-! ## The other side -/

section Swapped

/-- The correspondence read from its other side. -/
def swap (m : Correspondence α β) : Correspondence β α where
  pairs := m.pairs.map Prod.swap
  sources_nodup := by
    rw [List.map_map]
    exact m.targets_nodup
  targets_nodup := by
    rw [List.map_map]
    exact m.sources_nodup

@[simp] theorem pairs_swap (m : Correspondence α β) : m.swap.pairs = m.pairs.map Prod.swap := rfl

@[simp] theorem swap_swap (m : Correspondence α β) : m.swap.swap = m := by
  obtain ⟨pairs, hsources, htargets⟩ := m
  simp [swap]

theorem isTarget_swap [DecidableEq α] (m : Correspondence α β) (a : α) : m.swap.isTarget a = m.isSource a := by
  simp [isTarget, isSource, targets, sources]

theorem isSource_swap [DecidableEq β] (m : Correspondence α β) (b : β) : m.swap.isSource b = m.isTarget b := by
  simp [isTarget, isSource, targets, sources]

theorem source?_swap [DecidableEq α] (m : Correspondence α β) (a : α) : m.swap.source? a = m.target? a := by
  simp [source?, target?]

/-- Adding the pairs of a correspondence in their order builds it. -/
theorem addAll_pairs [DecidableEq α] [DecidableEq β] (m : Correspondence α β) : empty.addAll m.pairs = .ok m := by
  have hstep : ∀ done p rest, m.pairs = done ++ p :: rest → ∀ m' : Correspondence α β, m'.pairs = done →
      ∃ m'', m'.add p.1 p.2 = .ok m'' ∧ m''.pairs = done ++ [p] := by
    rintro done p rest hsplit m' rfl
    have hsource : p.1 ∉ m'.sources := Chains.key_not_mem_done m.sources_nodup hsplit
    have htarget : p.2 ∉ m'.targets := Chains.key_not_mem_done m.targets_nodup hsplit
    exact add_ok hsource htarget
  obtain ⟨m', hm', hpairs⟩ : ∃ m', empty.addAll m.pairs = .ok m' ∧ m'.pairs = m.pairs :=
    Chains.foldlM_ok (P := fun done (m' : Correspondence α β) => m'.pairs = done) rfl hstep
  obtain ⟨pairs, hsources, htargets⟩ := m
  obtain ⟨pairs', hsources', htargets'⟩ := m'
  subst hpairs
  exact hm'

theorem addAll_swap [DecidableEq α] [DecidableEq β] (m : Correspondence α β) :
    empty.addAll (m.pairs.map Prod.swap) = .ok m.swap :=
  m.swap.addAll_pairs

end Swapped

end RefactorAudit.Correspondence
