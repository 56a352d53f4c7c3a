import RefactorAudit.Risk.Scan

/-!
# Flags without duplicates

`dedup` keeps the first flag of each key, in the order of the flags (`keepsFirst_dedup`).
What it drops from a list does not matter where it is applied again: dropping
duplicates from two lists and then from both together is as good as dropping them
once at the end (`dedup_append_dedup`), and a second pass changes nothing
(`dedup_dedup`). Each time the keys that were seen only count as a set
(`dedupFrom_congr`).
-/

namespace RefactorAudit.Risk

variable {seen : List (Kind × Severity × String)} {flags : List Flag} {f : Flag}

theorem dedupFrom_cons_of_mem (h : f.key ∈ seen) : dedupFrom seen (f :: flags) = dedupFrom seen flags := by
  rw [dedupFrom, if_pos (List.contains_iff_mem.2 h)]

theorem dedupFrom_cons_of_not_mem (h : f.key ∉ seen) :
    dedupFrom seen (f :: flags) = f :: dedupFrom (f.key :: seen) flags := by
  rw [dedupFrom, if_neg fun hc => h (List.contains_iff_mem.1 hc)]

/-! ## What is kept -/

theorem dedupFrom_sublist (seen : List (Kind × Severity × String)) (flags : List Flag) :
    (dedupFrom seen flags).Sublist flags := by
  induction flags generalizing seen with
  | nil => exact .slnil
  | cons g rest ih =>
    by_cases hg : g.key ∈ seen
    · rw [dedupFrom_cons_of_mem hg]
      exact (ih seen).cons g
    · rw [dedupFrom_cons_of_not_mem hg]
      exact (ih _).cons_cons g

theorem key_not_mem_of_mem_dedupFrom (h : f ∈ dedupFrom seen flags) : f.key ∉ seen := by
  induction flags generalizing seen with
  | nil => cases h
  | cons g rest ih =>
    by_cases hg : g.key ∈ seen
    · rw [dedupFrom_cons_of_mem hg] at h
      exact ih h
    · rw [dedupFrom_cons_of_not_mem hg] at h
      rcases List.mem_cons.1 h with rfl | h
      · exact hg
      · exact fun hseen => ih h (List.mem_cons_of_mem _ hseen)

theorem nodup_keys_dedupFrom (seen : List (Kind × Severity × String)) (flags : List Flag) :
    ((dedupFrom seen flags).map Flag.key).Nodup := by
  induction flags generalizing seen with
  | nil => exact .nil
  | cons g rest ih =>
    by_cases hg : g.key ∈ seen
    · rw [dedupFrom_cons_of_mem hg]
      exact ih seen
    · rw [dedupFrom_cons_of_not_mem hg, List.map_cons, List.nodup_cons]
      refine ⟨fun hmem => ?_, ih _⟩
      obtain ⟨f, hf, hkey⟩ := List.mem_map.1 hmem
      exact key_not_mem_of_mem_dedupFrom hf (hkey ▸ List.mem_cons_self)

theorem find?_of_mem_dedupFrom (h : f ∈ dedupFrom seen flags) : flags.find? (·.key = f.key) = some f := by
  induction flags generalizing seen with
  | nil => cases h
  | cons g rest ih =>
    by_cases hg : g.key ∈ seen
    · rw [dedupFrom_cons_of_mem hg] at h
      have hne : g.key ≠ f.key := fun heq => key_not_mem_of_mem_dedupFrom h (heq ▸ hg)
      rw [List.find?_cons_of_neg (by simpa using hne)]
      exact ih h
    · rw [dedupFrom_cons_of_not_mem hg] at h
      rcases List.mem_cons.1 h with rfl | h
      · exact List.find?_cons_of_pos (by simp)
      · have hne : g.key ≠ f.key := fun heq => key_not_mem_of_mem_dedupFrom h (heq ▸ List.mem_cons_self)
        rw [List.find?_cons_of_neg (by simpa using hne)]
        exact ih h

theorem exists_mem_dedupFrom (hf : f ∈ flags) (hseen : f.key ∉ seen) : ∃ g ∈ dedupFrom seen flags, g.key = f.key := by
  induction flags generalizing seen with
  | nil => cases hf
  | cons g rest ih =>
    by_cases hg : g.key ∈ seen
    · rw [dedupFrom_cons_of_mem hg]
      rcases List.mem_cons.1 hf with rfl | hf
      · exact absurd hg hseen
      · exact ih hf hseen
    · rw [dedupFrom_cons_of_not_mem hg]
      by_cases hkey : g.key = f.key
      · exact ⟨g, List.mem_cons_self, hkey⟩
      · rcases List.mem_cons.1 hf with rfl | hf
        · exact absurd rfl hkey
        · have hother : f.key ∉ g.key :: seen := List.not_mem_cons_of_ne_of_not_mem (Ne.symm hkey) hseen
          obtain ⟨k, hk, hsame⟩ := ih hf hother
          exact ⟨k, List.mem_cons_of_mem _ hk, hsame⟩

/-- `kept` holds the first flag of each key, in the order of the flags, and no other. -/
structure KeepsFirst (flags kept : List Flag) : Prop where
  sublist : kept.Sublist flags
  nodup : (kept.map Flag.key).Nodup
  first : ∀ f ∈ kept, flags.find? (·.key = f.key) = some f
  complete : ∀ f ∈ flags, ∃ g ∈ kept, g.key = f.key

theorem keepsFirst_dedup (flags : List Flag) : KeepsFirst flags (dedup flags) where
  sublist := dedupFrom_sublist [] flags
  nodup := nodup_keys_dedupFrom [] flags
  first _ := find?_of_mem_dedupFrom
  complete _ hf := exists_mem_dedupFrom hf List.not_mem_nil

/-! ## Stages -/

theorem dedupFrom_congr {seen' : List (Kind × Severity × String)} (h : ∀ k, k ∈ seen ↔ k ∈ seen') (flags : List Flag) :
    dedupFrom seen flags = dedupFrom seen' flags := by
  induction flags generalizing seen seen' with
  | nil => rfl
  | cons g rest ih =>
    by_cases hg : g.key ∈ seen
    · rw [dedupFrom_cons_of_mem hg, dedupFrom_cons_of_mem ((h _).1 hg)]
      exact ih h
    · rw [dedupFrom_cons_of_not_mem hg, dedupFrom_cons_of_not_mem (mt (h _).2 hg)]
      refine congrArg (g :: ·) (ih fun k => ?_)
      rw [List.mem_cons, List.mem_cons, h]

/-- The keys of a list are seen by what follows it. -/
theorem dedupFrom_append (seen : List (Kind × Severity × String)) (flags further : List Flag) :
    dedupFrom seen (flags ++ further) = dedupFrom seen flags ++ dedupFrom (flags.map Flag.key ++ seen) further := by
  induction flags generalizing seen with
  | nil => rfl
  | cons g rest ih =>
    rw [List.cons_append, List.map_cons, List.cons_append]
    by_cases hg : g.key ∈ seen
    · rw [dedupFrom_cons_of_mem hg, dedupFrom_cons_of_mem hg, ih]
      refine congrArg (_ ++ ·) (dedupFrom_congr (fun k => ?_) further)
      grind
    · rw [dedupFrom_cons_of_not_mem hg, dedupFrom_cons_of_not_mem hg, ih, List.cons_append]
      refine congrArg (fun tail => g :: (_ ++ tail)) (dedupFrom_congr (fun k => ?_) further)
      grind

/-- Of two passes over a list, each drops the keys that it has seen before. -/
theorem dedupFrom_dedupFrom (seen inner : List (Kind × Severity × String)) (flags : List Flag) :
    dedupFrom seen (dedupFrom inner flags) = dedupFrom (inner ++ seen) flags := by
  induction flags generalizing seen inner with
  | nil => rfl
  | cons g rest ih =>
    by_cases hinner : g.key ∈ inner
    · rw [dedupFrom_cons_of_mem hinner, dedupFrom_cons_of_mem (List.mem_append_left _ hinner)]
      exact ih seen inner
    · rw [dedupFrom_cons_of_not_mem hinner]
      by_cases hseen : g.key ∈ seen
      · rw [dedupFrom_cons_of_mem hseen, dedupFrom_cons_of_mem (List.mem_append_right _ hseen), ih]
        refine dedupFrom_congr (fun k => ?_) rest
        grind
      · have hneither : g.key ∉ inner ++ seen := fun h => (List.mem_append.1 h).elim hinner hseen
        rw [dedupFrom_cons_of_not_mem hseen, dedupFrom_cons_of_not_mem hneither, ih]
        refine congrArg (g :: ·) (dedupFrom_congr (fun k => ?_) rest)
        grind

theorem dedup_dedup (flags : List Flag) : dedup (dedup flags) = dedup flags := dedupFrom_dedupFrom [] [] flags

theorem mem_keys_dedup (flags : List Flag) (k : Kind × Severity × String) :
    k ∈ (dedup flags).map Flag.key ↔ k ∈ flags.map Flag.key := by
  have hkeeps := keepsFirst_dedup flags
  constructor
  · exact fun h => (hkeeps.sublist.map Flag.key).subset h
  · intro h
    obtain ⟨f, hf, rfl⟩ := List.mem_map.1 h
    obtain ⟨g, hg, hkey⟩ := hkeeps.complete f hf
    exact hkey ▸ List.mem_map_of_mem hg

/-- Dropping duplicates in two stages is dropping them once. -/
theorem dedup_append_dedup (flags further : List Flag) :
    dedup (dedup flags ++ dedup further) = dedup (flags ++ further) := by
  calc dedup (dedup flags ++ dedup further)
      = dedup (dedup flags) ++ dedupFrom ((dedup flags).map Flag.key ++ []) (dedup further) := dedupFrom_append ..
    _ = dedup flags ++ dedupFrom ((dedup flags).map Flag.key ++ []) further := by
      rw [dedup_dedup]
      exact congrArg (_ ++ ·) (dedupFrom_dedupFrom _ [] further)
    _ = dedup flags ++ dedupFrom (flags.map Flag.key ++ []) further := by
      rw [List.append_nil, List.append_nil, dedupFrom_congr (mem_keys_dedup flags)]
    _ = dedup (flags ++ further) := (dedupFrom_append ..).symm

/-! ## Scans -/

theorem flag?_eq_some_iff (s : Signature) (p : Pattern) (source : String) (f : Flag) :
    s.flag? p source = some f ↔ (0 < p.count source ∧ s.least ≤ p.count source) ∧
      f = ⟨s.kind, s.severity, s.describe (p.count source), s.suggestion⟩ := by
  simp only [Signature.flag?, Option.ite_none_right_eq_some, Option.some.injEq, eq_comm (a := f)]

theorem mem_scanFamily_iff (family : List Signature) (source : String) (f : Flag) :
    f ∈ scanFamily family source ↔ ∃ s ∈ family, ∃ p ∈ s.patterns, s.flag? p source = some f := by
  simp only [scanFamily, List.mem_flatMap, List.mem_filterMap]

/-- Without new dependencies the scan of the source says it all. -/
theorem dedup_scan (options : ScanOptions) (source : String) :
    dedup (scan options source ++ scanDependencies options []) = scan options source := by
  have hnone : scanDependencies options [] = [] := by
    rw [scanDependencies]
    split <;> rfl
  rw [hnone, List.append_nil, scan, dedup_dedup]

/-- A flag for dependencies is about one of them. -/
theorem exists_of_mem_scanDependencies {options : ScanOptions} {dependencies : List String}
    (h : f ∈ scanDependencies options dependencies) : ∃ x ∈ dependencies, f = dependencyFlag x := by
  unfold scanDependencies at h
  split at h
  · obtain ⟨x, hx, rfl⟩ := List.mem_map.1 ((dedupFrom_sublist _ _).subset h)
    exact ⟨x, (List.mem_filter.1 hx).1, rfl⟩
  · cases h

end RefactorAudit.Risk
