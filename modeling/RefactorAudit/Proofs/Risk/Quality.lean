import RefactorAudit.Proofs.Risk.Report

/-!
# The quality scan only adds flags

The flags of the quality families come behind those of the source and before those of
its dependencies. They cannot take the place of a later flag, because duplicates share
their kind, and no other family raises flags of their kinds. So without the quality
scan the flags are those with it, less the ones of the quality kinds
(`dedup_found_plain`). Nothing else in an analysis depends on what is scanned for
(`Analysis.run_scan`).
-/

namespace RefactorAudit

namespace Risk

variable {seen : List (Kind × Severity × String)} {flags : List Flag}

/-! ## Some flags left out -/

theorem dedup_isPrefix_append (flags further : List Flag) : dedup flags <+: dedup (flags ++ further) :=
  ⟨_, (dedupFrom_append [] flags further).symm⟩

/-- A key that no flag has may as well count as seen. -/
theorem dedupFrom_insert {k : Kind × Severity × String} (h : k ∉ flags.map Flag.key) :
    dedupFrom (k :: seen) flags = dedupFrom seen flags := by
  induction flags generalizing seen with
  | nil => rfl
  | cons g rest ih =>
    rw [List.map_cons, List.mem_cons, not_or] at h
    obtain ⟨hg, hrest⟩ := h
    by_cases hseen : g.key ∈ seen
    · rw [dedupFrom_cons_of_mem hseen, dedupFrom_cons_of_mem (List.mem_cons_of_mem k hseen)]
      exact ih hrest
    · have hunseen : g.key ∉ k :: seen := List.not_mem_cons_of_ne_of_not_mem (Ne.symm hg) hseen
      have hswap : dedupFrom (g.key :: k :: seen) rest = dedupFrom (k :: g.key :: seen) rest := by
        refine dedupFrom_congr (fun j => ?_) rest
        grind
      rw [dedupFrom_cons_of_not_mem hseen, dedupFrom_cons_of_not_mem hunseen, hswap, ih hrest]

/-- Leaving out flags by their keys, before or after duplicates are dropped. -/
theorem filter_dedupFrom (keep : Kind × Severity × String → Bool) (seen : List (Kind × Severity × String))
    (flags : List Flag) :
    (dedupFrom seen flags).filter (fun f => keep f.key) = dedupFrom seen (flags.filter fun f => keep f.key) := by
  induction flags generalizing seen with
  | nil => rfl
  | cons g rest ih =>
    cases hkeep : keep g.key with
    | true =>
      have hfilter : ∀ fs : List Flag,
          (g :: fs).filter (fun f => keep f.key) = g :: fs.filter (fun f => keep f.key) := fun fs =>
        List.filter_cons_of_pos (by simpa using hkeep)
      rw [hfilter]
      by_cases hseen : g.key ∈ seen
      · rw [dedupFrom_cons_of_mem hseen, dedupFrom_cons_of_mem hseen, ih]
      · rw [dedupFrom_cons_of_not_mem hseen, dedupFrom_cons_of_not_mem hseen, hfilter, ih]
    | false =>
      rw [List.filter_cons_of_neg (by simp [hkeep])]
      by_cases hseen : g.key ∈ seen
      · rw [dedupFrom_cons_of_mem hseen, ih]
      · -- the flags that stay have other keys than this one
        have hother : g.key ∉ (rest.filter fun f => keep f.key).map Flag.key := by
          intro hmem
          obtain ⟨f, hf, hkey⟩ := List.mem_map.1 hmem
          have hkept := (List.mem_filter.1 hf).2
          rw [hkey, hkeep] at hkept
          cases hkept
        rw [dedupFrom_cons_of_not_mem hseen, List.filter_cons_of_neg (by simp [hkeep]), ih, dedupFrom_insert hother]

/-! ## Kinds -/

/-- The kinds of the families that only the quality scan looks for. -/
def Kind.isQuality : Kind → Bool
  | .performance | .maintainability => true
  | .security | .license | .compatibility => false

theorem exists_of_mem_scanFamily {family : List Signature} {source : String} {f : Flag}
    (h : f ∈ scanFamily family source) : ∃ s ∈ family, f.kind = s.kind := by
  obtain ⟨s, hs, p, -, hflag⟩ := (mem_scanFamily_iff family source f).1 h
  obtain ⟨-, rfl⟩ := (flag?_eq_some_iff s p source f).1 hflag
  exact ⟨s, hs, rfl⟩

theorem filter_scanFamily_plain {family : List Signature} (h : ∀ s ∈ family, s.kind.isQuality = false)
    (source : String) : (scanFamily family source).filter (fun f => !f.kind.isQuality) = scanFamily family source := by
  rw [List.filter_eq_self]
  intro f hf
  obtain ⟨s, hs, hkind⟩ := exists_of_mem_scanFamily hf
  simp [hkind, h s hs]

theorem filter_scanFamily_quality {family : List Signature} (h : ∀ s ∈ family, s.kind.isQuality = true)
    (source : String) : (scanFamily family source).filter (fun f => !f.kind.isQuality) = [] := by
  rw [List.filter_eq_nil_iff]
  intro f hf
  obtain ⟨s, hs, hkind⟩ := exists_of_mem_scanFamily hf
  simp [hkind, h s hs]

theorem filter_found (source : String) (dependencies : List String) :
    (found true source dependencies).filter (fun f => !f.kind.isQuality) = found false source dependencies := by
  have hdependencies : ∀ names : List String,
      (names.map dependencyFlag).filter (fun f => !f.kind.isQuality) = names.map dependencyFlag := by
    intro names
    rw [List.filter_eq_self]
    intro f hf
    obtain ⟨name, -, rfl⟩ := List.mem_map.1 hf
    rfl
  have hsecurity : ∀ s ∈ security, s.kind.isQuality = false := by decide
  have hlicenses : ∀ s ∈ licenses, s.kind.isQuality = false := by decide
  have hcompatibility : ∀ s ∈ compatibility, s.kind.isQuality = false := by decide
  have hperformance : ∀ s ∈ performance, s.kind.isQuality = true := by decide
  have hmaintainability : ∀ s ∈ maintainability, s.kind.isQuality = true := by decide
  simp only [found, List.filter_append, if_true, Bool.false_eq_true, if_false, hdependencies,
    filter_scanFamily_plain hsecurity, filter_scanFamily_plain hlicenses, filter_scanFamily_plain hcompatibility,
    filter_scanFamily_quality hperformance, filter_scanFamily_quality hmaintainability, List.append_nil]

theorem dedup_found_plain (source : String) (dependencies : List String) :
    dedup (found false source dependencies) =
      (dedup (found true source dependencies)).filter fun f => !f.kind.isQuality := by
  rw [← filter_found]
  exact (filter_dedupFrom (fun k => !k.1.isQuality) [] _).symm

theorem dedup_scan_plain (security : Bool) (source : String) (dependencies : List String) :
    dedup (scan ⟨security, false⟩ source ++ scanDependencies ⟨security, false⟩ dependencies) =
      (dedup (scan ⟨security, true⟩ source ++ scanDependencies ⟨security, true⟩ dependencies)).filter
        fun f => !f.kind.isQuality := by
  rw [dedup_scan_append, dedup_scan_append]
  cases security with
  | false => rfl
  | true =>
    simp only [if_true]
    exact dedup_found_plain source dependencies

theorem scan_isPrefix_quality (source : String) : scan ⟨true, false⟩ source <+: scan ⟨true, true⟩ source := by
  have h := dedup_isPrefix_append (scanFamily security source ++ scanFamily licenses source ++ scanFamily compatibility source)
    (scanFamily performance source ++ scanFamily maintainability source)
  simpa [scan, findings] using h

end Risk

namespace Analysis

variable {α : Type} [Scalar α] [HasExp α]

/-! ## Analyses -/

def Options.withScan (options : Options) (scan : Risk.ScanOptions) : Options := { options with scan := scan }

/-- The result with the flags that are found under the scan options. -/
def Result.withScan (scan : Risk.ScanOptions) (source : String) (result : Result α) : Result α :=
  { result with
    flags := Risk.dedup (Risk.scan scan source ++ Risk.scanDependencies scan result.metrics.newDependencies) }

theorem compare_scan (options : Options) (scan : Risk.ScanOptions) (l : Language) (legacy refactored : SyntaxTree) :
    compare (α := α) (options.withScan scan) l legacy refactored =
      Result.withScan scan refactored.source <$> compare options l legacy refactored := by
  unfold compare
  simp only [map_bind, map_pure]
  rfl

theorem run_scan (grammar : Grammar) (options : Options) (scan : Risk.ScanOptions)
    (language legacy refactored : String) :
    run (α := α) grammar (options.withScan scan) language legacy refactored =
      Result.withScan scan refactored <$> run grammar options language legacy refactored := by
  by_cases hknown : language ∈ Language.all.map Language.name
  · obtain ⟨l, -, rfl⟩ := List.mem_map.1 hknown
    rw [run_name, run_name, compare_scan]
    split
    · rfl
    · split <;> rfl
  · rw [run, run, (Language.ofName?_eq_none_iff language).2 hknown]
    rfl

/-- The quality scan adds flags and changes nothing else. In a scan of a source its
flags stand behind all others. An analysis without it fails exactly if the one with it
does, with the same failure, or the two have the same results but for the flags: those
without it are a sublist, and what is left out are the flags of quality kinds. -/
theorem quality_scan_only_adds (grammar : Grammar) (options : Options) (security : Bool)
    (language legacy refactored : String) :
    (∀ source, Risk.scan ⟨true, false⟩ source <+: Risk.scan ⟨true, true⟩ source) ∧
    (∀ failure, run (α := α) grammar (options.withScan ⟨security, false⟩) language legacy refactored = .error failure ↔
      run grammar (options.withScan ⟨security, true⟩) language legacy refactored = .error failure) ∧
    ∀ plain : Result α, run grammar (options.withScan ⟨security, false⟩) language legacy refactored = .ok plain →
      ∃ full : Result α, run grammar (options.withScan ⟨security, true⟩) language legacy refactored = .ok full ∧
        full = { plain with flags := full.flags } ∧ plain.flags.Sublist full.flags ∧
        plain.flags = full.flags.filter fun f => !f.kind.isQuality := by
  refine ⟨Risk.scan_isPrefix_quality, ?_, ?_⟩
  · intro failure
    rw [run_scan, run_scan]
    cases run (α := α) grammar options language legacy refactored <;> simp
  · intro plain hplain
    have hfull := run_scan (α := α) grammar (options.withScan ⟨security, false⟩) ⟨security, true⟩ language legacy
      refactored
    rw [hplain] at hfull
    have hflags : plain.flags =
        (plain.withScan ⟨security, true⟩ refactored).flags.filter fun f => !f.kind.isQuality := by
      rw [flags_of_run hplain]
      exact Risk.dedup_scan_plain security refactored plain.metrics.newDependencies
    refine ⟨_, hfull, rfl, ?_, hflags⟩
    rw [hflags]
    exact List.filter_sublist

section RealNumbers

attribute [local instance] Scalar.realScalar Scalar.realExact boundedExp

/-- A note of something to do is found by the quality scan only. -/
theorem quality_scan_only_adds_note :
    ∃ plain full : Result ℝ,
      run classGrammar (Options.standard.withScan ⟨true, false⟩) Language.java.name "Account" "//TODO" = .ok plain ∧
      run classGrammar (Options.standard.withScan ⟨true, true⟩) Language.java.name "Account" "//TODO" = .ok full ∧
      plain.flags.Sublist full.flags ∧ (∀ f ∈ plain.flags, f.kind ≠ .maintainability) ∧
      ∃ f ∈ full.flags, f.kind = .maintainability := by
  obtain ⟨plain, hplain⟩ := exists_run_classGrammar (Options.standard.withScan ⟨true, false⟩)
    (show "Account" ≠ "" by decide) (show "//TODO" ≠ "" by decide)
  obtain ⟨-, -, hadds⟩ := quality_scan_only_adds (α := ℝ) classGrammar .standard true Language.java.name "Account"
    "//TODO"
  obtain ⟨full, hfull, -, hsublist, hfilter⟩ := hadds plain hplain
  refine ⟨plain, full, hplain, hfull, hsublist, ?_, ?_⟩
  · intro f hf hkind
    rw [hfilter] at hf
    simp [hkind, Risk.Kind.isQuality] at hf
  · have hnote : ∃ f ∈ Risk.scanFamily Risk.maintainability "//TODO", f.kind = .maintainability := by decide +kernel
    obtain ⟨f, hf, hkind⟩ := hnote
    have hfound : f ∈ Risk.found true "//TODO" full.metrics.newDependencies := by simp [Risk.found, hf]
    obtain ⟨g, hg, hkey⟩ := (Risk.keepsFirst_dedup _).complete f hfound
    refine ⟨g, ?_, (congrArg Prod.fst hkey).trans hkind⟩
    rw [flags_of_run hfull, Risk.dedup_scan_append]
    simp only [Options.withScan, if_true]
    exact hg

end RealNumbers

end Analysis

end RefactorAudit
