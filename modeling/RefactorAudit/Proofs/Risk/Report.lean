import RefactorAudit.Proofs.Analysis

/-!
# The flags that an analysis reports

The scan of the source drops duplicates, so does the scan of the dependencies, and so
does the analysis when it puts the two together. What it reports is as if duplicates
were dropped once from all that was found (`dedup_scan_append`), and a result of an
analysis has just these flags (`flags_of_run`).
-/

namespace RefactorAudit

namespace Risk

/-- All that is found in a source and in its new dependencies, duplicates included: the
flags of the families in their order, and one flag for each dependency that names a
restrictive license, letter case aside. -/
def found (quality : Bool) (source : String) (dependencies : List String) : List Flag :=
  scanFamily security source ++ scanFamily licenses source ++ scanFamily compatibility source ++
    (if quality then scanFamily performance source ++ scanFamily maintainability source else []) ++
    (dependencies.filter fun x =>
      Text.occursIn "gpl" (Text.lower x) || Text.occursIn "copyleft" (Text.lower x)).map dependencyFlag

theorem isRestrictive_eq : isRestrictive = fun dependency =>
    Text.occursIn "gpl" (Text.lower dependency) || Text.occursIn "copyleft" (Text.lower dependency) := by
  funext dependency
  simp [isRestrictive, restrictiveMarkers]

theorem dedup_scan_append (options : ScanOptions) (source : String) (dependencies : List String) :
    dedup (scan options source ++ scanDependencies options dependencies) =
      if options.security then dedup (found options.quality source dependencies) else [] := by
  cases hsecurity : options.security with
  | true =>
    simp only [scan, scanDependencies, hsecurity, if_true, dedup_append_dedup]
    simp only [findings, hsecurity, if_true, isRestrictive_eq, found]
  | false =>
    simp only [scan, scanDependencies, findings, hsecurity, Bool.false_eq_true, if_false]
    rfl

end Risk

namespace Analysis

variable {α : Type} [Scalar α] [HasExp α] {grammar : Grammar} {options : Options} {result : Result α}

theorem flags_of_compare {l : Language} {legacy refactored : SyntaxTree}
    (h : compare options l legacy refactored = .ok result) :
    result.flags = Risk.dedup (Risk.scan options.scan refactored.source ++
      Risk.scanDependencies options.scan result.metrics.newDependencies) := by
  obtain ⟨pairs, -, h⟩ := Chains.bind_eq_ok_iff.1 h
  obtain ⟨diff, -, h⟩ := Chains.bind_eq_ok_iff.1 h
  obtain ⟨tags, -, h⟩ := Chains.bind_eq_ok_iff.1 h
  obtain ⟨report, -, h⟩ := Chains.bind_eq_ok_iff.1 h
  cases h
  rfl

theorem flags_of_run {language legacy refactored : String}
    (h : run grammar options language legacy refactored = .ok result) :
    result.flags = Risk.dedup (Risk.scan options.scan refactored ++
      Risk.scanDependencies options.scan result.metrics.newDependencies) := by
  by_cases hknown : language ∈ Language.all.map Language.name
  · obtain ⟨l, -, rfl⟩ := List.mem_map.1 hknown
    rw [run_name] at h
    split at h
    · cases h
    · split at h
      · cases h
      · rw [flags_of_compare h]
        rfl
  · rw [run, (Language.ofName?_eq_none_iff language).2 hknown] at h
    cases h

/-- The flags of an analysis are all that is found, without duplicates; without the
security scan there are none. The same holds for any source and any dependencies, as
the two scans and their sum are put together. Dropping duplicates keeps the first flag
of each kind, severity and description, in the order of the flags. -/
theorem flags_eq_dedup_found (grammar : Grammar) (options : Options) (language legacy refactored : String)
    (result : Result α) (h : run grammar options language legacy refactored = .ok result) :
    result.flags = (if options.scan.security then
      Risk.dedup (Risk.found options.scan.quality refactored result.metrics.newDependencies) else []) ∧
    (∀ (scan : Risk.ScanOptions) (source : String) (dependencies : List String),
      Risk.dedup (Risk.scan scan source ++ Risk.scanDependencies scan dependencies) =
        if scan.security then Risk.dedup (Risk.found scan.quality source dependencies) else []) ∧
    ∀ flags, Risk.KeepsFirst flags (Risk.dedup flags) := by
  refine ⟨?_, Risk.dedup_scan_append, Risk.keepsFirst_dedup⟩
  rw [flags_of_run h, Risk.dedup_scan_append]

section RealNumbers

attribute [local instance] Scalar.realScalar Scalar.realExact boundedExp

theorem flags_eq_dedup_found_classGrammar :
    (∃ result : Result ℝ,
      run classGrammar ⟨.empty, ⟨true, true⟩, false, "main"⟩ Language.java.name "Account" "GPL" = .ok result ∧
      result.flags = Risk.dedup (Risk.found true "GPL" result.metrics.newDependencies)) ∧
    ∃ result : Result ℝ,
      run classGrammar ⟨.empty, ⟨false, true⟩, false, "main"⟩ Language.java.name "Account" "GPL" = .ok result ∧
      result.flags = [] := by
  have hexp : Impact.ExpUpToTwo fun _ : ℝ => True := fun z hz => ⟨_, if_pos (hz.trans (by norm_num)), trivial⟩
  have hsound : ∀ source, source ≠ "" → ¬(classGrammar .java source).HasFault := by
    intro source hne
    rw [← Concrete.hasError_iff_hasFault (consistent_classGrammar _ source)]
    simp [classGrammar, hne]
  have hresult : ∀ options, ∃ result : Result ℝ,
      run classGrammar options Language.java.name "Account" "GPL" = .ok result := fun options =>
    run_of_no_fault options hexp (consistent_classGrammar _ _) (consistent_classGrammar _ _) (hsound _ (by decide))
      (hsound _ (by decide))
  constructor
  · obtain ⟨result, hrun⟩ := hresult ⟨.empty, ⟨true, true⟩, false, "main"⟩
    exact ⟨result, hrun, (flags_eq_dedup_found _ _ _ _ _ result hrun).1⟩
  · obtain ⟨result, hrun⟩ := hresult ⟨.empty, ⟨false, true⟩, false, "main"⟩
    exact ⟨result, hrun, (flags_eq_dedup_found _ _ _ _ _ result hrun).1⟩

end RealNumbers

end Analysis

end RefactorAudit
