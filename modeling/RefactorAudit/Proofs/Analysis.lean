import RefactorAudit.Analysis
import RefactorAudit.Proofs.Impact.Score
import RefactorAudit.Proofs.Pairing.Identity
import RefactorAudit.Proofs.Risk.Flag
import RefactorAudit.Proofs.Syntax.Faults

/-!
# What an analysis comes to

Each stage hands the next one what it needs: matching gives pairs within the two
trees, so there is a diff; every diff is classified; counts of a diff are not
negative, so there is a score. Hence comparing two trees never fails
(`compare_total`), and an analysis fails exactly for unknown languages and for
faulty sources. A source compared with itself shows no change.
-/

namespace RefactorAudit.Analysis

open Scalar

variable {α : Type} [Scalar α]

/-! ## Parsing -/

section Parsing

variable [HasExp α]

/-- In a known language, faults of the two sources are reported before anything else
is done. -/
theorem run_name (grammar : Grammar) (options : Options) (l : Language) (legacy refactored : String) :
    run (α := α) grammar options l.name legacy refactored =
      if (grammar l legacy).hasError then .error (.parse (.faulty l.name (grammar l legacy).fault))
      else if (grammar l refactored).hasError then .error (.parse (.faulty l.name (grammar l refactored).fault))
      else compare options l ((grammar l legacy).toTree l legacy) ((grammar l refactored).toTree l refactored) := by
  rw [run, Language.ofName?_name]
  simp only [Grammars.syntaxTree_name]
  split
  · rfl
  · split <;> rfl

variable {grammar : Grammar} {options : Options} {l : Language} {legacy refactored : String}

theorem run_of_legacy_fault (hlegacy : (grammar l legacy).Consistent) (h : (grammar l legacy).HasFault) :
    run (α := α) grammar options l.name legacy refactored =
      .error (.parse (.faulty l.name (grammar l legacy).fault)) := by
  rw [run_name, if_pos ((Concrete.hasError_iff_hasFault hlegacy).2 h)]

theorem run_of_refactored_fault (hlegacy : (grammar l legacy).Consistent)
    (hrefactored : (grammar l refactored).Consistent) (hl : ¬(grammar l legacy).HasFault)
    (hr : (grammar l refactored).HasFault) :
    run (α := α) grammar options l.name legacy refactored =
      .error (.parse (.faulty l.name (grammar l refactored).fault)) := by
  rw [run_name, if_neg (mt (Concrete.hasError_iff_hasFault hlegacy).1 hl),
    if_pos ((Concrete.hasError_iff_hasFault hrefactored).2 hr)]

end Parsing

/-! ## Stages -/

/-- Matching pairs nodes of the two trees. -/
theorem matching_ok (threshold : α) (hints : Hints) (legacy refactored : SyntaxTree) :
    ∃ pairs, Matching.run threshold hints legacy refactored = .ok pairs ∧ Diff.PairsWithin legacy refactored pairs := by
  obtain ⟨pairs, hrun, hdeclared⟩ := Matching.run_declared threshold hints legacy refactored
  exact ⟨pairs, hrun, .of_declared hdeclared⟩

variable [Exact α]

variable [HasExp α]

/-- Comparing two trees never fails if there are exponentials up to 2. -/
theorem compare_total (hexp : Impact.ExpUpToTwo fun _ : α => True) (options : Options) (l : Language)
    (legacy refactored : SyntaxTree) : ∃ result : Result α, compare options l legacy refactored = .ok result := by
  obtain ⟨pairs, hpairs, hwithin⟩ := matching_ok (ofRat Matching.defaultThreshold : α) options.hints legacy refactored
  obtain ⟨d, hd⟩ := Diff.compute_total options.path hwithin
  obtain ⟨tags, htags⟩ := classify_total (α := α) Registry.standard_inRange d
  obtain ⟨report, hreport⟩ := Impact.score_total hexp (Diff.compute_eq_ok_iff.1 hd) tags
    (if options.adjustForLanguage then some l.name else none)
  unfold compare
  simp only [Chains.mapError_ok _ hpairs, Chains.mapError_ok _ hd, Chains.mapError_ok _ htags,
    Chains.mapError_ok _ hreport, Chains.bind_ok]
  exact ⟨_, rfl⟩

section NoFault

variable {grammar : Grammar} {l : Language} {legacy refactored : String}

theorem run_of_no_fault (options : Options) (hexp : Impact.ExpUpToTwo fun _ : α => True)
    (hlegacy : (grammar l legacy).Consistent) (hrefactored : (grammar l refactored).Consistent)
    (hl : ¬(grammar l legacy).HasFault) (hr : ¬(grammar l refactored).HasFault) :
    ∃ result : Result α, run grammar options l.name legacy refactored = .ok result := by
  rw [run_name, if_neg (mt (Concrete.hasError_iff_hasFault hlegacy).1 hl),
    if_neg (mt (Concrete.hasError_iff_hasFault hrefactored).1 hr)]
  exact compare_total hexp options l _ _

/-- A known language is never refused. -/
theorem run_name_ne_unsupported (options : Options) (hexp : Impact.ExpUpToTwo fun _ : α => True) (language : String) :
    run (α := α) grammar options l.name legacy refactored ≠ .error (.parse (.unsupported language)) := by
  obtain ⟨result, hresult⟩ := compare_total hexp options l ((grammar l legacy).toTree l legacy)
    ((grammar l refactored).toTree l refactored)
  rw [run_name, hresult]
  split
  · simp
  · split <;> simp

end NoFault

/-! ## A small language

Every source is the name of a class, and the empty one is a fault. -/

def classGrammar : Grammar := fun _ source =>
  let node (kind : String) (hasError : Bool) (field : Option String) (children : List Concrete) : Concrete :=
    ⟨kind, source, ⟨⟨0, 0⟩, ⟨0, source.length⟩⟩, true, false, hasError, field, children⟩
  if source = "" then node "program" true none [node "ERROR" true none []]
  else node "program" false none [node "class_declaration" false none [node "identifier" false (some "name") []]]

theorem consistent_classGrammar (l : Language) (source : String) : (classGrammar l source).Consistent := by
  unfold classGrammar
  split <;> simp [Concrete.consistent_mk]

/-- The exponential up to 709; beyond, it is too large. -/
noncomputable abbrev boundedExp : HasExp ℝ := ⟨fun x => if x ≤ 709 then some (Real.exp x) else none⟩

section RealNumbers

attribute [local instance] realScalar realExact boundedExp

/-- Every source but the empty one has an analysis in the small language. -/
theorem exists_run_classGrammar (options : Options) {legacy refactored : String} (hlegacy : legacy ≠ "")
    (hrefactored : refactored ≠ "") :
    ∃ result : Result ℝ, run classGrammar options Language.java.name legacy refactored = .ok result := by
  have hexp : Impact.ExpUpToTwo fun _ : ℝ => True := fun z hz => ⟨_, if_pos (hz.trans (by norm_num)), trivial⟩
  have hsound : ∀ source, source ≠ "" → ¬(classGrammar .java source).HasFault := by
    intro source hne
    rw [← Concrete.hasError_iff_hasFault (consistent_classGrammar _ source)]
    simp [classGrammar, hne]
  exact run_of_no_fault options hexp (consistent_classGrammar _ _) (consistent_classGrammar _ _) (hsound _ hlegacy)
    (hsound _ hrefactored)

end RealNumbers

/-! ## Failures -/

/-- When an analysis fails, and with what. An unknown language is refused. Else the
fault of the legacy tree is reported if there is a faulty node in it, then that of
the refactored tree; in all other cases there is a result. Of the exponential only
this is used: it does not overflow up to 709. -/
theorem run_fails_iff (hexp : ∀ x : α, toReal x ≤ 709 → ∃ y, HasExp.exp? x = some y) (grammar : Grammar)
    (options : Options) (legacy refactored : String) :
    (∀ language, run (α := α) grammar options language legacy refactored = .error (.parse (.unsupported language)) ↔
      language ∉ Language.all.map Language.name) ∧
    ∀ l : Language, (grammar l legacy).Consistent → (grammar l refactored).Consistent →
      (run (α := α) grammar options l.name legacy refactored =
          .error (.parse (.faulty l.name (grammar l legacy).fault)) ↔ (grammar l legacy).HasFault) ∧
      (¬(grammar l legacy).HasFault →
        (run (α := α) grammar options l.name legacy refactored =
          .error (.parse (.faulty l.name (grammar l refactored).fault)) ↔ (grammar l refactored).HasFault)) ∧
      (¬(grammar l legacy).HasFault → ¬(grammar l refactored).HasFault →
        ∃ result : Result α, run grammar options l.name legacy refactored = .ok result) := by
  have hupTo : Impact.ExpUpToTwo fun _ : α => True := by
    intro z hz
    obtain ⟨y, hy⟩ := hexp z (hz.trans (by norm_num))
    exact ⟨y, hy, trivial⟩
  constructor
  · intro language
    by_cases hknown : language ∈ Language.all.map Language.name
    · obtain ⟨l, -, rfl⟩ := List.mem_map.1 hknown
      exact iff_of_false (run_name_ne_unsupported options hupTo _) (not_not.2 hknown)
    · refine iff_of_true ?_ hknown
      rw [run, (Language.ofName?_eq_none_iff language).2 hknown]
  · intro l hlegacy hrefactored
    refine ⟨⟨?_, run_of_legacy_fault hlegacy⟩, fun hl => ⟨?_, run_of_refactored_fault hlegacy hrefactored hl⟩,
      run_of_no_fault options hupTo hlegacy hrefactored⟩
    · intro hrun
      by_contra hl
      by_cases hr : (grammar l refactored).HasFault
      · -- the report is that of the refactored tree, and only that one has a place
        rw [run_of_refactored_fault hlegacy hrefactored hl hr] at hrun
        have hsame : (grammar l refactored).fault = (grammar l legacy).fault := by simpa using hrun
        have hplace := (Concrete.place?_fault_eq_none_iff hlegacy).2 hl
        rw [← hsame, Concrete.place?_fault_eq_none_iff hrefactored] at hplace
        exact hplace hr
      · obtain ⟨result, hresult⟩ := run_of_no_fault options hupTo hlegacy hrefactored hl hr
        simp [hresult] at hrun
    · intro hrun
      by_contra hr
      obtain ⟨result, hresult⟩ := run_of_no_fault options hupTo hlegacy hrefactored hl hr
      simp [hresult] at hrun

section RealNumbers

attribute [local instance] realScalar realExact boundedExp

theorem run_fails_iff_classGrammar :
    run (α := ℝ) classGrammar .standard "cobol" "Account" "" = .error (.parse (.unsupported "cobol")) ∧
    run (α := ℝ) classGrammar .standard Language.java.name "Account" "" =
      .error (.parse (.faulty Language.java.name (.unexpected ⟨0, 0⟩))) ∧
    ∃ result : Result ℝ,
      run (α := ℝ) classGrammar .standard Language.java.name "Account" "Ledger" = .ok result := by
  have hexp : ∀ x : ℝ, toReal x ≤ 709 → ∃ y, HasExp.exp? x = some y := fun x hx => ⟨_, if_pos hx⟩
  have hfault : ∀ source, (classGrammar .java source).HasFault ↔ (classGrammar .java source).hasError = true :=
    fun source => (Concrete.hasError_iff_hasFault (consistent_classGrammar _ source)).symm
  have hsound : ∀ source, source ≠ "" → ¬(classGrammar .java source).HasFault := by
    intro source hne
    rw [hfault]
    simp [classGrammar, hne]
  have hempty : (classGrammar .java "").HasFault := by
    rw [hfault]
    simp [classGrammar]
  obtain ⟨hunsupported, hfaulty⟩ := run_fails_iff hexp classGrammar .standard "Account" ""
  obtain ⟨-, -, hresult⟩ := (run_fails_iff hexp classGrammar .standard "Account" "Ledger").2 .java
    (consistent_classGrammar _ _) (consistent_classGrammar _ _)
  refine ⟨(hunsupported "cobol").2 (by decide), ?_, hresult (hsound _ (by decide)) (hsound _ (by decide))⟩
  obtain ⟨-, hsecond, -⟩ := hfaulty .java (consistent_classGrammar _ _) (consistent_classGrammar _ _)
  exact (hsecond (hsound _ (by decide))).2 hempty

end RealNumbers

/-! ## No change -/

/-- A source without faults, compared with itself under hints that send names to
themselves only. -/
theorem run_self_unchanged (grammar : Grammar) (options : Options) (l : Language) (source : String)
    (hsound : (grammar l source).hasError = false) (hself : ∀ hint ∈ options.hints.entries, hint.1 = hint.2) :
    ∃ result : Result α, run grammar options l.name source source = .ok result ∧
      result.diff.added = [] ∧ result.diff.removed = [] ∧ result.diff.modified = [] ∧
      result.diff.overall = ⟨0, 0, 0, 0, 0⟩ ∧
      (∃ file, result.files = [file] ∧ result.diff.files = [file] ∧ file.textDiff = "" ∧
        file.summary = "No structural changes") ∧
      result.tags = [] ∧ result.metrics.newDependencies = [] ∧ result.metrics.removedDependencies = [] ∧
      result.score = 0 ∧ result.level = 0 ∧ result.flags = Risk.scan options.scan source := by
  have hthreshold : toReal (ofRat Matching.defaultThreshold : α) < 1 := by
    rw [Exact.toReal_ofRat, Matching.defaultThreshold]
    norm_num
  -- all stages after the diff see that of an unchanged file
  obtain ⟨pairs, hpairs, hdiagonal⟩ := Matching.run_self hthreshold hself ((grammar l source).toTree l source)
  have hd := Diff.compute_self options.path hdiagonal
  obtain ⟨report, hreport, hscore, hlevel, -, hnew, hremoved⟩ := Impact.score_unchanged (α := α)
    (d := Diff.unchanged options.path) rfl (if options.adjustForLanguage then some l.name else none)
  rw [run_name, hsound, if_neg Bool.false_ne_true, if_neg Bool.false_ne_true, compare]
  simp only [Chains.mapError_ok _ hpairs, Chains.mapError_ok _ hd, Chains.mapError_ok _ (classify_unchanged _ _),
    Chains.mapError_ok _ hreport, Chains.bind_ok]
  refine ⟨_, rfl, rfl, rfl, rfl, rfl, ⟨_, rfl, rfl, rfl, rfl⟩, rfl, hnew, hremoved, hscore, hlevel, ?_⟩
  rw [hnew]
  exact Risk.dedup_scan options.scan source

section RealNumbers

attribute [local instance] realScalar realExact boundedExp

theorem run_self_unchanged_classGrammar :
    (classGrammar .java "Account").hasError = false ∧
    ∃ result : Result ℝ,
      run (α := ℝ) classGrammar ⟨.ofList [("Account", "Account")], ⟨true, true⟩, true, "main"⟩ Language.java.name
        "Account" "Account" = .ok result ∧
      result.diff.added = [] ∧ result.diff.removed = [] ∧ result.diff.modified = [] ∧
      result.diff.overall = ⟨0, 0, 0, 0, 0⟩ ∧
      (∃ file, result.files = [file] ∧ result.diff.files = [file] ∧ file.textDiff = "" ∧
        file.summary = "No structural changes") ∧
      result.tags = [] ∧ result.metrics.newDependencies = [] ∧ result.metrics.removedDependencies = [] ∧
      result.score = 0 ∧ result.level = 0 ∧ result.flags = Risk.scan ⟨true, true⟩ "Account" := by
  have hsound : (classGrammar .java "Account").hasError = false := by
    simp [classGrammar]
  have hself : ∀ hint ∈ (Table.ofList [("Account", "Account")]).entries, hint.1 = hint.2 := by
    decide
  exact ⟨hsound, run_self_unchanged classGrammar _ .java "Account" hsound hself⟩

end RealNumbers

end RefactorAudit.Analysis
