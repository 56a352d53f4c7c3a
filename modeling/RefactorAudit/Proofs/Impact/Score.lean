import RefactorAudit.Impact.Score
import RefactorAudit.Proofs.Refactoring.Classify

/-!
# The impact score

A changed diff has a score as soon as there are exponentials up to 2
(`score_changed`): counts are not negative, so neither curve asks for more.
`IsScore` says what the score then is in real numbers. A single changed line or node
lifts one of the two curves above 10, which is far from rounding to 0
(`IsScore.pos`), so that a score of 0 means that nothing changed.
-/

namespace RefactorAudit.Impact

open Scalar

variable {α : Type} [Scalar α] {path : String} {legacy refactored : SyntaxTree} {pairs : NodePairs} {d : Diff}

/-! ## Counts -/

/-- What changed is counted from the diff, without the techniques found in it. -/
theorem metrics_counts (h : Diff.Computed path legacy refactored pairs d) (tags : List (Tag α)) :
    (metrics d tags).linesChanged = (LineDiff.lineCounts legacy.source refactored.source).added +
      (LineDiff.lineCounts legacy.source refactored.source).removed + d.modified.length ∧
    (metrics d tags).nodesChanged = d.added.length + d.removed.length + d.modified.length := by
  simp [metrics, h.overall, h.files]

/-- A diff that is not empty has a changed line or a changed node. -/
theorem metrics_pos_of_not_isEmpty (h : Diff.Computed path legacy refactored pairs d) (tags : List (Tag α))
    (hchanged : d.overall.isEmpty = false) :
    0 < (metrics d tags).linesChanged ∨ 0 < (metrics d tags).nodesChanged := by
  obtain ⟨hlines, hnodes⟩ := metrics_counts h tags
  by_contra hnone
  have hzero : d.overall = .zero := by
    rw [h.overall, DiffStats.zero, DiffStats.mk.injEq]
    omega
  simp [DiffStats.isEmpty, hzero] at hchanged

/-! ## Sums -/

/-- The five components, in the order in which they are computed. -/
def componentTable (lines nodes infrastructure coverage complexity : α) : Table String α :=
  .ofList [("linesChanged", lines), ("astNodesChanged", nodes), ("newInfrastructure", infrastructure),
    ("testCoverage", coverage), ("complexityDelta", complexity)]

/-- The standard weights ask for components that there are. -/
theorem weightedSum_standard (lines nodes infrastructure coverage complexity : α) :
    weightedSum standardWeights (componentTable lines nodes infrastructure coverage complexity) =
      .ok (zero + lines * ofRat 0.3 + nodes * ofRat 0.25 + infrastructure * ofRat 0.2 + coverage * ofRat 0.15 +
        complexity * ofRat 0.1) := by
  rfl

variable [Exact α]

theorem ofCount_eq (n : ℤ) : ofCount n = .ok (ofInt n : α) := by
  rw [ofCount, Exact.ofInt?_eq]
  rfl

theorem overallScore_standard (lines nodes infrastructure coverage complexity : α) :
    overallScore standardWeights (componentTable lines nodes infrastructure coverage complexity) =
      .ok ⌊min 100 (max 0 (toReal lines * 0.3 + toReal nodes * 0.25 + toReal infrastructure * 0.2 +
        toReal coverage * 0.15 + toReal complexity * 0.1)) + 1 / 2⌋ := by
  simp only [overallScore, weightedSum_standard, Chains.bind_ok, Exact.floor?_eq]
  norm_num

/-! ## Components -/

theorem infrastructureComponent_nonneg {count : α} (h : 0 ≤ toReal count) :
    0 ≤ toReal (infrastructureComponent count) := by
  simp only [infrastructureComponent, toReal_atMost, Exact.toReal_mul, toReal_ofNat]
  positivity

theorem coverageComponent_nonneg (delta : α) : 0 ≤ toReal (coverageComponent delta) := by
  simp [coverageComponent]

theorem complexityComponent_nonneg (delta : α) : 0 ≤ toReal (complexityComponent delta) := by
  simp [complexityComponent]

theorem adjustments_nonneg : ∀ a ∈ adjustments, 0 ≤ a.2.infrastructure := by
  norm_num [adjustments]

/-- The factors of a language touch two metrics and make nothing negative. -/
theorem adjust_spec (m : Metrics α) (language : Option String) :
    ∃ complexity infrastructure : α,
      language.elim m m.adjust = { m with complexityDelta := complexity, infrastructure := infrastructure } ∧
      (0 ≤ toReal m.infrastructure → 0 ≤ toReal infrastructure) := by
  cases language with
  | none => exact ⟨_, _, rfl, id⟩
  | some name =>
    simp only [Option.elim_some, Metrics.adjust]
    split
    · exact ⟨_, _, rfl, id⟩
    · next a ha =>
      obtain ⟨before, after, hentries, -⟩ := List.lookup_eq_some_iff.1 ha
      have hfactor := adjustments_nonneg (name, a) (by simp [hentries])
      refine ⟨_, _, rfl, ?_⟩
      intro h
      rw [Exact.toReal_mul, Exact.toReal_ofRat]
      positivity

/-! ## Curves -/

section Curves

variable [HasExp α] {P : α → Prop}

/-- There are exponentials with the property for all numbers up to 2. -/
def ExpUpToTwo (P : α → Prop) : Prop := ∀ z : α, toReal z ≤ 2 → ∃ e, HasExp.exp? z = some e ∧ P e

/-- What a curve gives: 0 for no change, else 100 divided by one more than an
exponential with the property. -/
inductive OnCurve (P : α → Prop) (n : ℤ) : ℝ → Prop where
  | zero : n = 0 → OnCurve P n 0
  | curve {e : α} : 0 < n → P e → OnCurve P n (min 100 (100 / (1 + toReal e)))

/-- A curve that passes 50 at twice its slope needs exponentials up to 2 only. -/
theorem logistic_ok (hexp : ExpUpToTwo P) {slope : ℚ} (hslope : 0 < slope) {n : ℤ} (hn : 0 ≤ n) :
    ∃ y : α, logistic (2 * slope) slope (ofInt n) = .ok y ∧ OnCurve P n (toReal y) := by
  unfold logistic
  split
  · next hzero =>
    rw [isZero_iff, toReal_ofInt, Int.cast_eq_zero] at hzero
    exact ⟨zero, rfl, by rw [toReal_zero]; exact .zero hzero⟩
  · next hzero =>
    rw [isZero_iff, toReal_ofInt, Int.cast_eq_zero] at hzero
    -- the exponent falls with the count, and would be 2 for no change
    have hle : toReal (-(ofInt n - ofRat (2 * slope)) / ofRat slope : α) ≤ 2 := by
      have hslope' : (0 : ℝ) < slope := by exact_mod_cast hslope
      have hn' : (0 : ℝ) ≤ n := by exact_mod_cast hn
      simp only [Exact.toReal_div, Exact.toReal_neg, Exact.toReal_sub, toReal_ofInt, Exact.toReal_ofRat]
      rw [div_le_iff₀ hslope']
      push_cast
      linarith
    obtain ⟨e, he, hP⟩ := hexp _ hle
    rw [he]
    refine ⟨_, rfl, ?_⟩
    simp only [toReal_atMost, toReal_ofNat, Exact.toReal_div, Exact.toReal_add, toReal_one, Nat.cast_ofNat]
    exact .curve (by omega) hP

theorem linesComponent_ok (hexp : ExpUpToTwo P) {n : ℤ} (hn : 0 ≤ n) :
    ∃ y : α, linesComponent (ofInt n) = .ok y ∧ OnCurve P n (toReal y) := by
  have h := logistic_ok hexp (show (0 : ℚ) < 100 by norm_num) hn
  rwa [show (2 * 100 : ℚ) = 200 by norm_num] at h

theorem nodesComponent_ok (hexp : ExpUpToTwo P) {n : ℤ} (hn : 0 ≤ n) :
    ∃ y : α, nodesComponent (ofInt n) = .ok y ∧ OnCurve P n (toReal y) := by
  have h := logistic_ok hexp (show (0 : ℚ) < 25 by norm_num) hn
  rwa [show (2 * 25 : ℚ) = 50 by norm_num] at h

/-! ## The score -/

/-- The rounded sum of the two curves and of what the other components add. -/
def IsScore (P : α → Prop) (linesChanged nodesChanged score : ℤ) : Prop :=
  ∃ lines nodes rest : ℝ, OnCurve P linesChanged lines ∧ OnCurve P nodesChanged nodes ∧ 0 ≤ rest ∧
    score = ⌊min 100 (max 0 (lines * 0.3 + nodes * 0.25 + rest)) + 1 / 2⌋

theorem Metrics.overallScore_ok (hexp : ExpUpToTwo P) {m : Metrics α} (hlines : 0 ≤ m.linesChanged)
    (hnodes : 0 ≤ m.nodesChanged) (hinfrastructure : 0 ≤ toReal m.infrastructure) :
    ∃ components overall, m.computeComponents = .ok components ∧ overallScore standardWeights components = .ok overall ∧
      IsScore P m.linesChanged m.nodesChanged overall := by
  obtain ⟨lines, hl, hlines⟩ := linesComponent_ok hexp hlines
  obtain ⟨nodes, hn, hnodes⟩ := nodesComponent_ok hexp hnodes
  have hcomponents : m.computeComponents = .ok (componentTable lines nodes (infrastructureComponent m.infrastructure)
      (coverageComponent m.coverageDelta) (complexityComponent m.complexityDelta)) := by
    simp only [computeComponents, ofCount_eq, Chains.bind_ok, hl, hn]
    rfl
  refine ⟨_, _, hcomponents, overallScore_standard .., toReal lines, toReal nodes,
    toReal (infrastructureComponent m.infrastructure) * 0.2 + toReal (coverageComponent m.coverageDelta) * 0.15 +
      toReal (complexityComponent m.complexityDelta) * 0.1, hlines, hnodes, ?_, ?_⟩
  · have hi := infrastructureComponent_nonneg hinfrastructure
    have hc := coverageComponent_nonneg m.coverageDelta
    have hx := complexityComponent_nonneg m.complexityDelta
    positivity
  · congr 4
    ring

/-- A change has a score, whatever techniques were found in it. -/
theorem score_changed (hexp : ExpUpToTwo P) (h : Diff.Computed path legacy refactored pairs d) (tags : List (Tag α))
    (hchanged : (d.overall.isEmpty && tags.isEmpty) = false) (language : Option String) :
    ∃ report, score standardWeights d tags language = .ok report ∧
      IsScore P (metrics d tags).linesChanged (metrics d tags).nodesChanged report.score := by
  obtain ⟨hlines, hnodes⟩ := metrics_counts h tags
  obtain ⟨complexity, infrastructure, hadjust, hnonneg⟩ := adjust_spec (metrics d tags) language
  obtain ⟨components, overall, hcomponents, hoverall, hscore⟩ :=
    Metrics.overallScore_ok hexp
      (m := { metrics d tags with complexityDelta := complexity, infrastructure := infrastructure })
      (hlines ▸ by omega) (hnodes ▸ by omega) (hnonneg (by simp [metrics]))
  rw [score, hchanged]
  simp only [hadjust, Bool.false_eq_true, if_false, hcomponents, hoverall, Chains.bind_ok, pure_bind]
  exact ⟨_, rfl, hscore⟩

/-- Where nothing changed, the score, the level and all components are 0. -/
theorem score_unchanged (hempty : d.overall.isEmpty = true) (language : Option String) :
    ∃ report : Report α, score standardWeights d [] language = .ok report ∧ report.score = 0 ∧ report.level = 0 ∧
      (∀ c ∈ report.metrics.components.entries, c.2 = zero) ∧
      report.metrics.newDependencies = importTargets d.added ∧
      report.metrics.removedDependencies = importTargets d.removed := by
  obtain ⟨complexity, infrastructure, hadjust, -⟩ := adjust_spec (metrics d ([] : List (Tag α))) language
  rw [score, hempty, hadjust]
  refine ⟨_, rfl, rfl, rfl, ?_, rfl, rfl⟩
  intro c hc
  obtain ⟨key, -, rfl⟩ : ∃ key ∈ (standardWeights : Weights α).keys, (key, zero) = c := List.mem_map.1 hc
  rfl

/-- A diff of two trees has a score. -/
theorem score_total (hexp : ExpUpToTwo P) (h : Diff.Computed path legacy refactored pairs d) (tags : List (Tag α))
    (language : Option String) : ∃ report, score standardWeights d tags language = .ok report := by
  cases hchanged : d.overall.isEmpty && tags.isEmpty with
  | false =>
    obtain ⟨report, hreport, -⟩ := score_changed hexp h tags hchanged language
    exact ⟨report, hreport⟩
  | true =>
    rw [Bool.and_eq_true, List.isEmpty_iff] at hchanged
    obtain ⟨report, hreport, -⟩ := score_unchanged (α := α) hchanged.1 language
    exact ⟨report, hchanged.2 ▸ hreport⟩

end Curves

/-! ## A score of 0 -/

section Zero

variable {n : ℤ} {y : ℝ}

/-- Exponentials up to 2 lie between 0 and 9. -/
def BelowNine (e : α) : Prop := 0 < toReal e ∧ toReal e < 9

theorem OnCurve.nonneg (h : OnCurve (BelowNine (α := α)) n y) : 0 ≤ y := by
  cases h with
  | zero => exact le_rfl
  | curve _ he =>
    have := he.1
    positivity

/-- One change is enough for a tenth of the curve. -/
theorem OnCurve.ten_lt (h : OnCurve (BelowNine (α := α)) n y) (hn : 0 < n) : 10 < y := by
  cases h with
  | zero hzero => omega
  | @curve e _ he =>
    obtain ⟨hpos, hlt⟩ := he
    refine lt_min (by norm_num) ?_
    rw [lt_div_iff₀ (by linarith)]
    linarith

theorem IsScore.pos {linesChanged nodesChanged score : ℤ}
    (h : IsScore (BelowNine (α := α)) linesChanged nodesChanged score)
    (hchanged : 0 < linesChanged ∨ 0 < nodesChanged) : 0 < score := by
  obtain ⟨lines, nodes, rest, hlines, hnodes, hrest, rfl⟩ := h
  -- either curve alone is above 10, so it adds more than 2.5
  have hsum : 1 / 2 ≤ lines * 0.3 + nodes * 0.25 + rest := by
    have hlines_nonneg := hlines.nonneg
    have hnodes_nonneg := hnodes.nonneg
    rcases hchanged with hchanged | hchanged
    · linarith [hlines.ten_lt hchanged]
    · linarith [hnodes.ten_lt hchanged]
  have hclamped : 1 / 2 ≤ min 100 (max 0 (lines * 0.3 + nodes * 0.25 + rest)) :=
    le_min (by norm_num) (le_max_of_le_right hsum)
  rw [Int.floor_pos]
  linarith

/-- For all pairs within two trees there are a diff, the techniques found in it by
the standard rules, and a score with the standard weights, with or without the
factors of a language. The score is 0 exactly if the diff is empty; then no
technique is found and all components are 0. The numbers are exact; of the
exponential only this is used: it is positive, it does not fall, and it is below 9
at 2. -/
theorem score_eq_zero_iff_isEmpty [HasExp α] (exp : ℝ → ℝ)
    (hexp : ∀ x : α, ∃ y, HasExp.exp? x = some y ∧ toReal y = exp (toReal x)) (hpos : ∀ x, 0 < exp x)
    (hmono : Monotone exp) (htwo : exp 2 < 9) (path : String) (legacy refactored : SyntaxTree) (pairs : NodePairs)
    (hpairs : Diff.PairsWithin legacy refactored pairs) (language : Option String) :
    ∃ (d : Diff) (tags : List (Tag α)) (report : Report α),
      Diff.compute path legacy refactored pairs = .ok d ∧
      classify .standard d = .ok tags ∧
      score standardWeights d tags language = .ok report ∧
      (report.score = 0 ↔ d.overall.isEmpty = true) ∧
      (d.overall.isEmpty = true → tags = [] ∧ ∀ c ∈ report.metrics.components.entries, c.2 = zero) := by
  have hupTo : ExpUpToTwo (BelowNine (α := α)) := by
    intro z hz
    obtain ⟨y, hy, hreal⟩ := hexp z
    exact ⟨y, hy, hreal ▸ hpos _, hreal ▸ (hmono hz).trans_lt htwo⟩
  obtain ⟨d, hd⟩ := Diff.compute_total path hpairs
  have hcomputed := Diff.compute_eq_ok_iff.1 hd
  cases hempty : d.overall.isEmpty with
  | true =>
    have htags : classify .standard d = (.ok [] : Except (TagError α) (List (Tag α))) := by
      rw [hcomputed.eq_unchanged hempty]
      exact classify_unchanged _ _
    obtain ⟨report, hreport, hscore, -, hcomponents, -⟩ := score_unchanged (α := α) hempty language
    refine ⟨d, [], report, hd, htags, hreport, iff_of_true hscore hempty, ?_⟩
    exact fun _ => ⟨rfl, hcomponents⟩
  | false =>
    obtain ⟨tags, htags⟩ := classify_total (α := α) Registry.standard_inRange d
    obtain ⟨report, hreport, hscore⟩ := score_changed hupTo hcomputed tags (by simp [hempty]) language
    have hscore_pos := hscore.pos (metrics_pos_of_not_isEmpty hcomputed tags hempty)
    refine ⟨d, tags, report, hd, htags, hreport, iff_of_false hscore_pos.ne' ?_, ?_⟩ <;> simp [hempty]

/-- A source with nothing but a method. -/
def loneMethod (name : String) : SyntaxTree :=
  .ofNodes "java" (name ++ "(){}")
    [⟨0, "method_declaration", name ++ "(){}", ⟨⟨0, 0⟩, ⟨0, 5⟩⟩, ⟨some name, [], []⟩, none, []⟩]

/-- The exponential of the real numbers. -/
noncomputable abbrev realExp : HasExp ℝ := ⟨fun x => some (Real.exp x)⟩

section RealNumbers

attribute [local instance] realScalar realExact realExp

theorem score_eq_zero_iff_isEmpty_renamed :
    Diff.PairsWithin (loneMethod "f") (loneMethod "g") ⟨[(0, 0)], by simp, by simp⟩ ∧
    ∃ (d : Diff) (tags : List (Tag ℝ)) (report : Report ℝ),
      Diff.compute "main" (loneMethod "f") (loneMethod "g") ⟨[(0, 0)], by simp, by simp⟩ = .ok d ∧
      classify .standard d = .ok tags ∧
      score standardWeights d tags (some "java") = .ok report ∧
      d.overall.isEmpty = false ∧ report.score ≠ 0 := by
  have hpairs : Diff.PairsWithin (loneMethod "f") (loneMethod "g") ⟨[(0, 0)], by simp, by simp⟩ := by
    simp [Diff.PairsWithin, SyntaxTree.size, loneMethod, SyntaxTree.ofNodes]
  have htwo : Real.exp 2 < 9 := by
    have hone := Real.exp_one_lt_d9
    have hpos := Real.exp_pos 1
    rw [show (2 : ℝ) = 1 + 1 by norm_num, Real.exp_add]
    nlinarith
  have hchanged : (Diff.compute "main" (loneMethod "f") (loneMethod "g") ⟨[(0, 0)], by simp, by simp⟩).toOption.map
      (·.overall.isEmpty) = some false := by
    decide +kernel
  obtain ⟨d, tags, report, hd, htags, hreport, hiff, -⟩ :=
    score_eq_zero_iff_isEmpty Real.exp (fun x => ⟨Real.exp x, rfl, rfl⟩) Real.exp_pos Real.exp_monotone htwo "main" _ _
      _ hpairs (some "java")
  rw [hd] at hchanged
  have hempty : d.overall.isEmpty = false := Option.some.inj hchanged
  refine ⟨hpairs, d, tags, report, hd, htags, hreport, hempty, ?_⟩
  rw [Ne, hiff, hempty]
  exact Bool.false_ne_true

end RealNumbers

end Zero

end RefactorAudit.Impact
