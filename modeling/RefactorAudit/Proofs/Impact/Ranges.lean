import RefactorAudit.Proofs.Impact.Score
import RefactorAudit.Proofs.Refactoring.Fired

/-!
# The ranges of what tags add to the metrics

Under the standard rules a tag has the level that its technique has in the table
(`level_of_classify`), and a technique has one tag at most. So what the tags add up to
is a sum over different techniques, and lies between the sums of the negative and of
the positive terms of the whole table (`sum_map_mem_range`). The limits that the two
deltas are held to lie outside of these ranges.
-/

namespace RefactorAudit.Impact

open Scalar

/-! ## Levels -/

/-- The level of the standard rules for a technique. -/
def baseline (t : Technique) : Int := ((Registry.standard.rulesFor? t).map TechniqueRules.level).getD 0

theorem level_eq_baseline : ∀ s ∈ Registry.standard, s.level = baseline s.technique := by
  decide

theorem exists_rulesFor? (t : Technique) : ∃ s, Registry.standard.rulesFor? t = some s ∧ s.level = baseline t := by
  cases t <;> exact ⟨_, rfl, rfl⟩

theorem fired_level {d : Diff} {technique : Technique} {level : Int} (h : Fired .standard d technique level) :
    level = baseline technique := by
  cases h with
  | addedKind hs => exact level_eq_baseline _ hs
  | removedKind hs => exact level_eq_baseline _ hs
  | addedText hs => exact level_eq_baseline _ hs
  | rename hs => exact level_eq_baseline _ hs
  | fileText hs => exact level_eq_baseline _ hs
  | summary =>
    -- the mention of imports counts as much as the rules for its technique
    rfl

variable {α : Type} [Scalar α]

theorem level_of_classify {d : Diff} {tags : List (Tag α)} (h : classify .standard d = .ok tags) {t : Tag α}
    (ht : t ∈ tags) : (t.level.val : Int) = baseline t.technique :=
  fired_level (isGreatest_level_of_classify h ht).1

/-! ## Sums over different techniques -/

theorem mem_all (t : Technique) : t ∈ Technique.all := by
  cases t <;> decide

section Sums

variable {techniques : List Technique} (hnodup : techniques.Nodup)
include hnodup

theorem subperm_all : techniques.Subperm Technique.all := hnodup.subperm fun t _ => mem_all t

theorem sum_map_le_of_nonneg {g : Technique → Int} (hg : ∀ t, 0 ≤ g t) :
    (techniques.map g).sum ≤ (Technique.all.map g).sum := by
  obtain ⟨ordered, hperm, hsub⟩ := subperm_all hnodup
  rw [← (hperm.map g).sum_eq]
  refine (hsub.map g).sum_le_sum fun x hx => ?_
  obtain ⟨t, -, rfl⟩ := List.mem_map.1 hx
  exact hg t

theorem sum_map_mem_range (g : Technique → Int) :
    (techniques.map g).sum ∈
      Set.Icc (Technique.all.map fun t => min (g t) 0).sum (Technique.all.map fun t => max (g t) 0).sum := by
  constructor
  · -- the negative terms add up to no less than those of the whole table
    have hterms := sum_map_le_of_nonneg hnodup (g := fun t => -min (g t) 0) fun t => neg_nonneg.2 (min_le_right _ _)
    have hneg : ∀ ts : List Technique, (ts.map fun t => -min (g t) 0).sum = -(ts.map fun t => min (g t) 0).sum := by
      intro ts
      rw [List.sum_neg, List.map_map]
      rfl
    rw [hneg, hneg, neg_le_neg_iff] at hterms
    exact hterms.trans (List.sum_le_sum fun t _ => min_le_left _ _)
  · have hterms := sum_map_le_of_nonneg hnodup (g := fun t => max (g t) 0) fun t => le_max_right _ _
    exact (List.sum_le_sum fun t _ => le_max_left _ _).trans hterms

end Sums

/-! ## Metrics -/

/-- What a technique adds to the complexity at its level in the table. -/
def complexityAt (t : Technique) : Int :=
  (if t.isComplex then 2 * baseline t else baseline t) - (if t.isSimplifying then baseline t else 0)

/-- What a technique adds to the coverage at its level in the table. -/
def coverageAt (t : Technique) : Int :=
  if t = .testing then 10 * baseline t else if 3 ≤ baseline t then -5 else 0

theorem infrastructure_eq (d : Diff) (tags : List (Tag α)) :
    (metrics d tags).infrastructure = ofNat ((tags.map Tag.technique).countP (·.isInfrastructure)) := by
  rw [List.countP_map]
  rfl

section Tags

variable {d : Diff} {tags : List (Tag α)} (h : classify .standard d = .ok tags)
include h

theorem architecturalChanges_eq :
    (metrics d tags).architecturalChanges = (tags.map Tag.technique).countP (baseline · == 4) := by
  rw [List.countP_map]
  refine congrArg Nat.cast (List.countP_congr fun t ht => ?_)
  have hlevel := level_of_classify h ht
  simp only [Function.comp_apply, beq_iff_eq]
  omega

theorem map_complexityOf : tags.map complexityOf = (tags.map Tag.technique).map complexityAt := by
  rw [List.map_map]
  refine List.map_congr_left fun t ht => ?_
  simp only [complexityOf, level_of_classify h ht]
  rfl

theorem map_coverageOf : tags.map coverageOf = (tags.map Tag.technique).map coverageAt := by
  rw [List.map_map]
  refine List.map_congr_left fun t ht => ?_
  have hlevel := level_of_classify h ht
  have hdeep : 3 ≤ t.level.val ↔ 3 ≤ baseline t.technique := by omega
  simp only [coverageOf, hlevel, hdeep]
  rfl

theorem complexity_mem_range : (tags.map complexityOf).sum ∈ Set.Icc 0 48 := by
  rw [map_complexityOf h]
  exact sum_map_mem_range (nodup_technique_of_classify h) complexityAt

theorem coverage_mem_range : (tags.map coverageOf).sum ∈ Set.Icc (-35) 20 := by
  rw [map_coverageOf h]
  exact sum_map_mem_range (nodup_technique_of_classify h) coverageAt

/-- There is a tag for each technique that fires, and no other. -/
theorem perm_of_classify : (tags.map Tag.technique).Perm ((firings .standard d).map Prod.fst).dedup := by
  rw [List.perm_ext_iff_of_nodup (nodup_technique_of_classify h) (List.nodup_dedup _)]
  intro technique
  rw [List.mem_map, exists_tag_iff_fired h, List.mem_dedup, List.mem_map]
  simp only [Prod.exists, exists_and_right, exists_eq_right, mem_firings_iff]

theorem sum_coverageOf_eq :
    (tags.map coverageOf).sum = (((firings .standard d).map Prod.fst).dedup.map coverageAt).sum := by
  rw [map_coverageOf h, ((perm_of_classify h).map coverageAt).sum_eq]

end Tags

/-- For every diff and its tags under the standard rules, each tag has the level of the
first rules for its technique; at most 5 tags bring in infrastructure and at most 4 are
architectural. What the tags add to the complexity is from 0 to 48 and what they add to
the coverage from -35 to 20, so that neither delta is ever changed by its limits. Exact
numbers rule out that there is no classification. -/
theorem classified_metrics_ranges (d : Diff) :
    (∀ [Exact α], ∃ tags : List (Tag α), classify .standard d = .ok tags) ∧
    ∀ tags : List (Tag α), classify .standard d = .ok tags →
      (∀ t ∈ tags, ∃ s, Registry.standard.rulesFor? t.technique = some s ∧ (t.level.val : Int) = s.level) ∧
      (∃ n ≤ 5, (metrics d tags).infrastructure = ofNat n) ∧
      (metrics d tags).architecturalChanges ∈ Set.Icc 0 4 ∧
      (tags.map complexityOf).sum ∈ Set.Icc 0 48 ∧
      (metrics d tags).complexityDelta = ofInt (tags.map complexityOf).sum ∧
      (tags.map coverageOf).sum ∈ Set.Icc (-35) 20 ∧
      (metrics d tags).coverageDelta = ofInt (tags.map coverageOf).sum := by
  refine ⟨classify_total Registry.standard_inRange d, fun tags htags => ?_⟩
  have hsubperm := subperm_all (nodup_technique_of_classify htags)
  have hcomplexity := complexity_mem_range htags
  have hcoverage := coverage_mem_range htags
  refine ⟨fun t ht => ?_, ⟨_, ?_, infrastructure_eq d tags⟩, ?_, hcomplexity, ?_, hcoverage, ?_⟩
  · obtain ⟨s, hs, hlevel⟩ := exists_rulesFor? t.technique
    exact ⟨s, hs, by rw [level_of_classify htags ht, hlevel]⟩
  · exact hsubperm.countP_le _
  · rw [architecturalChanges_eq htags]
    exact ⟨Int.natCast_nonneg _, Int.ofNat_le.2 (hsubperm.countP_le _)⟩
  · exact congrArg ofInt (max_eq_left (hcomplexity.1.trans' (by norm_num)))
  · have hcapped : min (tags.map coverageOf).sum 50 = (tags.map coverageOf).sum :=
      min_eq_left (hcoverage.2.trans (by norm_num))
    refine congrArg ofInt ?_
    change max (min (tags.map coverageOf).sum 50) (-50) = _
    rw [hcapped]
    exact max_eq_left (hcoverage.1.trans' (by norm_num))

/-- A diff of files with one new line each, and of one with imports. -/
def gaining (lines : List String) : Diff :=
  let file (textDiff summary : String) : FileChange := ⟨"main", textDiff, summary, 0, 1, 0, 0⟩
  ⟨[], [], [], file "" "1 imports added" :: lines.map fun line => file ("+" ++ line) "", .zero⟩

/-- A word for each technique that is found by words, but for testing. -/
def untestedLines : List String :=
  ["flask", "dao", "kafka", "dynamodb", "catch", "winston", "helm", "pulumi", "prisma"]

theorem firings_gaining :
    firings .standard (gaining ("jest" :: untestedLines)) = (.moveModularize, 2) :: (.testing, 2) ::
      [(.serviceExtraction, 4), (.layering, 3), (.eventDriven, 4), (.cloudMigration, 3), (.errorHandling, 2),
        (.loggingObservability, 2), (.containerization, 4), (.infrastructureAsCode, 4), (.databaseMigration, 3)] ∧
    firings .standard (gaining untestedLines) = (.moveModularize, 2) ::
      [(.serviceExtraction, 4), (.layering, 3), (.eventDriven, 4), (.cloudMigration, 3), (.errorHandling, 2),
        (.loggingObservability, 2), (.containerization, 4), (.infrastructureAsCode, 4), (.databaseMigration, 3)] ∧
    firings .standard (gaining ["jest"]) = [(.moveModularize, 2), (.testing, 2)] := by
  decide +kernel

/-- All upper ends of the ranges are reached, and the lower end of the coverage. -/
theorem classified_metrics_ranges_ends :
    (∃ tags : List (Tag ℚ), classify .standard (gaining ("jest" :: untestedLines)) = .ok tags ∧
      (metrics (gaining ("jest" :: untestedLines)) tags).infrastructure = ofNat 5 ∧
      (metrics (gaining ("jest" :: untestedLines)) tags).architecturalChanges = 4 ∧
      (metrics (gaining ("jest" :: untestedLines)) tags).complexityDelta = ofInt 48) ∧
    (∃ tags : List (Tag ℚ), classify .standard (gaining untestedLines) = .ok tags ∧
      (metrics (gaining untestedLines) tags).coverageDelta = ofInt (-35)) ∧
    ∃ tags : List (Tag ℚ), classify .standard (gaining ["jest"]) = .ok tags ∧
      (metrics (gaining ["jest"]) tags).coverageDelta = ofInt 20 := by
  obtain ⟨hall, huntested, hjest⟩ := firings_gaining
  refine ⟨?_, ?_, ?_⟩
  · obtain ⟨htotal, hranges⟩ := classified_metrics_ranges (α := ℚ) (gaining ("jest" :: untestedLines))
    obtain ⟨tags, htags⟩ := htotal
    obtain ⟨-, -, -, -, hcomplexity, -⟩ := hranges tags htags
    have hperm := hall ▸ perm_of_classify htags
    refine ⟨tags, htags, ?_, ?_, ?_⟩
    · rw [infrastructure_eq, hperm.countP_eq]
      rfl
    · rw [architecturalChanges_eq htags, hperm.countP_eq]
      rfl
    · rw [hcomplexity, map_complexityOf htags, (hperm.map complexityAt).sum_eq]
      rfl
  · obtain ⟨htotal, hranges⟩ := classified_metrics_ranges (α := ℚ) (gaining untestedLines)
    obtain ⟨tags, htags⟩ := htotal
    obtain ⟨-, -, -, -, -, -, hcoverage⟩ := hranges tags htags
    refine ⟨tags, htags, ?_⟩
    rw [hcoverage, sum_coverageOf_eq htags, huntested]
    rfl
  · obtain ⟨htotal, hranges⟩ := classified_metrics_ranges (α := ℚ) (gaining ["jest"])
    obtain ⟨tags, htags⟩ := htotal
    obtain ⟨-, -, -, -, -, -, hcoverage⟩ := hranges tags htags
    refine ⟨tags, htags, ?_⟩
    rw [hcoverage, sum_coverageOf_eq htags, hjest]
    rfl

end RefactorAudit.Impact
