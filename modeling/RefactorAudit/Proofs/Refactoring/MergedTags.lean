import RefactorAudit.Proofs.Refactoring.Classify
import RefactorAudit.Proofs.Refactoring.Merge

/-!
# What a merged tag holds

A merged tag is joined from the findings of its technique, one after the other.
`MergeOf` says what that gives: the highest level, the evidence of the first finding and
behind it what the later ones add, and the running mean of the confidences, which
stays between the least and the greatest of them. Tags that were merged are left as
they are by merging again (`merge_of_merged`).
-/

namespace RefactorAudit

open Scalar

namespace Tag

variable {α : Type} [Scalar α] {first t u : Tag α} {rest us tags findings merged : List (Tag α)}

/-- `t` is what the findings of one technique come to, `first` and then the others. -/
structure MergeOf (first : Tag α) (rest : List (Tag α)) (t : Tag α) : Prop where
  level : IsGreatest {level | ∃ u ∈ first :: rest, u.level = level} t.level
  /-- Later evidence is added unless it is there, in the order of first appearance. -/
  evidence : ∃ later, t.evidence = first.evidence ++ later ∧
    FirstOccurrences ((rest.flatMap Tag.evidence).filter (· ∉ first.evidence)) later
  /-- Unless one finding repeats a piece of evidence, all evidence is listed once. -/
  union : (∀ u ∈ first :: rest, u.evidence.Nodup) →
    t.evidence.Nodup ∧ FirstOccurrences ((first :: rest).flatMap Tag.evidence) t.evidence
  confidence : t.confidence = rest.foldl (fun c u => (c + u.confidence) / ofNat 2) first.confidence
  /-- Without rounding, the mean lies between the least and the greatest confidence. -/
  between : ∀ [Exact α], (∃ u ∈ first :: rest, u.confidence ≤ t.confidence) ∧
    ∃ u ∈ first :: rest, t.confidence ≤ u.confidence

/-! ## Joined tags -/

theorem joinEvidence_append {seen later : List String} (evidence further : List String)
    (h : FirstOccurrences seen later) :
    ∃ later', joinEvidence (evidence ++ later) further = evidence ++ later' ∧
      FirstOccurrences (seen ++ further.filter (· ∉ evidence)) later' := by
  unfold joinEvidence
  induction further generalizing seen later with
  | nil => exact ⟨later, rfl, by simpa using h⟩
  | cons e further ih =>
    rw [List.foldl_cons]
    by_cases hthere : e ∈ evidence
    · have hcontains : (evidence ++ later).contains e = true := by simp [hthere]
      have hfilter : (e :: further).filter (· ∉ evidence) = further.filter (· ∉ evidence) := by simp [hthere]
      rw [if_pos hcontains, hfilter]
      exact ih h
    · have hcontains : (evidence ++ later).contains e = later.contains e := by simp [hthere]
      have hfilter : (e :: further).filter (· ∉ evidence) = e :: further.filter (· ∉ evidence) := by simp [hthere]
      have hadd : (if later.contains e then evidence ++ later else evidence ++ later ++ [e]) =
          evidence ++ if later.contains e then later else later ++ [e] := by
        split <;> simp
      rw [hcontains, hadd, hfilter, List.append_cons seen]
      exact ih (h.concat e)

/-- What later findings add to the evidence of the first one, and to its confidence. -/
theorem Joined.exists_first (h : Joined us t) :
    ∃ first rest, us = first :: rest ∧
      (∃ later, t.evidence = first.evidence ++ later ∧
        FirstOccurrences ((rest.flatMap Tag.evidence).filter (· ∉ first.evidence)) later) ∧
      t.confidence = rest.foldl (fun c u => (c + u.confidence) / ofNat 2) first.confidence := by
  induction h with
  | single t => exact ⟨t, [], rfl, ⟨[], by simp, .nil⟩, rfl⟩
  | @concat us t u v _ hjoin ih =>
    obtain ⟨first, rest, rfl, ⟨later, hlater, hfirst⟩, hconfidence⟩ := ih
    obtain ⟨-, -, hevidence, hmean⟩ := make_eq_ok hjoin
    obtain ⟨later', hlater', hfirst'⟩ := joinEvidence_append first.evidence u.evidence hfirst
    refine ⟨first, rest ++ [u], rfl, ⟨later', ?_, ?_⟩, ?_⟩
    · rw [hevidence, hlater, hlater']
    · rwa [List.flatMap_append, List.flatMap_singleton, List.filter_append]
    · rw [hmean, hconfidence, List.foldl_append]
      rfl

/-- A mean lies between its two numbers. -/
theorem toReal_mean_mem [Exact α] (x y : α) :
    toReal ((x + y) / ofNat 2) ∈ Set.uIcc (toReal x) (toReal y) := by
  rw [Exact.toReal_div, Exact.toReal_add, toReal_ofNat, Set.mem_uIcc]
  push_cast
  rcases le_total (toReal x) (toReal y) with hle | hle
  · exact .inl ⟨by linarith, by linarith⟩
  · exact .inr ⟨by linarith, by linarith⟩

theorem Joined.confidence_between [Exact α] (h : Joined us t) :
    (∃ u ∈ us, u.confidence ≤ t.confidence) ∧ ∃ u ∈ us, t.confidence ≤ u.confidence := by
  induction h with
  | single t =>
    have hrefl : t.confidence ≤ t.confidence := (Exact.le_iff _ _).2 le_rfl
    exact ⟨⟨t, List.mem_cons_self, hrefl⟩, t, List.mem_cons_self, hrefl⟩
  | @concat us t u v _ hjoin ih =>
    obtain ⟨⟨low, hlow, hle⟩, high, hhigh, hge⟩ := ih
    obtain ⟨-, -, -, hmean⟩ := make_eq_ok hjoin
    have hmem := toReal_mean_mem t.confidence u.confidence
    rw [← hmean, Set.mem_uIcc] at hmem
    simp only [Exact.le_iff] at hle hge ⊢
    rcases hmem with ⟨hfrom, hto⟩ | ⟨hfrom, hto⟩
    · exact ⟨⟨low, by simp [hlow], hle.trans hfrom⟩, u, by simp, hto⟩
    · exact ⟨⟨u, by simp, hfrom⟩, high, by simp [hhigh], hto.trans hge⟩

theorem Joined.mergeOf (h : Joined us t) : ∃ first rest, us = first :: rest ∧ MergeOf first rest t := by
  obtain ⟨first, rest, rfl, hevidence, hconfidence⟩ := h.exists_first
  refine ⟨first, rest, rfl, ⟨?_, ?_⟩, hevidence, fun hnodup => ?_, hconfidence, h.confidence_between⟩
  · obtain ⟨u, hu, hlevel⟩ := h.exists_level_eq
    exact ⟨u, hu, hlevel.symm⟩
  · rintro _ ⟨u, hu, rfl⟩
    exact h.level_le u hu
  · have hunion := h.firstOccurrences hnodup
    exact ⟨hunion.nodup, hunion⟩

/-! ## Merging again -/

theorem mergeInto_of_not_mem (h : u.technique ∉ tags.map Tag.technique) : mergeInto u tags = .ok (tags ++ [u]) := by
  induction tags with
  | nil => rfl
  | cons t rest ih =>
    rw [List.map_cons, List.mem_cons, not_or] at h
    rw [mergeInto, if_neg (Ne.symm h.1), ih h.2]
    rfl

/-- Tags of different techniques that stand by level are left as they are. -/
theorem merge_of_merged (hnodup : (tags.map Tag.technique).Nodup) (hsorted : tags.Pairwise fun t u => u.level ≤ t.level) :
    merge tags = .ok tags := by
  have hstep : ∀ done u rest, tags = done ++ u :: rest → ∀ merged : List (Tag α), merged = done →
      ∃ merged', mergeInto u merged = .ok merged' ∧ merged' = done ++ [u] := by
    rintro done u rest hsplit merged rfl
    exact ⟨_, mergeInto_of_not_mem (Chains.key_not_mem_done hnodup hsplit), rfl⟩
  obtain ⟨merged, hmerged, hall⟩ :
      ∃ merged, tags.foldlM (fun merged t => mergeInto t merged) [] = .ok merged ∧ merged = tags :=
    Chains.foldlM_ok (P := fun done (merged : List (Tag α)) => merged = done) rfl hstep
  have hlevel : byLevel tags = tags := List.mergeSort_of_pairwise (by simpa using hsorted)
  rw [merge, hmerged, Chains.bind_ok, hall, hlevel]
  rfl

/-! ## Merging -/

/-- For every list of findings: exact confidences merge without an error. If they merge,
each technique among the findings has one tag, which is what its findings come to in
their order. Tags stand by level, the highest first, and within a level in the order of
the first findings. Merging the tags again changes nothing. -/
theorem merge_gives_mergeOf (findings : List (Tag α)) :
    (∀ [Exact α], ∃ tags, merge findings = .ok tags) ∧
    ∀ tags, merge findings = .ok tags →
      (tags.map Tag.technique).Nodup ∧
      (∀ technique, (∃ t ∈ tags, t.technique = technique) ↔ ∃ u ∈ findings, u.technique = technique) ∧
      (∀ t ∈ tags, ∃ first rest, findings.filter (·.technique = t.technique) = first :: rest ∧ MergeOf first rest t) ∧
      (tags.Pairwise fun t u => u.level < t.level ∨ t.level = u.level ∧
        (findings.map Tag.technique).idxOf t.technique < (findings.map Tag.technique).idxOf u.technique) ∧
      merge tags = .ok tags := by
  refine ⟨merge_ok findings, fun tags htags => ?_⟩
  obtain ⟨merged, hmerged, rfl⟩ := merge_spec htags
  have hnodup := hmerged.nodup_byLevel
  have horder := hmerged.pairwise_byLevel
  refine ⟨hnodup, fun technique => ?_, fun t ht => ?_, horder, merge_of_merged hnodup (horder.imp ?_)⟩
  · rw [← List.mem_map, hmerged.mem_map_byLevel_iff, List.mem_map]
  · exact (hmerged.joined t (mem_byLevel.1 ht)).mergeOf
  · rintro t u (hlt | ⟨heq, -⟩)
    · exact hlt.le
    · exact heq.ge

def unitTests (level : Level) : Tag ℚ := ⟨.testing, level, ["spec"], 1 / 2, by decide +kernel, by decide +kernel⟩

def mockedTests (level : Level) : Tag ℚ := ⟨.testing, level, ["mock", "spec"], 1, by decide +kernel, by decide +kernel⟩

def daoLayer (level : Level) : Tag ℚ := ⟨.layering, level, ["dao"], 1, by decide +kernel, by decide +kernel⟩

/-- A technique that is found again on a higher level, after another one of that level. -/
theorem merge_gives_mergeOf_again :
    ∃ tags, merge [unitTests 1, daoLayer 2, mockedTests 2] = .ok tags ∧ merge tags = .ok tags ∧
      (∀ u ∈ [unitTests 1, mockedTests 2], u.evidence.Nodup) ∧
      ∃ t ∈ tags, t.technique = .testing ∧ t.level = 2 ∧ t.confidence = 3 / 4 ∧ t.evidence.Nodup ∧
        "mock" ∈ t.evidence := by
  obtain ⟨htotal, hspec⟩ := merge_gives_mergeOf [unitTests 1, daoLayer 2, mockedTests 2]
  obtain ⟨tags, htags⟩ := htotal
  obtain ⟨-, htechnique, hall, -, hagain⟩ := hspec tags htags
  obtain ⟨t, ht, htesting⟩ := (htechnique .testing).2 ⟨unitTests 1, by simp, rfl⟩
  obtain ⟨first, rest, hfindings, hmerge⟩ := hall t ht
  rw [htesting] at hfindings
  obtain ⟨rfl, rfl⟩ : unitTests 1 = first ∧ [mockedTests 2] = rest := by
    simpa [unitTests, daoLayer, mockedTests] using hfindings
  have hnodup : ∀ u ∈ [unitTests 1, mockedTests 2], u.evidence.Nodup := by
    simp [unitTests, mockedTests]
  obtain ⟨hevidence, hunion⟩ := hmerge.union hnodup
  refine ⟨tags, htags, hagain, hnodup, t, ht, htesting, ?_, ?_, hevidence, (hunion.mem_iff _).2 (by decide)⟩
  · refine hmerge.level.unique ⟨⟨mockedTests 2, by simp, rfl⟩, ?_⟩
    rintro _ ⟨u, hu, rfl⟩
    revert u
    simp [unitTests, mockedTests]
  · rw [hmerge.confidence]
    decide +kernel

end Tag

end RefactorAudit
