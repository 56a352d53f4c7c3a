import RefactorAudit.Proofs.Impact.Score

/-!
# The order of the tags

The metrics count tags and add up what each of them brings; the sums are held to their
limits at the end, not on the way. So the metrics do not depend on the order of the
tags (`metrics_of_perm`), and neither does what is computed from them. Counts and sums
are integers, so this holds for every scalar, also for one that rounds.
-/

namespace RefactorAudit.Impact

open Scalar

variable {α : Type} [Scalar α]

section Order

variable {tags tags' : List (Tag α)} (h : tags'.Perm tags)
include h

theorem sum_of_perm (f : Tag α → Int) : (tags'.map f).foldr (· + ·) 0 = (tags.map f).foldr (· + ·) 0 :=
  (h.map f).foldr_eq 0

theorem complexityDelta_of_perm : complexityDelta tags' = complexityDelta tags := by
  unfold complexityDelta
  rw [sum_of_perm h]

theorem coverageDelta_of_perm : coverageDelta tags' = coverageDelta tags := by
  unfold coverageDelta
  rw [sum_of_perm h]

theorem metrics_of_perm (d : Diff) : metrics d tags' = metrics d tags := by
  unfold metrics
  rw [complexityDelta_of_perm h, coverageDelta_of_perm h, h.countP_eq, h.countP_eq]

end Order

/-- The impact of a diff, or the reason why there is none, is the same for the tags in
any order, whatever the weights are and whether or not the factors of a language
apply. -/
theorem score_ignores_tag_order [HasExp α] (weights : Weights α) (d : Diff) (tags tags' : List (Tag α))
    (h : tags'.Perm tags) (language : Option String) :
    score weights d tags' language = score weights d tags language := by
  have hempty : tags'.isEmpty = tags.isEmpty := h.isEmpty_eq
  unfold score
  rw [metrics_of_perm h, hempty]

section RealNumbers

attribute [local instance] realScalar realExact realExp

theorem unit_one : (zero : ℝ) ≤ one ∧ (one : ℝ) ≤ one := by
  rw [unit_iff, toReal_one]
  norm_num

/-- A tag without evidence and beyond doubt. -/
noncomputable def certain (technique : Technique) (level : Level) : Tag ℝ :=
  ⟨technique, level, [], one, unit_one.1, unit_one.2⟩

/-- Tests take the coverage beyond its limit, before and after a technique that takes
some of it back. Held to the limit on the way, one order would come to 45 only. -/
theorem score_ignores_tag_order_limit :
    coverageDelta [certain .testing 4, certain .testing 4, certain .serviceExtraction 4] = ofInt 50 ∧
    coverageDelta [certain .serviceExtraction 4, certain .testing 4, certain .testing 4] = ofInt 50 ∧
    score standardWeights (.unchanged "main")
        [certain .testing 4, certain .testing 4, certain .serviceExtraction 4] (some "java") =
      score standardWeights (.unchanged "main")
        [certain .serviceExtraction 4, certain .testing 4, certain .testing 4] (some "java") := by
  refine ⟨rfl, rfl, ?_⟩
  apply score_ignores_tag_order
  exact List.perm_append_singleton (certain .serviceExtraction 4) [certain .testing 4, certain .testing 4]

end RealNumbers

end RefactorAudit.Impact
