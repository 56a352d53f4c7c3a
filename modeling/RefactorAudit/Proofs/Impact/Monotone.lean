import RefactorAudit.Proofs.Impact.Score
import RefactorAudit.Proofs.Table

/-!
# Score and level grow with the components

In exact numbers the overall score is the weighted sum of the components, held between
0 and 100 and rounded to the nearest integer, halves up (`overallScore_eq`). If no
weight is negative, each of these steps keeps the order, and so does reading the level
off the score: a level is the number of thresholds that the score has reached
(`levelOf_eq_countP`).
-/

namespace RefactorAudit.Impact

open Scalar

/-! ## Levels -/

theorem levelOf_eq_countP (score : ℤ) : (levelOf score).val = ([20, 40, 60, 80] : List ℤ).countP (· ≤ score) := by
  simp only [levelOf, levelBy, decide_eq_true_eq, Nat.cast_ofNat, List.countP_cons, List.countP_nil]
  split_ifs <;> omega

theorem levelOf_mono {score score' : ℤ} (h : score ≤ score') : levelOf score ≤ levelOf score' := by
  rw [Fin.le_def, levelOf_eq_countP, levelOf_eq_countP]
  apply List.countP_mono_left
  intro threshold _ hreached
  simp only [decide_eq_true_eq] at hreached ⊢
  exact hreached.trans h

/-! ## Rounding -/

theorem round_le_round {x y : ℝ} (h : x ≤ y) : round x ≤ round y := by
  rw [round_eq, round_eq]
  gcongr

/-- Rounding adds nothing beyond the limits, because they are integers. -/
theorem round_limited_mem_range (x : ℝ) : round (min 100 (max 0 x)) ∈ Set.Icc 0 100 := by
  constructor
  · have hlow : (0 : ℝ) ≤ min 100 (max 0 x) := le_min (by norm_num) (le_max_left _ _)
    simpa using round_le_round hlow
  · have hhigh : min 100 (max 0 x) ≤ (100 : ℝ) := min_le_left _ _
    simpa using round_le_round hhigh

theorem round_limited_mono {x y : ℝ} (h : x ≤ y) : round (min 100 (max 0 x)) ≤ round (min 100 (max 0 y)) := by
  apply round_le_round
  gcongr

/-! ## Sums -/

variable {α : Type}

/-- There is a component for each weight. -/
def Covers (weights : Weights α) (components : Table String α) : Prop :=
  ∀ key ∈ weights.keys, components.contains key = true

theorem Covers.get? {weights : Weights α} {components : Table String α} (h : Covers weights components)
    {w : String × α} (hw : w ∈ weights.entries) : ∃ x, components.get? w.1 = some x := by
  apply Table.exists_get?
  exact h w.1 (List.mem_map_of_mem hw)

variable [Scalar α]

/-- Of the components that have a weight, none is above that of the second table. -/
def AtMost (weights : Weights α) (components components' : Table String α) : Prop :=
  ∀ key ∈ weights.keys, ∀ x x', components.get? key = some x → components'.get? key = some x' → x ≤ x'

variable [Exact α]

/-- What a weight adds to the sum. -/
noncomputable def weighted (components : Table String α) (w : String × α) : ℝ :=
  toReal ((components.get? w.1).getD zero) * toReal w.2

/-- The weighted sum in real numbers. -/
noncomputable def total (weights : Weights α) (components : Table String α) : ℝ :=
  (weights.entries.map (weighted components)).sum

section Sums

variable {weights : Weights α} {components components' : Table String α} (h : Covers weights components)
include h

/-- A weight that is passed adds its part, so in the end all parts are added up. -/
theorem weightedSum_eq_total :
    ∃ sum, weightedSum weights components = .ok sum ∧ toReal sum = total weights components := by
  refine Chains.foldlM_ok (P := fun passed sum => toReal sum = (passed.map (weighted components)).sum) ?_ ?_
  · simp
  · intro passed w rest hsplit sum hsum
    obtain ⟨x, hx⟩ := h.get? (w := w) (by simp [hsplit])
    refine ⟨sum + x * w.2, ?_, ?_⟩
    · rw [hx]
    · simp [hsum, weighted, hx]

theorem overallScore_eq :
    overallScore weights components = .ok (round (min 100 (max 0 (total weights components)))) := by
  obtain ⟨sum, hsum, htotal⟩ := weightedSum_eq_total h
  unfold overallScore
  rw [hsum, Chains.bind_ok, round_eq]
  simp only [Exact.floor?_eq, Exact.toReal_add, toReal_atMost, toReal_atLeast, toReal_ofNat, toReal_zero,
    Exact.toReal_ofRat, htotal]
  norm_num

theorem total_mono (h' : Covers weights components') (hweights : ∀ w ∈ weights.entries, zero ≤ w.2)
    (hle : AtMost weights components components') : total weights components ≤ total weights components' := by
  apply List.sum_le_sum
  intro w hw
  obtain ⟨x, hx⟩ := h.get? hw
  obtain ⟨x', hx'⟩ := h'.get? hw
  have hcomponent : toReal x ≤ toReal x' :=
    (Exact.le_iff _ _).1 (hle w.1 (List.mem_map_of_mem hw) x x' hx hx')
  have hweight : 0 ≤ toReal w.2 := by
    simpa using (Exact.le_iff _ _).1 (hweights w hw)
  simp only [weighted, hx, hx', Option.getD_some]
  gcongr

end Sums

/-- For every table of weights, of any sign, components for all of them have a score:
the weighted sum, held between 0 and 100 and rounded, halves up. Its level is the number
of thresholds among 20, 40, 60 and 80 that it reaches. If no weight is negative, larger
components have no smaller score and no lower level. -/
theorem overallScore_bounded_monotone (weights : Weights α) :
    (∀ components, Covers weights components →
      ∃ s, overallScore weights components = .ok s ∧ s = round (min 100 (max 0 (total weights components))) ∧
        s ∈ Set.Icc 0 100 ∧ (levelOf s).val = ([20, 40, 60, 80] : List ℤ).countP (· ≤ s)) ∧
    ((∀ w ∈ weights.entries, zero ≤ w.2) → ∀ components components', Covers weights components →
      Covers weights components' → AtMost weights components components' →
      ∃ s s', overallScore weights components = .ok s ∧ overallScore weights components' = .ok s' ∧ s ≤ s' ∧
        levelOf s ≤ levelOf s') := by
  constructor
  · intro components h
    exact ⟨_, overallScore_eq h, rfl, round_limited_mem_range _, levelOf_eq_countP _⟩
  · intro hweights components components' h h' hle
    have hscore := round_limited_mono (total_mono h h' hweights hle)
    exact ⟨_, _, overallScore_eq h, overallScore_eq h', hscore, levelOf_mono hscore⟩

/-- Two components by name. -/
def twoComponents (lines coverage : ℚ) : Table String ℚ :=
  .ofList [("linesChanged", lines), ("testCoverage", coverage)]

/-- A sum of 59.5 is rounded up to the next threshold, one of 175 is cut, and one below
0 is lifted. -/
theorem overallScore_bounded_monotone_limits :
    (∃ s s', overallScore (twoComponents (1 / 2) (3 / 2)) (twoComponents 26 31) = .ok s ∧
      overallScore (twoComponents (1 / 2) (3 / 2)) (twoComponents 80 90) = .ok s' ∧ s ≤ s' ∧ levelOf s ≤ levelOf s') ∧
    overallScore (twoComponents (1 / 2) (3 / 2)) (twoComponents 26 31) = .ok 60 ∧
    overallScore (twoComponents (1 / 2) (3 / 2)) (twoComponents 80 90) = .ok 100 ∧
    overallScore (twoComponents 1 (-2)) (twoComponents 26 31) = .ok 0 := by
  have hkeys : ∀ x y, (twoComponents x y).keys = ["linesChanged", "testCoverage"] := fun _ _ => rfl
  have hcovers : ∀ a b x y, Covers (twoComponents a b) (twoComponents x y) := by
    intro a b x y key hkey
    rw [hkeys] at hkey
    exact List.contains_iff_mem.2 hkey
  refine ⟨(overallScore_bounded_monotone _).2 ?_ _ _ (hcovers _ _ _ _) (hcovers _ _ _ _) ?_, ?_, ?_, ?_⟩
  · decide +kernel
  · intro key hkey x x' hx hx'
    rw [hkeys, List.mem_pair] at hkey
    rcases hkey with rfl | rfl
    · obtain rfl : 26 = x := Option.some.inj hx
      obtain rfl : 80 = x' := Option.some.inj hx'
      decide +kernel
    · obtain rfl : 31 = x := Option.some.inj hx
      obtain rfl : 90 = x' := Option.some.inj hx'
      decide +kernel
  · decide +kernel
  · decide +kernel
  · decide +kernel

end RefactorAudit.Impact
