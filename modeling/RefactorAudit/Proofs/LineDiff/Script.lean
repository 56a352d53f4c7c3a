import Mathlib.Data.List.Basic
import RefactorAudit.LineDiff.Unified
import RefactorAudit.Proofs.LineDiff.Blocks

/-!
# Scripts give back both sides

The old sides of a script's runs make up the old list and the new sides the new one
(`script_old`, `script_new`). So the counts of a script are 0 only for equal lists
(`lineCounts_eq_zero_iff`), and equal lists have no hunk, whatever the anchors
(`unified_of_lines_eq`).
-/

namespace RefactorAudit.LineDiff

variable {α : Type}

/-! ## Both sides -/

theorem IsCommon.items_eq {a b : List α} {m : Block} (h : IsCommon a b m) :
    (a.drop m.left).take m.size = (b.drop m.right).take m.size := by
  obtain ⟨items, front, back, front', back', rfl, rfl, hleft, hright, hsize⟩ := h
  have hitems : ∀ (xs ys : List α) (n : Nat), xs.length = n →
      ((xs ++ items ++ ys).drop n).take m.size = items := by
    rintro xs ys _ rfl
    rw [List.append_assoc, List.drop_left, ← hsize, List.take_left]
  rw [hitems front back _ hleft, hitems front' back' _ hright]

theorem take_append_take_append_drop (xs : List α) (i n : Nat) :
    xs.take i ++ ((xs.drop i).take n ++ xs.drop (i + n)) = xs := by
  rw [← List.drop_drop, List.take_append_drop, List.take_append_drop]

theorem flatMap_changeRuns (a b : List α) :
    (changeRuns a b).flatMap Run.old = a ∧ (changeRuns a b).flatMap Run.new = b := by
  unfold changeRuns
  split
  · next h =>
    simp only [Bool.and_eq_true, List.isEmpty_iff] at h
    simp [h.1, h.2]
  · simp [Run.old, Run.new]

theorem flatMap_foldr_consRun (side : Run α → List α) (hside : ∀ items, side (.same items) = items)
    (runs : List (Run α)) : (runs.foldr consRun []).flatMap side = runs.flatMap side := by
  have hcons : ∀ (run : Run α) (rest : List (Run α)),
      (consRun run rest).flatMap side = side run ++ rest.flatMap side := by
    intro run rest
    unfold consRun
    split
    · simp [hside]
    · rfl
  induction runs with
  | nil => rfl
  | cons run rest ih => rw [List.foldr_cons, hcons, ih, List.flatMap_cons]

/-- Where nothing came and nothing went, both sides are the same. -/
theorem sides_eq_of_counts (runs : List (Run α)) (hadded : addedCount runs = 0) (hremoved : removedCount runs = 0) :
    runs.flatMap Run.old = runs.flatMap Run.new := by
  have hzero : ∀ run ∈ runs, run.isChange = true → run.new.length = 0 ∧ run.old.length = 0 := by
    intro run hrun hchange
    have hmem : run ∈ runs.filter Run.isChange := List.mem_filter.2 ⟨hrun, hchange⟩
    refine ⟨?_, ?_⟩
    · exact List.sum_eq_zero_iff_forall_eq_nat.1 hadded _ (List.mem_map_of_mem hmem)
    · exact List.sum_eq_zero_iff_forall_eq_nat.1 hremoved _ (List.mem_map_of_mem hmem)
  refine List.flatMap_congr fun run hrun => ?_
  cases run with
  | same items => rfl
  | change old new =>
    obtain ⟨hnew, hold⟩ := hzero _ hrun rfl
    rw [List.length_eq_zero_iff] at hnew hold
    rw [hnew, hold]

variable [DecidableEq α]

theorem flatMap_pieces (anchor : α → Bool) (a b : List α) :
    (pieces anchor a b).flatMap Run.old = a ∧ (pieces anchor a b).flatMap Run.new = b := by
  induction a, b using pieces.induct anchor with
  | case1 a b m hm =>
    rw [pieces, dif_pos hm]
    exact flatMap_changeRuns a b
  | case2 a b m hm ihBefore ihAfter =>
    rw [pieces, dif_neg hm]
    have hitems := (longest_isCommon anchor a b).items_eq
    simp only [List.flatMap_append, List.flatMap_cons]
    constructor
    · rw [ihBefore.1, ihAfter.1]
      exact take_append_take_append_drop a _ _
    · rw [ihBefore.2, ihAfter.2]
      simp only [Run.new, hitems]
      exact take_append_take_append_drop b _ _

theorem script_old (anchor : α → Bool) (a b : List α) : (script anchor a b).flatMap Run.old = a := by
  rw [script, flatMap_foldr_consRun _ fun _ => rfl, (flatMap_pieces anchor a b).1]

theorem script_new (anchor : α → Bool) (a b : List α) : (script anchor a b).flatMap Run.new = b := by
  rw [script, flatMap_foldr_consRun _ fun _ => rfl, (flatMap_pieces anchor a b).2]

/-! ## No change -/

theorem pieces_nil (anchor : α → Bool) : pieces anchor ([] : List α) [] = [] := by
  have hsize : (longest anchor ([] : List α) []).size = 0 := by rw [longest_self]; rfl
  rw [pieces, dif_pos hsize]
  rfl

/-- A list and itself have one run in common, or none if it is empty. -/
theorem script_self (anchor : α → Bool) (a : List α) :
    script anchor a a = if a.isEmpty then [] else [.same a] := by
  cases a with
  | nil => rw [script, pieces_nil]; rfl
  | cons x xs =>
    have hm := longest_self anchor (x :: xs)
    have hsize : (longest anchor (x :: xs) (x :: xs)).size ≠ 0 := by simp [hm]
    rw [script, pieces, dif_neg hsize]
    simp [hm, pieces_nil, consRun]

/-- The counts are 0 exactly if the lines are the same. -/
theorem lineCounts_eq_zero_iff (old new : String) :
    lineCounts old new = ⟨0, 0⟩ ↔ Text.lines old = Text.lines new := by
  constructor
  · intro h
    obtain ⟨hadded, hremoved⟩ : addedCount _ = 0 ∧ removedCount _ = 0 := by simpa [lineCounts] using h
    have hsides := sides_eq_of_counts _ hadded hremoved
    rwa [script_old, script_new] at hsides
  · intro h
    rw [lineCounts, h, script_self]
    split <;> rfl

/-- Texts with the same lines have an empty diff. -/
theorem unified_of_lines_eq (file : String) {old new : String} (h : Text.lines old = Text.lines new) :
    unified file old new = "" := by
  have hhunks : ∀ lines : List String, hunks (if lines.isEmpty then [] else [.same lines]) = [] := by
    intro lines
    split <;> rfl
  rw [unified, unifiedLines, h, script_self, hhunks]
  rfl

end RefactorAudit.LineDiff
