import RefactorAudit.Proofs.LineDiff.Hunks

/-!
# Which anchors matter

A script depends only on which elements of the first list are anchors (`script_congr`).
So the text of a diff and the counts come from one script unless some old line is
frequent among the new ones (`diffScript_eq`). If no old line is an anchor, nothing
is matched but a common front (`longest_of_no_anchor`).
-/

namespace RefactorAudit.LineDiff

variable {α : Type} [DecidableEq α] {anchor anchor' : α → Bool} {a : List α}

/-! ## Anchors of the first list -/

theorem nextRow_congr {x : α} (h : anchor x = anchor' x) (b : List α) (row : List Nat) :
    nextRow anchor x b row = nextRow anchor' x b row := by
  have hentry : (fun y k => if y = x ∧ anchor y then k + 1 else 0) =
      fun y (k : Nat) => if y = x ∧ anchor' y then k + 1 else 0 := by
    funext y k
    by_cases hy : y = x
    · rw [hy, h]
    · simp [hy]
  rw [nextRow, hentry, nextRow]

theorem bestFrom_congr (h : ∀ x ∈ a, anchor x = anchor' x) (b : List α) (i : Nat) (row : List Nat) (best : Block) :
    bestFrom anchor b i row best a = bestFrom anchor' b i row best a := by
  induction a generalizing i row best with
  | nil => rfl
  | cons x rest ih =>
    simp only [List.mem_cons, forall_eq_or_imp] at h
    rw [bestFrom, bestFrom, nextRow_congr h.1]
    exact ih h.2 _ _ _

theorem longest_congr (h : ∀ x ∈ a, anchor x = anchor' x) (b : List α) : longest anchor a b = longest anchor' a b := by
  rw [longest, longest, bestFrom_congr h]

theorem pieces_of_no_common {b : List α} (h : (longest anchor a b).size = 0) : pieces anchor a b = changeRuns a b := by
  rw [pieces, dif_pos h]

theorem pieces_nil_left (anchor : α → Bool) (b : List α) : pieces anchor [] b = changeRuns [] b := by
  have hle := longest_left_add_size_le anchor [] b
  rw [List.length_nil] at hle
  exact pieces_of_no_common (by omega)

theorem pieces_of_common {b : List α} (h : ¬(longest anchor a b).size = 0) :
    pieces anchor a b =
      pieces anchor (a.take (longest anchor a b).left) (b.take (longest anchor a b).right) ++
        .same ((a.drop (longest anchor a b).left).take (longest anchor a b).size) ::
          pieces anchor (a.drop ((longest anchor a b).left + (longest anchor a b).size))
            (b.drop ((longest anchor a b).right + (longest anchor a b).size)) := by
  rw [pieces, dif_neg h]

theorem pieces_congr (h : ∀ x ∈ a, anchor x = anchor' x) (b : List α) : pieces anchor a b = pieces anchor' a b := by
  induction a, b using pieces.induct anchor with
  | case1 a b m hm =>
    have hm' : (longest anchor' a b).size = 0 := longest_congr h b ▸ hm
    rw [pieces_of_no_common hm, pieces_of_no_common hm']
  | case2 a b m hm ihBefore ihAfter =>
    have hm' : ¬(longest anchor' a b).size = 0 := longest_congr h b ▸ hm
    have hbefore := ihBefore fun x hx => h x (List.mem_of_mem_take hx)
    have hafter := ihAfter fun x hx => h x (List.mem_of_mem_drop hx)
    rw [pieces_of_common hm, hbefore, hafter, pieces_of_common hm', ← longest_congr h]

theorem script_congr (h : ∀ x ∈ a, anchor x = anchor' x) (b : List α) : script anchor a b = script anchor' a b := by
  rw [script, script, pieces_congr h]

/-! ## Frequent lines -/

theorem mem_popular {b : List α} {y : α} :
    y ∈ popular b ↔ 200 ≤ b.length ∧ y ∈ b ∧ b.length / 100 + 1 < b.count y := by
  unfold popular
  split
  · next h => simp [h]
  · next h => simp [h]

/-- If no old line is frequent among the new ones, the text and the counts of a diff
come from one script. -/
theorem diffScript_eq {old new : List String} (h : ∀ line ∈ old, line ∉ popular new) :
    diffScript old new = script anyAnchor old new := by
  refine script_congr (fun line hline => ?_) new
  simp [rareAnchor, anyAnchor, h line hline]

/-! ## No anchors -/

theorem bestFrom_of_no_anchor (h : ∀ x ∈ a, anchor x = false) (b : List α) (i : Nat) (row : List Nat) (best : Block) :
    bestFrom anchor b i row best a = best := by
  induction a generalizing i row best with
  | nil => rfl
  | cons x rest ih =>
    simp only [List.mem_cons, forall_eq_or_imp] at h
    have hrow : ∀ k ∈ nextRow anchor x b row, k ≤ best.size := by
      intro k hk
      obtain ⟨j, hj⟩ := List.mem_iff_getElem?.1 hk
      obtain ⟨y, k', -, -, rfl⟩ := getElem?_nextRow hj
      rw [if_neg]
      · exact Nat.zero_le _
      · rintro ⟨rfl, hanchor⟩
        rw [h.1] at hanchor
        cases hanchor
    rw [bestFrom, bestInRow_of_le i 0 hrow]
    exact ih h.2 _ _ _

/-- Without an anchor only a common front is matched. -/
theorem longest_of_no_anchor (h : ∀ x ∈ a, anchor x = false) (b : List α) :
    longest anchor a b = ⟨0, 0, commonLength a b⟩ := by
  rw [longest, bestFrom_of_no_anchor h]
  simp [extend, commonLength]

end RefactorAudit.LineDiff
