import RefactorAudit.LineDiff.Match

/-!
# Common blocks

The block that `longest` finds stands in both lists (`longest_isCommon`), whatever
counts as an anchor. In a list compared with itself it is the whole list
(`longest_self`): an anchor run that matches somewhere off the diagonal is no longer
than the runs at its two places on the diagonal, and the earlier one of these was
seen before.
-/

namespace RefactorAudit.LineDiff

variable {α : Type}

/-- The block stands at its two places in the two lists. -/
def IsCommon (a b : List α) (m : Block) : Prop :=
  ∃ items front back front' back', a = front ++ items ++ back ∧ b = front' ++ items ++ back' ∧
    front.length = m.left ∧ front'.length = m.right ∧ items.length = m.size

theorem isCommon_empty (a b : List α) : IsCommon a b ⟨0, 0, 0⟩ :=
  ⟨[], [], a, [], b, rfl, rfl, rfl, rfl, rfl⟩

/-! ## Rows hold the lengths of common ends -/

/-- Each entry of the row is the length of a common end of `done` and of the part of
`b` up to the entry. -/
def EndsIn (done b : List α) (row : List Nat) : Prop :=
  ∀ j k, row[j]? = some k → ∃ items : List α, items.length = k ∧ items <:+ done ∧ items <:+ b.take (j + 1)

theorem EndsIn.shift {done b : List α} {row : List Nat} (h : EndsIn done b row) {j k : Nat}
    (hk : (0 :: row)[j]? = some k) : ∃ items : List α, items.length = k ∧ items <:+ done ∧ items <:+ b.take j := by
  cases j with
  | zero =>
    obtain rfl : 0 = k := by simpa using hk
    exact ⟨[], rfl, List.nil_suffix, List.nil_suffix⟩
  | succ j => exact h j k (by simpa using hk)

theorem EndsIn.isCommon {done b : List α} {row : List Nat} (h : EndsIn done b row) (rest : List α)
    (hrow : row.length ≤ b.length) {j k : Nat} (hk : row[j]? = some k) :
    IsCommon (done ++ rest) b ⟨done.length - k, j + 1 - k, k⟩ := by
  obtain ⟨items, rfl, ⟨u, rfl⟩, ⟨v, hv⟩⟩ := h j k hk
  have hj : j < row.length := (List.getElem?_eq_some_iff.1 hk).1
  refine ⟨items, u, rest, v, b.drop (j + 1), rfl, ?_, by simp, ?_, rfl⟩
  · rw [hv, List.take_append_drop]
  · have := congrArg List.length hv
    simp only [List.length_append, List.length_take] at this
    simp only
    omega

/-! ## The best block of a row -/

theorem bestInRow_isCommon {a b : List α} {i j : Nat} {best : Block} {row : List Nat} (hbest : IsCommon a b best)
    (hrow : ∀ t k, row[t]? = some k → IsCommon a b ⟨i + 1 - k, j + t + 1 - k, k⟩) :
    IsCommon a b (bestInRow i j best row) := by
  induction row generalizing j best with
  | nil => exact hbest
  | cons k rest ih =>
    apply ih
    · split
      · exact hrow 0 k rfl
      · exact hbest
    · intro t k' hk'
      have := hrow (t + 1) k' hk'
      rwa [show j + (t + 1) + 1 = j + 1 + t + 1 by omega] at this

theorem bestInRow_append (i j : Nat) (best : Block) (row row' : List Nat) :
    bestInRow i j best (row ++ row') = bestInRow i (j + row.length) (bestInRow i j best row) row' := by
  induction row generalizing j best with
  | nil => rfl
  | cons k row ih =>
    simp only [List.cons_append, bestInRow, ih, List.length_cons]
    rw [show j + 1 + row.length = j + (row.length + 1) by omega]

theorem bestInRow_of_le (i j : Nat) {best : Block} {row : List Nat} (h : ∀ k ∈ row, k ≤ best.size) :
    bestInRow i j best row = best := by
  induction row generalizing j with
  | nil => rfl
  | cons k row ih =>
    simp only [List.mem_cons, forall_eq_or_imp] at h
    rw [bestInRow, if_neg (by omega), ih _ h.2]

/-! ## The diagonal -/

/-- How many anchors stand right before place `n` without a gap. -/
def anchorRun (anchor : α → Bool) (a : List α) : Nat → Nat
  | 0 => 0
  | n + 1 => if a[n]?.any anchor then anchorRun anchor a n + 1 else 0

/-- What is known of the row for place `i`, with the 0 before its first entry: no
entry exceeds the anchor runs at its two places, and the entry on the diagonal is
the anchor run there. -/
def DiagonalRow (anchor : α → Bool) (a : List α) (i : Nat) (row : List Nat) : Prop :=
  (∀ j k, (0 :: row)[j]? = some k → k ≤ anchorRun anchor a j ∧ k ≤ anchorRun anchor a i) ∧
    (0 :: row)[i]? = some (anchorRun anchor a i)

/-- The best block lies on the diagonal and is as long as every anchor run up to
place `i`. -/
def DiagonalBest (anchor : α → Bool) (a : List α) (i : Nat) (best : Block) : Prop :=
  best.left = best.right ∧ ∀ n, n ≤ i → anchorRun anchor a n ≤ best.size

/-- In a row, only the entry on the diagonal can be longer than the best block so
far. -/
theorem DiagonalBest.step {anchor : α → Bool} {a : List α} {i : Nat} {best : Block} {row : List Nat}
    (hrow : DiagonalRow anchor a (i + 1) row) (h : DiagonalBest anchor a i best) :
    DiagonalBest anchor a (i + 1) (bestInRow i 0 best row) := by
  obtain ⟨hle, hdiag⟩ := hrow
  rw [List.getElem?_cons_succ] at hdiag
  obtain ⟨hi, hget⟩ := List.getElem?_eq_some_iff.1 hdiag
  have hsplit : row = row.take i ++ anchorRun anchor a (i + 1) :: row.drop (i + 1) := by
    rw [← hget, ← List.drop_eq_getElem_cons hi, List.take_append_drop]
  -- left of the diagonal an entry is bounded by a run that was seen before, right of
  -- it by the entry on the diagonal
  have hfirst : bestInRow i 0 best (row.take i) = best := by
    refine bestInRow_of_le i 0 fun k hk => ?_
    obtain ⟨j, hj, hjk⟩ := List.mem_take_iff_getElem.1 hk
    have := (hle (j + 1) k (by simp [← hjk])).1
    exact Nat.le_trans this (h.2 _ (by omega))
  have hlength : 0 + (row.take i).length = i := by
    simp only [List.length_take]
    omega
  have hlast : ∀ k ∈ row.drop (i + 1), k ≤ anchorRun anchor a (i + 1) := by
    intro k hk
    obtain ⟨j, hj⟩ := List.mem_iff_getElem?.1 hk
    rw [List.getElem?_drop] at hj
    exact (hle (i + 1 + j + 1) k (by simpa using hj)).2
  rw [hsplit, bestInRow_append, hfirst, hlength, bestInRow]
  split
  · rw [bestInRow_of_le _ _ (by simpa using hlast)]
    refine ⟨rfl, fun n hn => ?_⟩
    rcases Nat.lt_or_eq_of_le hn with hn | rfl
    · exact Nat.le_trans (h.2 n (by omega)) (by simp only; omega)
    · exact Nat.le_refl _
  · next hbest =>
    rw [bestInRow_of_le _ _ fun k hk => Nat.le_trans (hlast k hk) (by omega)]
    refine ⟨h.1, fun n hn => ?_⟩
    rcases Nat.lt_or_eq_of_le hn with hn | rfl
    · exact h.2 n (by omega)
    · omega

variable [DecidableEq α]

/-! ## Extension -/

theorem exists_common_front (xs ys : List α) :
    ∃ front xs' ys', xs = front ++ xs' ∧ ys = front ++ ys' ∧ front.length = commonLength xs ys := by
  fun_induction commonLength xs ys with
  | case1 xs y ys ih =>
    obtain ⟨front, xs', ys', rfl, rfl, hlen⟩ := ih
    exact ⟨y :: front, xs', ys', rfl, rfl, by simp [hlen]⟩
  | case2 x xs y ys _ => exact ⟨[], x :: xs, y :: ys, rfl, rfl, rfl⟩
  | case3 xs ys _ => exact ⟨[], xs, ys, rfl, rfl, rfl⟩

theorem IsCommon.extend {a b : List α} {m : Block} (h : IsCommon a b m) : IsCommon a b (extend a b m) := by
  obtain ⟨items, front, back, front', back', rfl, rfl, hleft, hright, hsize⟩ := h
  have htake : (front ++ items ++ back).take m.left = front := by simp [← hleft]
  have htake' : (front' ++ items ++ back').take m.right = front' := by simp [← hright]
  have hdrop : (front ++ items ++ back).drop (m.left + m.size) = back := by
    rw [← hleft, ← hsize, ← List.length_append, List.drop_left]
  have hdrop' : (front' ++ items ++ back').drop (m.right + m.size) = back' := by
    rw [← hright, ← hsize, ← List.length_append, List.drop_left]
  obtain ⟨near, far, far', hfar, hfar', hnear⟩ := exists_common_front front.reverse front'.reverse
  obtain ⟨next, rest, rest', hrest, hrest', hnext⟩ := exists_common_front back back'
  have hfront : front = far.reverse ++ near.reverse := by
    rw [← List.reverse_append, ← hfar, List.reverse_reverse]
  have hfront' : front' = far'.reverse ++ near.reverse := by
    rw [← List.reverse_append, ← hfar', List.reverse_reverse]
  refine ⟨near.reverse ++ items ++ next, far.reverse, rest, far'.reverse, rest', ?_, ?_, ?_, ?_, ?_⟩
  · rw [hfront, hrest]
    simp only [List.append_assoc]
  · rw [hfront', hrest']
    simp only [List.append_assoc]
  all_goals
    simp only [LineDiff.extend, htake, htake', hdrop, hdrop', ← hnear, ← hnext]
  · rw [← hleft, hfront]
    simp
  · rw [← hright, hfront']
    simp
  · rw [← hsize]
    simp only [List.length_append, List.length_reverse]
    omega

/-! ## The best block is common -/

theorem getElem?_nextRow {anchor : α → Bool} {x : α} {b : List α} {row : List Nat} {j k : Nat}
    (h : (nextRow anchor x b row)[j]? = some k) :
    ∃ y k', b[j]? = some y ∧ (0 :: row)[j]? = some k' ∧ k = if y = x ∧ anchor y then k' + 1 else 0 := by
  rw [nextRow, List.getElem?_zipWith_eq_some] at h
  obtain ⟨y, k', hy, hk', rfl⟩ := h
  exact ⟨y, k', hy, hk', rfl⟩

theorem EndsIn.nextRow {done b : List α} {row : List Nat} (h : EndsIn done b row) (anchor : α → Bool) (x : α) :
    EndsIn (done ++ [x]) b (nextRow anchor x b row) := by
  intro j k hk
  obtain ⟨y, k', hy, hk', rfl⟩ := getElem?_nextRow hk
  split
  · next hmatch =>
    obtain ⟨items, hlen, ⟨u, rfl⟩, ⟨v, hv⟩⟩ := h.shift hk'
    refine ⟨items ++ [x], by simp [hlen], ⟨u, by simp⟩, ⟨v, ?_⟩⟩
    rw [List.take_add_one, hy, ← hv, hmatch.1]
    simp
  · exact ⟨[], rfl, List.nil_suffix, List.nil_suffix⟩

theorem bestFrom_isCommon (anchor : α → Bool) (done rest b : List α) {row : List Nat} {best : Block}
    (hlen : row.length ≤ b.length) (hrow : EndsIn done b row) (hbest : IsCommon (done ++ rest) b best) :
    IsCommon (done ++ rest) b (bestFrom anchor b done.length row best rest) := by
  induction rest generalizing done row best with
  | nil => exact hbest
  | cons x rest ih =>
    have hlen' : (nextRow anchor x b row).length ≤ b.length := by
      rw [nextRow, List.length_zipWith]
      exact Nat.min_le_left _ _
    have hrow' := hrow.nextRow anchor x
    have hdone : (done ++ [x]).length = done.length + 1 := by simp
    have hsplit : done ++ x :: rest = done ++ [x] ++ rest := by simp
    rw [hsplit] at hbest ⊢
    have hbest' : IsCommon (done ++ [x] ++ rest) b
        (bestInRow done.length 0 best (nextRow anchor x b row)) := by
      refine bestInRow_isCommon hbest fun t k hk => ?_
      have := hrow'.isCommon rest hlen' hk
      rwa [hdone, show t + 1 - k = 0 + t + 1 - k by omega] at this
    have := ih (done ++ [x]) hlen' hrow' hbest'
    rwa [hdone] at this

/-- The longest block stands in both lists. -/
theorem longest_isCommon (anchor : α → Bool) (a b : List α) : IsCommon a b (longest anchor a b) := by
  refine IsCommon.extend (bestFrom_isCommon anchor [] a b (by simp) ?_ (isCommon_empty a b))
  intro j k hk
  obtain rfl : 0 = k := by
    rw [List.getElem?_map] at hk
    cases hb : b[j]? <;> simp_all
  exact ⟨[], rfl, List.nil_suffix, List.nil_suffix⟩

/-! ## A list and itself -/

theorem DiagonalRow.nextRow {anchor : α → Bool} {a : List α} {i : Nat} {row : List Nat}
    (h : DiagonalRow anchor a i row) {x : α} (hx : a[i]? = some x) :
    DiagonalRow anchor a (i + 1) (nextRow anchor x a row) := by
  have hrun : ∀ j y, a[j]? = some y →
      anchorRun anchor a (j + 1) = if anchor y then anchorRun anchor a j + 1 else 0 := by
    intro j y hy
    simp [anchorRun, hy]
  refine ⟨fun j k hk => ?_, ?_⟩
  · cases j with
    | zero =>
      obtain rfl : 0 = k := by simpa using hk
      exact ⟨Nat.zero_le _, Nat.zero_le _⟩
    | succ j =>
      obtain ⟨y, k', hy, hk', rfl⟩ := getElem?_nextRow (by simpa using hk)
      split
      · next hmatch =>
        obtain ⟨rfl, hanchor⟩ := hmatch
        obtain ⟨hj, hi⟩ := h.1 j k' hk'
        rw [hrun j y hy, hrun i y hx, if_pos hanchor, if_pos hanchor]
        exact ⟨Nat.succ_le_succ hj, Nat.succ_le_succ hi⟩
      · exact ⟨Nat.zero_le _, Nat.zero_le _⟩
  · rw [List.getElem?_cons_succ, LineDiff.nextRow, List.getElem?_zipWith_eq_some]
    refine ⟨x, _, hx, h.2, ?_⟩
    rw [hrun i x hx]
    simp

theorem bestFrom_diagonal (anchor : α → Bool) (done rest : List α) {row : List Nat} {best : Block}
    (hrow : DiagonalRow anchor (done ++ rest) done.length row)
    (hbest : DiagonalBest anchor (done ++ rest) done.length best) :
    (bestFrom anchor (done ++ rest) done.length row best rest).left =
      (bestFrom anchor (done ++ rest) done.length row best rest).right := by
  induction rest generalizing done row best with
  | nil => exact hbest.1
  | cons x rest ih =>
    have hx : (done ++ x :: rest)[done.length]? = some x := by simp
    have hrow' := hrow.nextRow hx
    have hbest' := hbest.step hrow'
    have hdone : (done ++ [x]).length = done.length + 1 := by simp
    have hsplit : done ++ x :: rest = done ++ [x] ++ rest := by simp
    rw [hsplit] at hrow' hbest' ⊢
    rw [← hdone] at hrow' hbest'
    have := ih (done ++ [x]) hrow' hbest'
    rwa [hdone] at this

theorem commonLength_self (xs : List α) : commonLength xs xs = xs.length := by
  induction xs with
  | nil => rfl
  | cons x xs ih => simp [commonLength, ih]

/-- In a list compared with itself the longest block is the list. -/
theorem longest_self (anchor : α → Bool) (a : List α) : longest anchor a a = ⟨0, 0, a.length⟩ := by
  have hstart : ∀ j k : Nat, (0 :: a.map fun _ => 0)[j]? = some k → k = 0 := by
    intro j k hk
    rcases List.mem_cons.1 (List.mem_of_getElem? hk) with h | h
    · exact h
    · obtain ⟨_, -, rfl⟩ := List.mem_map.1 h
      rfl
  have hdiag : (bestFrom anchor a 0 (a.map fun _ => 0) ⟨0, 0, 0⟩ a).left =
      (bestFrom anchor a 0 (a.map fun _ => 0) ⟨0, 0, 0⟩ a).right :=
    bestFrom_diagonal anchor [] a ⟨fun j k hk => by simp [hstart j k hk], rfl⟩
      ⟨rfl, fun n hn => by simp_all [anchorRun]⟩
  have hbound : (bestFrom anchor a 0 (a.map fun _ => 0) ⟨0, 0, 0⟩ a).left +
      (bestFrom anchor a 0 (a.map fun _ => 0) ⟨0, 0, 0⟩ a).size ≤ 0 + a.length :=
    bestFrom_left_add_size_le anchor a a (by simp) (by simp)
  simp only [longest, extend]
  generalize bestFrom anchor a 0 (a.map fun _ => 0) ⟨0, 0, 0⟩ a = m at hdiag hbound
  rw [← hdiag, commonLength_self, commonLength_self]
  simp only [List.length_reverse, List.length_take, List.length_drop, Block.mk.injEq]
  omega

end RefactorAudit.LineDiff
