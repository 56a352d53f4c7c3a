/-!
# The longest common block of two lists

`longest` finds the longest block of consecutive elements that two lists share.
Of several it takes the one that ends first in the first list, then in the second
one. The block has to start from elements that count as anchors; at its two ends
it is then extended over all equal elements.
-/

namespace RefactorAudit.LineDiff

variable {α : Type} [DecidableEq α]

/-- `size` elements at `left` in the first list and at `right` in the second. -/
structure Block where
  left : Nat
  right : Nat
  size : Nat
  deriving DecidableEq, Repr

/-- For each element of `b`, the length of the common block that ends with it and
with `x`. `row` holds the lengths for the element before `x`. -/
def nextRow (anchor : α → Bool) (x : α) (b : List α) (row : List Nat) : List Nat :=
  List.zipWith (fun y k => if y = x ∧ anchor y then k + 1 else 0) b (0 :: row)

/-- The best block so far and those of one row, the elements from `j` on. A later
block has to be longer. -/
def bestInRow (i : Nat) (j : Nat) (best : Block) : List Nat → Block
  | [] => best
  | k :: rest => bestInRow i (j + 1) (if best.size < k then ⟨i + 1 - k, j + 1 - k, k⟩ else best) rest

/-- The best block so far and those that end with the elements of the first list
from `i` on. -/
def bestFrom (anchor : α → Bool) (b : List α) (i : Nat) (row : List Nat) (best : Block) : List α → Block
  | [] => best
  | x :: rest =>
    let row := nextRow anchor x b row
    bestFrom anchor b (i + 1) row (bestInRow i 0 best row) rest

/-- How many elements the two lists share at the front. -/
def commonLength : List α → List α → Nat
  | x :: xs, y :: ys => if x = y then commonLength xs ys + 1 else 0
  | _, _ => 0

/-- The block with all equal elements right before it and right after it. -/
def extend (a b : List α) (m : Block) : Block :=
  let before := commonLength (a.take m.left).reverse (b.take m.right).reverse
  let after := commonLength (a.drop (m.left + m.size)) (b.drop (m.right + m.size))
  ⟨m.left - before, m.right - before, m.size + before + after⟩

/-- The longest common block, of size 0 where the lists share none. -/
def longest (anchor : α → Bool) (a b : List α) : Block :=
  extend a b (bestFrom anchor b 0 (b.map fun _ => 0) ⟨0, 0, 0⟩ a)

/-! ## The block lies in the first list -/

theorem commonLength_le_left (xs ys : List α) : commonLength xs ys ≤ xs.length := by
  fun_induction commonLength xs ys <;> simp_all

theorem le_of_mem_nextRow (anchor : α → Bool) (x : α) (b : List α) {row : List Nat} {i : Nat}
    (h : ∀ k ∈ row, k ≤ i) : ∀ k ∈ nextRow anchor x b row, k ≤ i + 1 := by
  intro k hk
  obtain ⟨n, hn, rfl⟩ := List.mem_iff_getElem.1 hk
  simp only [nextRow, List.getElem_zipWith]
  have hm := List.getElem_mem (l := 0 :: row) (n := n) (by simp [nextRow] at hn ⊢; omega)
  split
  · rcases List.mem_cons.1 hm with h0 | hr
    · omega
    · exact Nat.succ_le_succ (h _ hr)
  · omega

theorem bestInRow_left_add_size_le {i : Nat} (j : Nat) {best : Block} {row : List Nat}
    (hr : ∀ k ∈ row, k ≤ i + 1) (hb : best.left + best.size ≤ i + 1) :
    (bestInRow i j best row).left + (bestInRow i j best row).size ≤ i + 1 := by
  induction row generalizing j best with
  | nil => exact hb
  | cons k rest ih =>
    simp only [List.mem_cons, forall_eq_or_imp] at hr
    apply ih _ hr.2
    split
    · have := hr.1; simp only; omega
    · exact hb

theorem bestFrom_left_add_size_le (anchor : α → Bool) (a b : List α) {i : Nat} {row : List Nat}
    {best : Block} (hr : ∀ k ∈ row, k ≤ i) (hb : best.left + best.size ≤ i) :
    (bestFrom anchor b i row best a).left + (bestFrom anchor b i row best a).size ≤ i + a.length := by
  induction a generalizing i row best with
  | nil => exact hb
  | cons x rest ih =>
    have hr' := le_of_mem_nextRow anchor x b hr
    have := ih hr' (bestInRow_left_add_size_le 0 hr' (Nat.le_succ_of_le hb))
    simp only [bestFrom, List.length_cons]
    omega

theorem longest_left_add_size_le (anchor : α → Bool) (a b : List α) :
    (longest anchor a b).left + (longest anchor a b).size ≤ a.length := by
  have h : _ ≤ 0 + a.length :=
    bestFrom_left_add_size_le anchor a b (show ∀ k ∈ b.map fun _ => 0, k ≤ 0 by simp)
      (show (⟨0, 0, 0⟩ : Block).left + (⟨0, 0, 0⟩ : Block).size ≤ 0 by simp)
  simp only [longest, extend]
  generalize bestFrom anchor b 0 (b.map fun _ => 0) ⟨0, 0, 0⟩ a = m at h
  have h1 := commonLength_le_left (a.take m.left).reverse (b.take m.right).reverse
  have h2 := commonLength_le_left (a.drop (m.left + m.size)) (b.drop (m.right + m.size))
  simp only [List.length_reverse, List.length_take, List.length_drop] at h1 h2
  omega

end RefactorAudit.LineDiff
