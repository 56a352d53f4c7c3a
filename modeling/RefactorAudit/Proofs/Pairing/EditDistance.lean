import RefactorAudit.Pairing.EditDistance

/-!
# The equations of the edit distance

The distances to all suffixes of a list are computed row by row. Read without the
rows, `editDistance` obeys the usual recursion on the two lists. So it does not
depend on which list comes first, and it never exceeds the length of the longer one.
-/

namespace RefactorAudit

open EditDistance

variable {α : Type} [DecidableEq α]

/-- A row starts with the distance to the whole list and goes on with the row of
its tail. -/
theorem rows_cons_right (xs : List α) (y : α) (ys : List α) :
    rows xs (y :: ys) = editDistance xs (y :: ys) :: rows xs ys := by
  induction xs with
  | nil => rfl
  | cons x xs ih =>
    have hrow : rows (x :: xs) (y :: ys) = nextRow x (y :: ys) (rows xs (y :: ys)) := rfl
    rw [editDistance, hrow, ih]
    rfl

theorem rows_nil_right (xs : List α) : rows xs [] = [xs.length] := by
  induction xs with
  | nil => rfl
  | cons x xs ih =>
    have hrow : rows (x :: xs) [] = (rows xs []).map (· + 1) := rfl
    rw [hrow, ih]
    rfl

@[simp] theorem editDistance_nil_left (ys : List α) : editDistance [] ys = ys.length := by
  cases ys <;> rfl

@[simp] theorem editDistance_nil_right (xs : List α) : editDistance xs [] = xs.length := by
  rw [editDistance, rows_nil_right]
  rfl

/-- Equal heads cost nothing. Otherwise the cheapest of a substitution, a deletion
and an insertion is taken. -/
theorem editDistance_cons_cons (x y : α) (xs ys : List α) :
    editDistance (x :: xs) (y :: ys) =
      if x = y then editDistance xs ys
      else 1 + min (editDistance xs ys) (min (editDistance xs (y :: ys)) (editDistance (x :: xs) ys)) := by
  have hrow : rows (x :: xs) (y :: ys) = nextRow x (y :: ys) (rows xs (y :: ys)) := rfl
  rw [editDistance, hrow, rows_cons_right]
  rfl

theorem editDistance_self (xs : List α) : editDistance xs xs = 0 := by
  induction xs with
  | nil => rfl
  | cons x xs ih => rw [editDistance_cons_cons, if_pos rfl, ih]

theorem editDistance_comm (xs ys : List α) : editDistance xs ys = editDistance ys xs := by
  induction xs generalizing ys with
  | nil => simp
  | cons x xs ihx =>
    induction ys with
    | nil => simp
    | cons y ys ihy =>
      rw [editDistance_cons_cons, editDistance_cons_cons, ihx ys, ihx (y :: ys), ihy]
      simp only [eq_comm (a := x), Nat.min_comm (editDistance (y :: ys) xs)]

/-- Substituting along the shorter list and dropping the rest always works. -/
theorem editDistance_le_max (xs ys : List α) : editDistance xs ys ≤ max xs.length ys.length := by
  induction xs generalizing ys with
  | nil => simp
  | cons x xs ih =>
    cases ys with
    | nil => simp
    | cons y ys =>
      have h := ih ys
      rw [editDistance_cons_cons]
      simp only [List.length_cons]
      split <;> omega

end RefactorAudit
