import Mathlib
import RefactorAudit.Scalar

/-!
# Exact scalars

A scalar is exact if each of its operations gives the very number that the
operation names. `toReal` reads exact scalars as real numbers; the lemmas here push
it through every operation, so that a statement about similarities, confidences or
scores becomes one about real numbers. The rational and the real numbers are exact,
`Float` is not.
-/

namespace RefactorAudit

namespace Scalar

/-- Scalars that compute without rounding and without limits. -/
class Exact (α : Type) [Scalar α] where
  toReal : α → ℝ
  toReal_injective : Function.Injective toReal
  toReal_ofRat (q : ℚ) : toReal (ofRat q) = q
  toReal_add (x y : α) : toReal (x + y) = toReal x + toReal y
  toReal_sub (x y : α) : toReal (x - y) = toReal x - toReal y
  toReal_mul (x y : α) : toReal (x * y) = toReal x * toReal y
  toReal_div (x y : α) : toReal (x / y) = toReal x / toReal y
  toReal_neg (x : α) : toReal (-x) = -toReal x
  le_iff (x y : α) : x ≤ y ↔ toReal x ≤ toReal y
  lt_iff (x y : α) : x < y ↔ toReal x < toReal y
  ofInt?_eq (n : ℤ) : ofInt? n = some (ofRat n : α)
  floor?_eq (x : α) : floor? x = some ⌊toReal x⌋

export Exact (toReal)

/-! ## Rational and real numbers -/

instance : Exact ℚ where
  toReal q := q
  toReal_injective := Rat.cast_injective
  toReal_ofRat _ := rfl
  toReal_add := Rat.cast_add
  toReal_sub := Rat.cast_sub
  toReal_mul := Rat.cast_mul
  toReal_div := Rat.cast_div
  toReal_neg := Rat.cast_neg
  le_iff _ _ := Rat.cast_le.symm
  lt_iff _ _ := Rat.cast_lt.symm
  ofInt?_eq _ := rfl
  floor?_eq q := by rw [Rat.floor_cast]; rfl

theorem toReal_rat (q : ℚ) : toReal q = q := rfl

open Classical in
/-- The text of a real number. One that is not rational has the text of all
rational numbers close to it. -/
noncomputable def briefReal (x : ℝ) : String :=
  if h : ∃ q : ℚ, (q : ℝ) = x then Decimal.brief h.choose
  else epsilon fun s => ∃ δ > 0, ∀ q : ℚ, |(q : ℝ) - x| < δ → Decimal.brief q = s

open Classical in
/-- The real numbers as scalars. It is no instance, so that elsewhere the operations
on real numbers stay their own. -/
noncomputable abbrev realScalar : Scalar ℝ where
  ofRat q := q
  ofInt? n := some n
  decLE := inferInstance
  decLT := inferInstance
  floor? x := some ⌊x⌋
  brief := briefReal

attribute [local instance] realScalar in
noncomputable abbrev realExact : Exact ℝ where
  toReal x := x
  toReal_injective := Function.injective_id
  toReal_ofRat _ := rfl
  toReal_add _ _ := rfl
  toReal_sub _ _ := rfl
  toReal_mul _ _ := rfl
  toReal_div _ _ := rfl
  toReal_neg _ := rfl
  le_iff _ _ := Iff.rfl
  lt_iff _ _ := Iff.rfl
  ofInt?_eq n := congrArg some (Rat.cast_intCast n).symm
  floor?_eq _ := rfl

/-! ## Derived operations -/

section Derived

variable {α : Type} [Scalar α] [Exact α]

attribute [simp] Exact.toReal_ofRat Exact.toReal_add Exact.toReal_sub Exact.toReal_mul Exact.toReal_div
  Exact.toReal_neg Exact.ofInt?_eq Exact.floor?_eq

@[simp] theorem toReal_ofInt (n : ℤ) : toReal (ofInt n : α) = n := by
  simp [ofInt]

@[simp] theorem toReal_ofNat (n : ℕ) : toReal (ofNat n : α) = n := by
  simp [ofNat]

@[simp] theorem toReal_zero : toReal (zero : α) = 0 := by
  simp [zero]

@[simp] theorem toReal_one : toReal (one : α) = 1 := by
  simp [one]

@[simp] theorem toReal_atMost (cap x : α) : toReal (atMost cap x) = min (toReal cap) (toReal x) := by
  unfold atMost
  split
  · next h => rw [min_eq_left ((Exact.lt_iff _ _).1 h).le]
  · next h => rw [min_eq_right (not_lt.1 fun hlt => h ((Exact.lt_iff _ _).2 hlt))]

@[simp] theorem toReal_atLeast (floor x : α) : toReal (atLeast floor x) = max (toReal floor) (toReal x) := by
  unfold atLeast
  split
  · next h => rw [max_eq_left ((Exact.lt_iff _ _).1 h).le]
  · next h => rw [max_eq_right (not_lt.1 fun hlt => h ((Exact.lt_iff _ _).2 hlt))]

@[simp] theorem isZero_iff (x : α) : isZero x = true ↔ toReal x = 0 := by
  simp only [isZero, Bool.and_eq_true, decide_eq_true_eq]
  rw [Exact.le_iff x, Exact.le_iff _ x, toReal_zero]
  exact ⟨fun h => le_antisymm h.1 h.2, fun h => ⟨h.le, h.ge⟩⟩

theorem unit_iff (x : α) : zero ≤ x ∧ x ≤ one ↔ toReal x ∈ Set.Icc 0 1 := by
  rw [Exact.le_iff zero x, Exact.le_iff x one, toReal_zero, toReal_one]
  exact Iff.rfl

end Derived

end Scalar

end RefactorAudit
