import RefactorAudit.Decimal

/-!
# The numbers that scores are made of

Similarities, confidences and impact scores are computed in any `Scalar`. The
program computes with `Float`; the instance `Rat` reads the same definitions as
exact arithmetic.
-/

namespace RefactorAudit

class Scalar (α : Type) extends Add α, Sub α, Mul α, Div α, Neg α, LE α, LT α where
  ofRat : Rat → α
  /-- The integer, if it is not too large for a number. -/
  ofInt? : Int → Option α
  decLE : DecidableLE α
  decLT : DecidableLT α
  /-- The greatest integer that is not above the number, if it is a number. -/
  floor? : α → Option Int
  /-- The number with six significant digits. -/
  brief : α → String

instance Scalar.decidableLE {α : Type} [Scalar α] (x y : α) : Decidable (x ≤ y) := Scalar.decLE x y

instance Scalar.decidableLT {α : Type} [Scalar α] (x y : α) : Decidable (x < y) := Scalar.decLT x y

/-- Scalars with an exponential; there is no result where it is too large. -/
class HasExp (α : Type) where
  exp? : α → Option α

namespace Scalar

instance : Scalar Rat where
  ofRat := id
  ofInt? n := some n
  decLE := inferInstance
  decLT := inferInstance
  floor? q := some q.floor
  brief := Decimal.brief

instance : Scalar Float where
  ofRat q := Float.ofInt q.num / Float.ofNat q.den
  ofInt? n := if (Float.ofInt n).isInf then none else some (Float.ofInt n)
  decLE := inferInstance
  decLT := inferInstance
  floor? x :=
    match Decimal.Binary.ofFloat? x with
    | none => none
    | some b => some (if b.negative then -b.value else b.value).floor
  brief := Decimal.briefFloat

instance : HasExp Float where
  exp? x :=
    let y := x.exp
    if y.isInf && !x.isInf then none else some y

variable {α : Type} [Scalar α]

def ofInt (n : Int) : α := ofRat n

def ofNat (n : Nat) : α := ofInt n

def zero : α := ofNat 0

def one : α := ofNat 1

/-- `x`, but no more than `cap`. -/
def atMost (cap x : α) : α := if cap < x then cap else x

/-- `x`, but no less than `floor`. -/
def atLeast (floor x : α) : α := if x < floor then floor else x

/-- `x` equals zero. -/
def isZero (x : α) : Bool := x ≤ zero && zero ≤ x

end Scalar

end RefactorAudit
