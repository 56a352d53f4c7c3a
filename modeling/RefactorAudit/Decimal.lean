/-!
# Numbers as decimal text

Rational numbers are rounded to a decimal grid exactly, a half going to the even
neighbour, and written with a fixed number of places (`fixed`) or of significant
digits (`brief`). A floating-point number is the rational `Binary.value`; its
shortest text (`shortest`) has the fewest digits that read back as the same
number.
-/

namespace RefactorAudit.Decimal

/-- `num / den` rounded to an integer, a half going to the even neighbour. -/
def roundDiv (num den : Nat) : Nat :=
  let q := num / den
  let r := num % den
  if 2 * r < den ∨ (2 * r = den ∧ q % 2 = 0) then q else q + 1

/-- The absolute value of `q * 10 ^ places`, rounded to an integer. -/
def roundScaled (q : Rat) (places : Int) : Nat :=
  if 0 ≤ places then roundDiv (q.num.natAbs * Nat.pow 10 places.toNat) q.den
  else roundDiv q.num.natAbs (q.den * Nat.pow 10 (-places).toNat)

/-- The digits of `n`, with zeros in front up to the width. -/
def padded (width n : Nat) : List Char :=
  let digits := Nat.toDigits 10 n
  List.replicate (width - digits.length) '0' ++ digits

/-- The digits of `n` with a point before the last `places` of them. -/
def pointed (places n : Nat) : List Char :=
  let digits := padded (places + 1) n
  let whole := digits.take (digits.length - places)
  if places = 0 then whole else whole ++ '.' :: digits.drop (digits.length - places)

/-- The magnitude of `q` with `places` digits after the point. -/
def fixedMagnitude (places : Nat) (q : Rat) : String :=
  String.ofList (pointed places (roundScaled q places))

/-- The `k` with `10 ^ k ≤ |q| < 10 ^ (k + 1)`, for `q` other than zero. -/
def magnitude (q : Rat) : Int :=
  let guess : Int := (Nat.toDigits 10 q.num.natAbs).length - (Nat.toDigits 10 q.den).length
  let reached : Bool :=
    if 0 ≤ guess then q.den * Nat.pow 10 guess.toNat ≤ q.num.natAbs
    else q.den ≤ q.num.natAbs * Nat.pow 10 (-guess).toNat
  if reached then guess else guess - 1

def dropTrailingZeros (digits : List Char) : List Char :=
  (digits.reverse.dropWhile (· == '0')).reverse

/-- An exponent, with its sign and at least two digits. -/
def exponentText (e : Int) : List Char :=
  'e' :: (if e < 0 then '-' else '+') :: padded 2 e.natAbs

/-- `0.d₁d₂… · 10 ^ (e + 1)` in exponent form: one digit before the point. -/
def exponential (digits : List Char) (e : Int) : List Char :=
  let fraction := digits.drop 1
  digits.take 1 ++ (if fraction.isEmpty then [] else '.' :: fraction) ++ exponentText e

/-- `0.d₁d₂… · 10 ^ (e + 1)` in positional form, without a point where no digit
follows it. -/
def positional (digits : List Char) (e : Int) : List Char :=
  if e < 0 then '0' :: '.' :: List.replicate (-e - 1).toNat '0' ++ digits
  else
    let width := e.toNat + 1
    let whole := digits.take width ++ List.replicate (width - digits.length) '0'
    let fraction := digits.drop width
    whole ++ (if fraction.isEmpty then [] else '.' :: fraction)

/-- The magnitude of `q` with six significant digits, without trailing zeros,
positional from `10 ^ -4` up to `10 ^ 6`. -/
def briefMagnitude (q : Rat) : String :=
  if q.num = 0 then "0"
  else
    let e := magnitude q
    let n := roundScaled q (5 - e)
    let (n, e) := if n = Nat.pow 10 6 then (Nat.pow 10 5, e + 1) else (n, e)
    let digits := dropTrailingZeros (Nat.toDigits 10 n)
    String.ofList (if -4 ≤ e ∧ e < 6 then positional digits e else exponential digits e)

/-- `q` with six significant digits. -/
def brief (q : Rat) : String := (if q.num < 0 then "-" else "") ++ briefMagnitude q

/-! ## Floating-point numbers -/

/-- A finite floating-point number, `± mantissa · 2 ^ exponent`. -/
structure Binary where
  negative : Bool
  mantissa : Nat
  exponent : Int

/-- The parts of a finite number; infinities and NaN have none. -/
def Binary.ofFloat? (x : Float) : Option Binary :=
  let bits := x.toBits.toNat
  let fraction := bits % Nat.pow 2 52
  let biased : Nat := bits / Nat.pow 2 52 % Nat.pow 2 11
  let negative := bits / Nat.pow 2 63 == 1
  if biased = Nat.pow 2 11 - 1 then none
  else if biased = 0 then some ⟨negative, fraction, -1074⟩
  else some ⟨negative, fraction + Nat.pow 2 52, (biased : Int) - 1075⟩

/-- `n · 2 ^ e`. -/
def scaleBinary (n : Nat) (e : Int) : Rat :=
  if 0 ≤ e then mkRat (n * (Nat.pow 2 e.toNat : Nat)) 1 else mkRat n (Nat.pow 2 (-e).toNat)

/-- `n · 10 ^ e`. -/
def scaleDecimal (n : Nat) (e : Int) : Rat :=
  if 0 ≤ e then mkRat (n * (Nat.pow 10 e.toNat : Nat)) 1 else mkRat n (Nat.pow 10 (-e).toNat)

/-- The magnitude as a rational number. -/
def Binary.value (b : Binary) : Rat := scaleBinary b.mantissa b.exponent

/-- The `k` with `2 ^ k ≤ q < 2 ^ (k + 1)`, for `q` above zero. -/
def binaryMagnitude (q : Rat) : Int :=
  let guess : Int := (q.num.natAbs.log2 : Int) - q.den.log2
  if scaleBinary 1 guess ≤ q then guess else guess - 1

/-- The floating-point number nearest to a magnitude; of two, the one with the even
mantissa. -/
def nearest (q : Rat) : Float :=
  let e := max (binaryMagnitude q - 52) (-1074)
  let mantissa :=
    if 0 ≤ e then roundDiv q.num.natAbs (q.den * Nat.pow 2 e.toNat)
    else roundDiv (q.num.natAbs * Nat.pow 2 (-e).toNat) q.den
  (Float.ofNat mantissa).scaleB e

/-- Decimals that read back as the number: those between the midpoints to its two
neighbours. A midpoint itself goes to the even mantissa. -/
def Binary.readsBack (b : Binary) (q : Rat) : Bool :=
  let upper := scaleBinary (2 * b.mantissa + 1) (b.exponent - 1)
  let lower :=
    if b.mantissa = Nat.pow 2 52 ∧ -1074 < b.exponent then scaleBinary (4 * b.mantissa - 1) (b.exponent - 2)
    else scaleBinary (2 * b.mantissa - 1) (b.exponent - 1)
  if b.mantissa % 2 = 0 then lower ≤ q && q ≤ upper else lower < q && q < upper

/-- The best decimal with `n` digits that reads back: of the two neighbours on
that grid the nearer one, an exact tie going to the even digit. -/
def Binary.decimalOf? (b : Binary) (n : Nat) : Option (Nat × Int) :=
  let unit := magnitude b.value - n + 1
  let near := roundScaled b.value (-unit)
  let far := if scaleDecimal near unit ≤ b.value then near + 1 else near - 1
  if b.readsBack (scaleDecimal near unit) then some (near, unit)
  else if b.readsBack (scaleDecimal far unit) then some (far, unit)
  else none

/-- The digits and the decimal exponent of the shortest decimal that reads back.
Seventeen digits always do. -/
def Binary.shortestDigits (b : Binary) : List Char × Int :=
  match (List.range' 1 17).findSome? b.decimalOf? with
  | some (n, unit) =>
    let digits := Nat.toDigits 10 n
    (dropTrailingZeros digits, unit + digits.length - 1)
  | none => (['0'], 0)

/-- The text of a number that is not finite. -/
def nonFinite (x : Float) : String :=
  if x.isNaN then "nan" else if x < 0 then "-inf" else "inf"

def withSign (b : Binary) (magnitude : String) : String :=
  (if b.negative then "-" else "") ++ magnitude

/-- The fewest digits that read back as `x`; positional from `10 ^ -4` up to
`10 ^ 16`, always with a point there. -/
def shortest (x : Float) : String :=
  match Binary.ofFloat? x with
  | none => nonFinite x
  | some b =>
    if b.mantissa = 0 then withSign b "0.0"
    else
      let (digits, e) := b.shortestDigits
      withSign b <| String.ofList <|
        if -4 ≤ e ∧ e < 16 then
          positional digits e ++ (if (digits.length : Int) ≤ e + 1 then ['.', '0'] else [])
        else exponential digits e

/-- `x` with `places` digits after the point. -/
def fixed (places : Nat) (x : Float) : String :=
  match Binary.ofFloat? x with
  | none => nonFinite x
  | some b => withSign b (fixedMagnitude places b.value)

/-- `x` with six significant digits. -/
def briefFloat (x : Float) : String :=
  match Binary.ofFloat? x with
  | none => nonFinite x
  | some b => withSign b (briefMagnitude b.value)

/-- `x` as a whole percentage. -/
def percent (x : Float) : String := fixed 0 (x * 100) ++ "%"

/-- `x` rounded to `places` decimal places. -/
def roundTo (places : Nat) (x : Float) : Float :=
  match Binary.ofFloat? x with
  | none => x
  | some b =>
    let rounded := nearest (scaleDecimal (roundScaled b.value places) (-places))
    if b.negative then -rounded else rounded

end RefactorAudit.Decimal
