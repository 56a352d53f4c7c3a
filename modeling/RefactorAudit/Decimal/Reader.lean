import RefactorAudit.Decimal
import RefactorAudit.Text.Blank
import RefactorAudit.Text.Case

/-!
# Reading decimal numbers

The characters of a number are taken from the front of a text; the value is
rounded correctly.
-/

namespace RefactorAudit.Decimal

/-- The digits in front, and the rest. -/
def digits (cs : List Char) : List Char × List Char := (cs.takeWhile Char.isDigit, cs.dropWhile Char.isDigit)

def natOf (ds : List Char) : Nat := ds.foldl (fun n d => n * 10 + (d.toNat - '0'.toNat)) 0

/-- The sign in front, true for a minus, and the rest. -/
def sign : List Char → Bool × List Char
  | '-' :: rest => (true, rest)
  | '+' :: rest => (false, rest)
  | rest => (false, rest)

/-- An exponent with its mark, and the rest. -/
def exponent? : List Char → Option (Int × List Char)
  | [] => none
  | e :: rest =>
    if e == 'e' || e == 'E' then
      let (negative, rest) := sign rest
      match digits rest with
      | ([], _) => none
      | (ds, rest) => some (if negative then -(natOf ds : Int) else natOf ds, rest)
    else none

/-- The digits after a point, and the rest. -/
def fraction : List Char → List Char × List Char
  | '.' :: rest => digits rest
  | rest => ([], rest)

/-- `m · 10 ^ e`, correctly rounded. From `10 ^ 310` on it is infinite, and below
`10 ^ -330` zero. -/
def floatOf (m : Nat) (e : Int) : Float :=
  let top := e + (Nat.toDigits 10 m).length
  if m = 0 ∨ top < -330 then 0
  else if 310 < top then 1 / 0
  else nearest (scaleDecimal m e)

/-- A number without sign that the whole text writes. A digit may be missing on
one side of the point. -/
def unsigned? (cs : List Char) : Option Float :=
  let (whole, rest) := digits cs
  let (part, rest) := fraction rest
  if whole.isEmpty && part.isEmpty then none
  else
    let m := natOf (whole ++ part)
    match rest, exponent? rest with
    | [], _ => some (floatOf m (-part.length))
    | _, some (e, []) => some (floatOf m (e - part.length))
    | _, _ => none

/-- A separator can stand beside the character. -/
def isNumeral (c : Char) : Bool := c.isDigit || c == '.'

/-- The text without its separators: underscores that stand alone between digits
and points. -/
def dropSeparators : List Char → List Char
  | a :: '_' :: b :: rest =>
    if isNumeral a && isNumeral b then a :: dropSeparators (b :: rest) else a :: '_' :: dropSeparators (b :: rest)
  | a :: rest => a :: dropSeparators rest
  | [] => []

/-- White space around a number, which the separators U+001C to U+001F are not. -/
def isMargin (c : Char) : Bool := Text.isBlank c && !(0x1C ≤ c.toNat && c.toNat ≤ 0x1F)

/-- The number that a text writes; white space may stand around it, and infinity
and NaN are written as words. -/
def ofText? (s : String) : Option Float :=
  let (negative, rest) := sign (dropSeparators (Text.trimOf isMargin s).toList)
  let word := Text.lower (String.ofList rest)
  let magnitude? :=
    if word == "inf" || word == "infinity" then some (1 / 0)
    else if word == "nan" then some (0 / 0)
    else unsigned? rest
  magnitude?.map fun x => if negative then -x else x

end RefactorAudit.Decimal
