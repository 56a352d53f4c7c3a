import RefactorAudit.Decimal.Reader
import RefactorAudit.Json.Reader
import RefactorAudit.Text.Search
import RefactorAudit.Toml.Document

/-!
# Numbers in configuration files

Numbers are signed and may have underscores between their digits. One with a point or
an exponent is a floating-point number, every other one an integer.
-/

namespace RefactorAudit.Toml.Reader

/-- Underscores in a number stand alone, not at its ends and not beside its point. -/
def isWellSeparated (cs : List Char) : Bool :=
  cs.head? != some '_' && cs.getLast? != some '_' &&
    ["__", "_.", "._"].all fun pair => !Text.occursInList pair.toList cs

/-- The base that the letter after a zero stands for. -/
def baseOf? (c : Char) : Option Nat := [('x', 16), ('o', 8), ('b', 2)].lookup c

/-- A zero in front of a number stands alone, before the point, or without a sign
before the letter of a base. -/
def hasPlainFront (cs : List Char) : Bool :=
  match cs, (Decimal.sign cs).2 with
  | '0' :: c :: _, _ => c == '.' || (baseOf? c).isSome
  | _, '0' :: c :: _ => c == '.'
  | _, _ => true

/-- Digits of a base; at least one. -/
def digits? (base : Nat) (cs : List Char) : Option Nat :=
  if cs.isEmpty then none
  else cs.foldlM (fun n c => (Json.Reader.hexValue? c).bind fun d => if d < base then some (base * n + d) else none) 0

/-- An integer without sign. A zero in front of decimal digits is refused, but for
zero itself. -/
def natural? : List Char → Option Nat
  | '0' :: c :: rest =>
    match baseOf? c.toLower with
    | some base => digits? base rest
    | none => if (c :: rest).all (· == '0') then some 0 else none
  | cs => digits? 10 cs

/-- An integer; it may have a sign of its own and white space around it. -/
def integer? (cs : List Char) : Option Int :=
  let (negative, digits) := Decimal.sign (Text.trimOf Decimal.isMargin (String.ofList cs)).toList
  (natural? digits).map fun n => if negative then -n else n

/-- A floating-point number without sign; it starts with a digit and does not end in
its point. -/
def float? (cs : List Char) : Option Float :=
  if (cs.head?.any Char.isDigit) && cs.getLast? != some '.' then Decimal.unsigned? cs else none

/-- Infinity and not-a-number, by their names. -/
def namedFloat? (cs : List Char) : Option Float :=
  [("inf", 1 / 0), ("nan", 0 / 0)].lookup (String.ofList (cs.map Char.toLower))

/-- The number has a point or an exponent. -/
def isFloat (cs : List Char) : Bool :=
  cs.contains '.' || (!cs.contains 'x' && (cs.contains 'e' || cs.contains 'E'))

/-- A number. A minus sign subtracts from zero. -/
def number? (cs : List Char) : Option Value :=
  if isWellSeparated cs && hasPlainFront cs then
    let (negative, magnitude) := Decimal.sign (cs.filter (· != '_'))
    let signed (x : Float) : Value := .float (if negative then 0 - x else x)
    if isFloat magnitude then (float? magnitude).map signed
    else
      match namedFloat? magnitude with
      | some x => some (signed x)
      | none => (integer? magnitude).map fun n => .int (if negative then -n else n)
  else none

end RefactorAudit.Toml.Reader
