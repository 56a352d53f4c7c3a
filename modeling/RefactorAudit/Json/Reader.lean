import RefactorAudit.Decimal.Reader
import RefactorAudit.Json.Basic

/-!
# Reading JSON

A number with a fraction or an exponent reads as a floating-point number, every
other number as an integer.
-/

namespace RefactorAudit.Json.Reader

/-- A reader takes characters from the front and returns the rest. -/
abbrev Read (α : Type) := List Char → Option (α × List Char)

def skipBlanks (cs : List Char) : List Char :=
  cs.dropWhile fun c => c == ' ' || c == '\n' || c == '\r' || c == '\t'

/-- A number without sign; `negative` says which sign it had. -/
def unsigned (negative : Bool) : Read Json := fun cs =>
  match Decimal.digits cs with
  | ([], _) => none
  | (whole, rest) =>
    let (part, afterPart) := Decimal.fraction rest
    let float (e : Int) : Json :=
      let x := Decimal.floatOf (Decimal.natOf (whole ++ part)) (e - part.length)
      .float (if negative then -x else x)
    match Decimal.exponent? afterPart with
    | some (e, rest) => some (float e, rest)
    | none =>
      if part.isEmpty then
        let n : Int := Decimal.natOf whole
        some (.int (if negative then -n else n), rest)
      else some (float 0, afterPart)

def number : Read Json
  | '-' :: rest => unsigned true rest
  | cs => unsigned false cs

def hexValue? (c : Char) : Option Nat :=
  if c.isDigit then some (c.toNat - '0'.toNat)
  else if 'a' ≤ c ∧ c ≤ 'f' then some (c.toNat - 'a'.toNat + 10)
  else if 'A' ≤ c ∧ c ≤ 'F' then some (c.toNat - 'A'.toNat + 10)
  else none

/-- The UTF-16 unit that four hexadecimal digits give. -/
def unit? (a b c d : Char) : Option Nat := do
  return (← hexValue? a) * 4096 + (← hexValue? b) * 256 + (← hexValue? c) * 16 + (← hexValue? d)

/-- The characters of a string after its opening quote; `seen` are those read,
last first. -/
def stringFrom (seen : List Char) : List Char → Option (String × List Char)
  | [] => none
  | '"' :: rest => some (String.ofList seen.reverse, rest)
  | '\\' :: 'u' :: a :: b :: c :: d :: '\\' :: 'u' :: e :: f :: g :: h :: rest => do
    let high ← unit? a b c d
    if 0xD800 ≤ high ∧ high < 0xDC00 then
      let low ← unit? e f g h
      stringFrom (Char.ofNat (0x10000 + (high - 0xD800) * 0x400 + (low - 0xDC00)) :: seen) rest
    else stringFrom (Char.ofNat high :: seen) ('\\' :: 'u' :: e :: f :: g :: h :: rest)
  | '\\' :: 'u' :: a :: b :: c :: d :: rest => do
    stringFrom (Char.ofNat (← unit? a b c d) :: seen) rest
  | '\\' :: c :: rest =>
    match [('"', '"'), ('\\', '\\'), ('/', '/'), ('n', '\n'), ('r', '\r'), ('t', '\t'), ('b', '\x08'),
        ('f', '\x0c')].lookup c with
    | some d => stringFrom (d :: seen) rest
    | none => none
  | c :: rest => stringFrom (c :: seen) rest
termination_by cs => cs.length

def keyword (word : String) (value : Json) : Read Json := fun cs =>
  if word.toList.isPrefixOf cs then some (value, cs.drop word.length) else none

mutual

/-- A value, blanks in front of it skipped. Every step of the reader takes a unit
of `fuel`, and no text needs more than two for each character. -/
def value (fuel : Nat) (cs : List Char) : Option (Json × List Char) :=
  match fuel with
  | 0 => none
  | fuel + 1 =>
    match skipBlanks cs with
    | [] => none
    | '"' :: rest => (stringFrom [] rest).map fun (s, rest) => (.str s, rest)
    | '[' :: rest =>
      match skipBlanks rest with
      | ']' :: rest => some (.arr [], rest)
      | rest => (items fuel rest).map fun (js, rest) => (.arr js, rest)
    | '\x7b' :: rest =>
      match skipBlanks rest with
      | '\x7d' :: rest => some (.obj [], rest)
      | rest => (fields fuel rest).map fun (fs, rest) => (.obj fs, rest)
    | 't' :: rest => keyword "true" (.bool true) ('t' :: rest)
    | 'f' :: rest => keyword "false" (.bool false) ('f' :: rest)
    | 'n' :: rest => keyword "null" .null ('n' :: rest)
    | rest => number rest

def items (fuel : Nat) (cs : List Char) : Option (List Json × List Char) :=
  match fuel with
  | 0 => none
  | fuel + 1 => do
    let (j, rest) ← value fuel cs
    match skipBlanks rest with
    | ',' :: rest => (items fuel rest).map fun (js, rest) => (j :: js, rest)
    | ']' :: rest => some ([j], rest)
    | _ => none

def fields (fuel : Nat) (cs : List Char) : Option (List (String × Json) × List Char) :=
  match fuel with
  | 0 => none
  | fuel + 1 =>
    match skipBlanks cs with
    | '"' :: rest => do
      let (k, rest) ← stringFrom [] rest
      match skipBlanks rest with
      | ':' :: rest =>
        let (j, rest) ← value fuel rest
        match skipBlanks rest with
        | ',' :: rest => (fields fuel rest).map fun (fs, rest) => ((k, j) :: fs, rest)
        | '\x7d' :: rest => some ([(k, j)], rest)
        | _ => none
      | _ => none
    | _ => none

end

end Reader

/-- The value that a text denotes; blanks may stand around it. -/
def read? (s : String) : Option Json :=
  match Reader.value (2 * s.length + 2) s.toList with
  | some (j, rest) => if (Reader.skipBlanks rest).isEmpty then some j else none
  | none => none

end RefactorAudit.Json
