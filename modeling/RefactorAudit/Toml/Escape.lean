import RefactorAudit.Json.Reader
import RefactorAudit.Text.Quoted

/-!
# Escapes in configuration texts

A text stands between double quotes; `encode?` writes what stands between them, and
`decode?` reads it. A character is written by its code point as `\u` with four digits
or `\U` with eight. The escape `\x` with two digits is not known to the format:
`encode?` writes the text with it first, cuts it at every `\x`, and joins the pieces
with `x` or `u00`, as the backslashes in front of the place ask for.
-/

namespace RefactorAudit.Toml

/-- Cuts a text at every backslash that `mark` follows: the first piece, and the
pieces after it. -/
def cutAt (mark : Char) : List Char → List Char × List (List Char)
  | [] => ([], [])
  | c :: rest =>
    match c == '\\', cutAt mark rest with
    | true, (d :: piece, pieces) => if d == mark then ([], piece :: pieces) else (c :: d :: piece, pieces)
    | _, (piece, pieces) => (c :: piece, pieces)

/-- How many backslashes a text ends in. -/
def trailingBackslashes (cs : List Char) : Nat := (cs.reverse.takeWhile (· == '\\')).length

/-! ## Writing -/

/-- Two backslashes in a row become one. -/
def halveBackslashes : List Char → List Char
  | '\\' :: '\\' :: rest => '\\' :: halveBackslashes rest
  | c :: rest => c :: halveBackslashes rest
  | [] => []

/-- A code can follow the text: it ends in backslashes, an even number of them, or it
is nothing but an odd number of them. -/
def takesCode (before : List Char) : Bool :=
  let n := trailingBackslashes before
  n != 0 && (if n < before.length then n % 2 == 0 else n % 2 == 1)

/-- Joins a text and the piece after a place where it was cut. -/
def joinPiece (before piece : List Char) : List Char :=
  let before := halveBackslashes before
  before ++ (if takesCode before then "u00".toList else ['x']) ++ piece

/-- What stands between the quotes for a text. A text with its only cut at the very
front has no written form. -/
def encode? (s : String) : Option (List Char) :=
  match cutAt 'x' (Text.escaped '"' s) with
  | ([], [_]) => none
  | ([], piece :: pieces) => some (pieces.foldl joinPiece piece)
  | (piece, pieces) => some (pieces.foldl joinPiece piece)

/-- The text between quotes. -/
def quoted? (s : String) : Option String := (encode? s).map fun cs => String.ofList ('"' :: cs ++ ['"'])

/-! ## Reading -/

/-- Escapes of one letter, and what they stand for. -/
def letterEscapes : List (Char × Char) :=
  [('0', '\x00'), ('b', '\x08'), ('f', '\x0c'), ('n', '\n'), ('r', '\r'), ('t', '\t'), ('"', '"'), ('\\', '\\')]

def isCodeMark (c : Char) : Bool := c == 'u' || c == 'U'

/-- Every backslash starts an escape of the format. -/
def escapesAreKnown : List Char → Bool
  | '\\' :: c :: rest => ((letterEscapes.lookup c).isSome || isCodeMark c) && escapesAreKnown rest
  | _ :: rest => escapesAreKnown rest
  | [] => true

/-- Hexadecimal digits that start like a surrogate. -/
def startsSurrogate : List Nat → Bool
  | 13 :: second :: _ => 8 ≤ second
  | _ => false

/-- The character of a code. -/
def codeChar? (digits : List Char) : Option Char := do
  let values ← digits.mapM Json.Reader.hexValue?
  let n := values.foldl (fun n d => 16 * n + d) 0
  if !values.isEmpty && !startsSurrogate values && n.isValidChar then some (Char.ofNat n) else none

/-- Reads the codes at the front of the pieces of a cut text. The mark of a code
stays where the backslash before it is itself escaped. -/
def readCodes (mark : Char) (width : Nat) (isEscaped : Bool) : List (List Char) → Option (List Char)
  | [] => some []
  | piece :: rest =>
    if isEscaped then
      (readCodes mark width (trailingBackslashes piece % 2 == 1) rest).map ('\\' :: mark :: piece ++ ·)
    else do
      let c ← codeChar? (piece.take width)
      return c :: piece.drop width ++ (← readCodes mark width false rest)

/-- The text with the codes of a mark replaced by their characters. -/
def expandCodes (mark : Char) (width : Nat) (cs : List Char) : Option (List Char) :=
  let (piece, pieces) := cutAt mark cs
  (readCodes mark width (trailingBackslashes piece % 2 == 1) pieces).map (piece ++ ·)

/-- The text with the escapes of one letter replaced. -/
def expandLetters : List Char → Option (List Char)
  | '\\' :: c :: rest =>
    match letterEscapes.lookup c with
    | some d => (expandLetters rest).map (d :: ·)
    | none => if isCodeMark c then (expandLetters rest).map ('\\' :: c :: ·) else none
  | c :: rest => (expandLetters rest).map (c :: ·)
  | [] => some []

/-- The text inside its quotes, of which there are one or three on each side. -/
def unquoted (quote : Char) (cs : List Char) : List Char :=
  let width := if [quote, quote, quote].isPrefixOf cs then 3 else 1
  (cs.drop width).take (cs.length - 2 * width)

/-- The text that stands between double quotes. Codes are read first, and may make
quotes and backslashes of their own. -/
def decode? (content : List Char) : Option String :=
  if escapesAreKnown content then do
    let cs ← expandCodes 'u' 4 ('"' :: content ++ ['"'])
    let cs ← expandCodes 'U' 8 cs
    return String.ofList (unquoted '"' (← expandLetters cs))
  else none

end RefactorAudit.Toml
