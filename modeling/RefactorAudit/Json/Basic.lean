import RefactorAudit.Decimal

/-!
# JSON values and their text

Objects keep their fields in order. The text is printable ASCII: all other
characters are escaped, most of them as `\u` escapes of their UTF-16 units.
-/

namespace RefactorAudit

inductive Json where
  | null
  | bool (b : Bool)
  | int (n : Int)
  | float (x : Float)
  | str (s : String)
  | arr (items : List Json)
  | obj (fields : List (String × Json))

namespace Json

/-- `\u` and the four hexadecimal digits of a UTF-16 unit. -/
def unitEscape (u : Nat) : List Char :=
  '\\' :: 'u' :: [u / 4096 % 16, u / 256 % 16, u / 16 % 16, u % 16].map Nat.digitChar

def escapeChar (c : Char) : List Char :=
  if c = '"' then ['\\', '"']
  else if c = '\\' then ['\\', '\\']
  else if c = '\n' then ['\\', 'n']
  else if c = '\r' then ['\\', 'r']
  else if c = '\t' then ['\\', 't']
  else if c = '\x08' then ['\\', 'b']
  else if c = '\x0c' then ['\\', 'f']
  else if c.toNat < 0x20 then unitEscape c.toNat
  else if c.toNat < 0x7F then [c]
  else if c.toNat < 0x10000 then unitEscape c.toNat
  else
    let n := c.toNat - 0x10000
    unitEscape (0xD800 + n / 0x400) ++ unitEscape (0xDC00 + n % 0x400)

/-- The text between quotes, its characters escaped. -/
def quoted (s : String) : List Char := '"' :: s.toList.flatMap escapeChar ++ ['"']

/-- A number that is not finite has a name instead of digits. -/
def floatText (x : Float) : String :=
  if x.isNaN then "NaN" else if x.isInf then (if x < 0 then "-Infinity" else "Infinity") else Decimal.shortest x

/-! ## On one line -/

mutual

def chars : Json → List Char
  | .null => "null".toList
  | .bool b => (if b then "true" else "false").toList
  | .int n => (toString n).toList
  | .float x => (floatText x).toList
  | .str s => quoted s
  | .arr items => '[' :: [',', ' '].intercalate (charsOfItems items) ++ [']']
  | .obj fields => '\x7b' :: [',', ' '].intercalate (charsOfFields fields) ++ ['\x7d']

def charsOfItems : List Json → List (List Char)
  | [] => []
  | j :: rest => chars j :: charsOfItems rest

def charsOfFields : List (String × Json) → List (List Char)
  | [] => []
  | (k, j) :: rest => (quoted k ++ ':' :: ' ' :: chars j) :: charsOfFields rest

end

/-- The value on one line, a space after each comma and colon. -/
def render (j : Json) : String := String.ofList j.chars

/-! ## On indented lines -/

/-- A line break and the indentation of a depth. -/
def lineStart (depth : Nat) : List Char := '\n' :: List.replicate (2 * depth) ' '

/-- Items between brackets, each on a line of its own. -/
def bracketed (opening closing : Char) (depth : Nat) (items : List (List Char)) : List Char :=
  if items.isEmpty then [opening, closing]
  else
    opening :: lineStart (depth + 1) ++ (',' :: lineStart (depth + 1)).intercalate items ++
      lineStart depth ++ [closing]

mutual

def indentedChars (depth : Nat) : Json → List Char
  | .arr items => bracketed '[' ']' depth (indentedItems (depth + 1) items)
  | .obj fields => bracketed '\x7b' '\x7d' depth (indentedFields (depth + 1) fields)
  | j => chars j

def indentedItems (depth : Nat) : List Json → List (List Char)
  | [] => []
  | j :: rest => indentedChars depth j :: indentedItems depth rest

def indentedFields (depth : Nat) : List (String × Json) → List (List Char)
  | [] => []
  | (k, j) :: rest => (quoted k ++ ':' :: ' ' :: indentedChars depth j) :: indentedFields depth rest

end

/-- The value over several lines, two spaces for each level. -/
def renderIndented (j : Json) : String := String.ofList (j.indentedChars 0)

/-! ## Access -/

def get? (j : Json) (key : String) : Option Json :=
  match j with
  | .obj fields => fields.lookup key
  | _ => none

end Json

end RefactorAudit
