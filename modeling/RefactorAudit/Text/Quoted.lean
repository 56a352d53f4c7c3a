import RefactorAudit.Text.Visible

/-!
# Quoted texts

A text between quotes, on one line and with visible characters only. `escaped`
writes what stands between the quotes, `quoted` chooses the quotes.
-/

namespace RefactorAudit.Text

/-- The last `width` hexadecimal digits of `n`. -/
def hexDigits (width n : Nat) : List Char :=
  (List.range width).reverse.map fun i => Nat.digitChar (n / Nat.pow 16 i % 16)

/-- A character by its code point, with two, four or eight digits. -/
def codeEscape (c : Char) : List Char :=
  if c.toNat < 0x100 then '\\' :: 'x' :: hexDigits 2 c.toNat
  else if c.toNat < 0x10000 then '\\' :: 'u' :: hexDigits 4 c.toNat
  else '\\' :: 'U' :: hexDigits 8 c.toNat

/-- A character of a text that stands between two of `quote`. -/
def escapeChar (quote c : Char) : List Char :=
  if c == '\\' || c == quote then ['\\', c]
  else if c == '\n' then ['\\', 'n']
  else if c == '\r' then ['\\', 'r']
  else if c == '\t' then ['\\', 't']
  else if isVisible c then [c]
  else codeEscape c

/-- What stands between two of `quote` for the text. -/
def escaped (quote : Char) (s : String) : List Char := s.toList.flatMap (escapeChar quote)

/-- Single quotes, or double quotes for a text that holds only single ones. -/
def quoteOf (s : String) : Char :=
  if s.toList.contains '\'' && !s.toList.contains '"' then '"' else '\''

def quoted (s : String) : String :=
  String.ofList (quoteOf s :: escaped (quoteOf s) s ++ [quoteOf s])

end RefactorAudit.Text
