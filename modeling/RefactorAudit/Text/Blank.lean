import RefactorAudit.Text.Ranges

/-!
# White space

Blank characters, and trimming at both ends of a text.
-/

namespace RefactorAudit.Text

/-- White space of every script, and the separators U+001C to U+001F. -/
def blankRanges : List (Nat × Nat) :=
  [(0x09, 0x0D), (0x1C, 0x20), (0x85, 0x85), (0xA0, 0xA0), (0x1680, 0x1680), (0x2000, 0x200A),
  (0x2028, 0x2029), (0x202F, 0x202F), (0x205F, 0x205F), (0x3000, 0x3000)]

def isBlank (c : Char) : Bool := inRanges blankRanges c

/-- The text without the characters of the class at its end. -/
def trimEndOf (drop : Char → Bool) (s : String) : String :=
  String.ofList (s.toList.reverse.dropWhile drop).reverse

/-- The text without the characters of the class at its two ends. -/
def trimOf (drop : Char → Bool) (s : String) : String :=
  trimEndOf drop (String.ofList (s.toList.dropWhile drop))

/-- The text without white space at its two ends. -/
def trim (s : String) : String := trimOf isBlank s

end RefactorAudit.Text
