import RefactorAudit.Text.CaseTables

/-!
# Lower case

`lower` maps every character to its lower-case form. A capital sigma at the end
of a word becomes a final sigma; where a word ends is read off the cased
characters around it.
-/

namespace RefactorAudit.Text

def isCased (c : Char) : Bool :=
  if c.toNat < 0x80 then c.isAlpha else inRanges casedRanges c

/-- Marks and signs that do not end a word of cased characters. -/
def isCaseIgnorable (c : Char) : Bool :=
  if c.toNat < 0x80 then c == '\'' || c == '.' || c == ':' || c == '^' || c == '\x60'
  else inRanges caseIgnorableRanges c

/-- The nearest character that is not ignorable is cased. -/
def nextIsCased (cs : List Char) : Bool :=
  match cs.dropWhile isCaseIgnorable with
  | [] => false
  | c :: _ => isCased c

/-- The lower-case form of a character, whatever stands around it. -/
def lowerChar (c : Char) : List Char :=
  if c.toNat < 0x80 then [c.toLower]
  else if c == '\u0130' then ['i', '\u0307']
  else [(lowerRuns.findSome? (·.image? c)).getD c]

/-- The lower-case form of `c` between `before` (nearest first) and `after`. -/
def lowerAt (before : List Char) (c : Char) (after : List Char) : List Char :=
  if c == '\u03a3' then [if nextIsCased before && !nextIsCased after then '\u03c2' else '\u03c3'] else lowerChar c

/-- The lower-case form of the characters that follow `before` (nearest first),
after the characters `done` (last first). -/
def lowerFrom (before done : List Char) : List Char → List Char
  | [] => done.reverse
  | c :: rest => lowerFrom (c :: before) ((lowerAt before c rest).reverse ++ done) rest

def lower (s : String) : String := String.ofList (lowerFrom [] [] s.toList)

/-- The title-case form of a character. -/
def titleChar (c : Char) : List Char :=
  if c.toNat < 0x80 then [c.toUpper]
  else match titleExpansions.lookup c.toNat with
    | some form => form.map Char.ofNat
    | none => [(titleRuns.findSome? (·.image? c)).getD c]

/-- The first character in title case and the others in lower case. -/
def capitalize (s : String) : String :=
  match s.toList with
  | [] => ""
  | c :: rest => String.ofList (titleChar c ++ lowerFrom [c] [] rest)

end RefactorAudit.Text
