/-!
# Lines

A line ends at any line boundary known to Unicode. The last line needs no
boundary, and a boundary at the end of the text opens no further line.
-/

namespace RefactorAudit.Text

/-- Characters that end a line. -/
def isLineBreak (c : Char) : Bool :=
  c == '\n' || c == '\r' || c == '\x0b' || c == '\x0c' || c == '\x1c' || c == '\x1d' || c == '\x1e' ||
    c == '\u0085' || c == '\u2028' || c == '\u2029'

/-- The lines of a text whose first line has been read up to the characters
`seen`, last first. A carriage return and a line feed after it end one line. -/
def linesFrom (seen : List Char) : List Char → List (List Char)
  | [] => if seen.isEmpty then [] else [seen.reverse]
  | '\r' :: '\n' :: rest => seen.reverse :: linesFrom [] rest
  | c :: rest => if isLineBreak c then seen.reverse :: linesFrom [] rest else linesFrom (c :: seen) rest

def lines (s : String) : List String := (linesFrom [] s.toList).map String.ofList

/-- Every line boundary `\r\n` or `\r` written as `\n`. -/
def unifyNewlinesFrom (seen : List Char) : List Char → List Char
  | [] => seen.reverse
  | '\r' :: '\n' :: rest => unifyNewlinesFrom ('\n' :: seen) rest
  | c :: rest => unifyNewlinesFrom ((if c == '\r' then '\n' else c) :: seen) rest

def unifyNewlines (s : String) : String := String.ofList (unifyNewlinesFrom [] s.toList)

end RefactorAudit.Text
