import RefactorAudit.Text.Blank
import RefactorAudit.Text.Word

/-!
# Text patterns

A pattern is a list of pieces that match one after the other. A run takes as many
characters as it can and gives them back one by one while the pieces after it do
not match. `Pattern.count` counts the matches in a text from left to right, none
of which overlap.
-/

namespace RefactorAudit

/-- A class of characters. -/
inductive CharClass where
  | only (c : Char)
  /-- The letter in either case. -/
  | anyCase (c : Char)
  | among (cs : List Char)
  | notAmong (cs : List Char)
  | between (first last : Char)
  | blank
  | word
  | either (a b : CharClass)

/-- Characters that differ in case only fold to the same one. Besides the ASCII
letters these are the long s, the Kelvin sign, and the dotted and dotless i. -/
def foldCase (c : Char) : Char :=
  if c == '\u017f' then 's'
  else if c == '\u212a' then 'k'
  else if c == '\u0130' || c == '\u0131' then 'i'
  else c.toLower

def CharClass.has : CharClass → Char → Bool
  | .only c, x => x == c
  | .anyCase c, x => foldCase x == foldCase c
  | .among cs, x => cs.contains x
  | .notAmong cs, x => !cs.contains x
  | .between first last, x => first ≤ x && x ≤ last
  | .blank, x => Text.isBlank x
  | .word, x => Text.isWord x
  | .either a b, x => a.has x || b.has x

inductive Piece where
  | one (cls : CharClass)
  /-- At least `least` characters of the class, and at most `most` if there is a
  limit. -/
  | run (cls : CharClass) (least : Nat) (most : Option Nat)
  /-- One of the texts, tried in order. -/
  | choice (texts : List String)
  /-- Between a word character and another one. -/
  | wordEdge
  /-- Before a line feed or at the end. -/
  | lineEnd

/-- A place in a text: the character before it, the characters after it, and how
many were matched on the way. -/
structure Cursor where
  before : Option Char
  ahead : List Char
  moved : Nat

namespace Cursor

/-- The cursor after each run of characters of the class, the shortest first. -/
def walk (cls : CharClass) (most : Option Nat) (before : Option Char) (moved : Nat) : List Char → List Cursor
  | [] => [⟨before, [], moved⟩]
  | c :: rest =>
    ⟨before, c :: rest, moved⟩ ::
      if most != some 0 && cls.has c then walk cls (most.map (· - 1)) (some c) (moved + 1) rest else []

/-- The cursor after a text that stands at it. -/
def after? (cur : Cursor) : List Char → Option Cursor
  | [] => some cur
  | c :: rest =>
    match cur.ahead with
    | [] => none
    | x :: xs => if x == c then after? ⟨some x, xs, cur.moved + 1⟩ rest else none

end Cursor

/-- Where a piece can end that starts at the cursor, the preferred place first. -/
def Piece.ends (cur : Cursor) : Piece → List Cursor
  | .one cls =>
    match cur.ahead with
    | [] => []
    | c :: rest => if cls.has c then [⟨some c, rest, cur.moved + 1⟩] else []
  | .run cls least most => ((Cursor.walk cls most cur.before cur.moved cur.ahead).drop least).reverse
  | .choice texts => texts.filterMap fun text => cur.after? text.toList
  | .wordEdge => if cur.before.any Text.isWord != cur.ahead.head?.any Text.isWord then [cur] else []
  | .lineEnd => if cur.ahead.head?.all (· == '\n') then [cur] else []

abbrev Pattern := List Piece

namespace Pattern

/-- The end of the preferred match that starts at the cursor. -/
def match? : Pattern → Cursor → Option Cursor
  | [], cur => some cur
  | piece :: rest, cur => (piece.ends cur).findSome? (match? rest)

/-- The matches in the characters after `before`, the first `skip` of which belong
to a match already counted. -/
def countFrom (p : Pattern) (skip : Nat) (before : Option Char) : List Char → Nat
  | [] => 0
  | c :: rest =>
    match skip with
    | n + 1 => countFrom p n (some c) rest
    | 0 =>
      match p.match? ⟨before, c :: rest, 0⟩ with
      | some ⟨_, _, n + 1⟩ => countFrom p n (some c) rest + 1
      | _ => countFrom p 0 (some c) rest

/-- How many matches there are in the text. -/
def count (p : Pattern) (s : String) : Nat := p.countFrom 0 none s.toList

/-! ## Building patterns -/

/-- The text as it stands. -/
def exactly (s : String) : Pattern := s.toList.map fun c => .one (.only c)

/-- The text, letter case aside. -/
def caseless (s : String) : Pattern := s.toList.map fun c => .one (.anyCase c)

def atMostOne (cls : CharClass) : Piece := .run cls 0 (some 1)

/-- Any white space. -/
def blanks : Piece := .run .blank 0 none

/-- White space, but not none. -/
def someBlanks : Piece := .run .blank 1 none

/-- A word. -/
def someWord : Piece := .run .word 1 none

end Pattern

end RefactorAudit
