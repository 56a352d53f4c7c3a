import RefactorAudit.Toml.Number

/-!
# Reading configuration documents

A document is read line by line: a header `[name]` opens a table, a line
`key = value` sets a value, and comments start with `#`. No name may occur twice.
-/

namespace RefactorAudit.Toml.Reader

def isKeyChar (c : Char) : Bool := c.isAlphanum || c == '_' || c == '-'

/-- What may stand in front of a line. -/
def isIndent (c : Char) : Bool := c == ' ' || c == '\t'

def skipBlanks (cs : List Char) : List Char := cs.dropWhile Text.isBlank

/-- Nothing is left, or a comment. -/
def isComment (cs : List Char) : Bool := cs.head?.all (· == '#')

/-- Nothing but a comment is left of the line. -/
def isDone (cs : List Char) : Bool := isComment (skipBlanks cs)

/-! ## Values -/

/-- The characters before the double quote that closes a text, and those after it. A
backslash keeps the character after it from closing the text. -/
def basicContent? : List Char → Option (List Char × List Char)
  | [] => none
  | '"' :: rest => some ([], rest)
  | '\\' :: c :: rest => (basicContent? rest).map fun (content, rest) => ('\\' :: c :: content, rest)
  | c :: rest => (basicContent? rest).map fun (content, rest) => (c :: content, rest)

/-- A text with escapes, after its opening quote. -/
def basicString? (cs : List Char) : Option String := do
  let (content, rest) ← basicContent? cs
  if isDone rest then decode? content else none

/-- A text that stands for itself, after its opening quote. -/
def literalString? (cs : List Char) : Option String :=
  match cs.dropWhile (· != '\'') with
  | [] => none
  | _ :: rest => if isDone rest then some (String.ofList (cs.takeWhile (· != '\''))) else none

/-- A word: a truth value or a number. -/
def word? (cs : List Char) : Option Value :=
  if cs == "true".toList then some (.bool true)
  else if cs == "false".toList then some (.bool false)
  else number? cs

/-- A word that needs no space in front of it: a truth value or a decimal number. -/
def needsNoSpace (cs : List Char) : Bool :=
  let number := if cs.head?.any Char.isDigit then cs.filter (· != '_') else cs
  cs.isEmpty || cs == "true".toList || cs == "false".toList || (Decimal.ofText? (String.ofList number)).isSome

/-- The value that a line ends with, after the equals sign. -/
def value? (cs : List Char) : Option Value :=
  match cs.dropWhile isIndent with
  | '"' :: rest => (basicString? rest).map .str
  | '\'' :: rest => (literalString? rest).map .str
  | rest =>
    let word := (Text.trim (String.ofList (rest.takeWhile (· != '#')))).toList
    if cs.head?.any isIndent || needsNoSpace word then word? word else none

/-! ## Lines -/

inductive Line where
  | blank
  | header (name : String)
  | assignment (key : String) (value : Value)

/-- A name and what follows it. -/
def name? (cs : List Char) : Option (String × List Char) :=
  let name := cs.takeWhile isKeyChar
  if name.isEmpty then none else some (String.ofList name, skipBlanks (cs.dropWhile isKeyChar))

def line? (cs : List Char) : Option Line :=
  let cs := cs.dropWhile isIndent
  if isComment cs then some .blank
  else
    match cs with
    | '[' :: rest =>
      match name? (skipBlanks rest) with
      | some (name, ']' :: rest) => if isDone rest then some (.header name) else none
      | _ => none
    | cs =>
      match name? cs with
      | some (key, '=' :: rest) => (value? rest).map (.assignment key)
      | _ => none

/-- The document so far, and the table that is open. -/
structure State where
  document : Document
  current : Option String

def State.step (s : State) : Line → Option State
  | .blank => some s
  | .header name =>
    if s.document.contains name then none else some ⟨s.document.set name (.table .empty), some name⟩
  | .assignment key v =>
    match s.current with
    | none => if s.document.contains key then none else some { s with document := s.document.set key (.value v) }
    | some name =>
      match s.document.get? name with
      | some (.table t) =>
        if t.contains key then none else some { s with document := s.document.set name (.table (t.set key v)) }
      | _ => none

end Reader

/-- The document that a text writes, if it is well formed. -/
def read? (text : String) : Option Document := do
  let lines ← (text.toList.splitOn '\n').mapM Reader.line?
  return (← lines.foldlM Reader.State.step ⟨.empty, none⟩).document

end RefactorAudit.Toml
