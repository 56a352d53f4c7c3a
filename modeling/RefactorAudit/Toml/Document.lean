import RefactorAudit.Decimal
import RefactorAudit.Table
import RefactorAudit.Toml.Escape

/-!
# Configuration documents

A document holds values and tables of values by name, whatever the values are.
`render?` writes a document of truth values, numbers and texts: the values first and
then each table under its header, in their order.
-/

namespace RefactorAudit.Toml

inductive Value where
  | bool (b : Bool)
  | int (n : Int)
  | float (x : Float)
  | str (s : String)

inductive Entry (ν : Type) where
  | value (v : ν)
  | table (t : Table String ν)

abbrev DocumentOf (ν : Type) := Table String (Entry ν)

abbrev Document := DocumentOf Value

/-! ## Text -/

/-- Exponents have no zero in front. -/
def trimExponent : List Char → List Char
  | 'e' :: sign :: '0' :: rest => 'e' :: sign :: rest
  | c :: rest => c :: trimExponent rest
  | [] => []

/-- The text of a value. There are texts that cannot be written. -/
def Value.render? : Value → Option String
  | .bool b => some (if b then "true" else "false")
  | .int n => some (toString n)
  | .float x => some (String.ofList (trimExponent (Decimal.shortest x).toList))
  | .str s => quoted? s

def valueLine? (e : String × Value) : Option String := e.2.render?.map fun text => e.1 ++ " = " ++ text ++ "\n"

/-- The lines of some values. -/
def valueLines? (values : List (String × Value)) : Option String := (values.mapM valueLine?).map String.join

def topValue? : String × Entry Value → Option (String × Value)
  | (key, .value v) => some (key, v)
  | (_, .table _) => none

def topTable? : String × Entry Value → Option (String × Table String Value)
  | (_, .value _) => none
  | (name, .table t) => some (name, t)

/-- The header and the lines of a table. -/
def section? (e : String × Table String Value) : Option String :=
  (valueLines? e.2.entries).map fun text => "[" ++ e.1 ++ "]\n" ++ text

/-- The text of the document, a blank line between its parts, if all of it can be
written. -/
def render? (d : Document) : Option String := do
  let top ← valueLines? (d.entries.filterMap topValue?)
  let sections ← (d.entries.filterMap topTable?).mapM section?
  return "\n".intercalate ((if top == "" then [] else [top]) ++ sections)

end RefactorAudit.Toml
