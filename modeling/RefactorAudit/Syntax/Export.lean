import RefactorAudit.Json.Reader
import RefactorAudit.Syntax.Concrete
import RefactorAudit.Text.Utf8

/-!
# Exported concrete trees

Grammars run outside this library and hand over their trees as JSON. A node is an
object over the bytes of its source:

* `t` its kind, `b` the offsets of its first byte and past its last one,
* `u`, `m` 1 for an anonymous node and for a missing one, `f` its role, `c` its
  children,
* `x`, `p`, `h` its text, its place and its fault mark, where they are not what
  the bytes, the offsets and the nodes below it say.

Bytes are written as `hex` digits where they stand for themselves.
-/

namespace RefactorAudit.Export

/-- The bytes that hexadecimal digits write. -/
def bytesOfHex : List Char → List UInt8
  | a :: b :: rest =>
    match Json.Reader.hexValue? a, Json.Reader.hexValue? b with
    | some x, some y => UInt8.ofNat (16 * x + y) :: bytesOfHex rest
    | _, _ => []
  | _ => []

/-- The bytes of a JSON value: a text, or an object with `hex` digits. -/
def bytes? : Json → Option (List UInt8)
  | .str s => some s.toUTF8.toList
  | .obj [("hex", .str digits)] => some (bytesOfHex digits.toList)
  | _ => none

def nat? : Json → Option Nat
  | .int n => some n.toNat
  | _ => none

def nats? : Json → Option (List Nat)
  | .arr items => items.mapM nat?
  | _ => none

/-- The place of a byte offset. -/
def pointAt (source : List UInt8) (offset : Nat) : Point :=
  let before := source.take offset
  ⟨before.count 10, (before.reverse.takeWhile (· != 10)).length⟩

/-- The fields of a node as far as they are read. -/
structure Draft where
  kind : String := ""
  bounds : Nat × Nat := (0, 0)
  anonymous : Bool := false
  missing : Bool := false
  role : Option String := none
  children : List Concrete := []
  text : Option String := none
  span : Option Span := none
  hasError : Option Bool := none

def Draft.node (source : List UInt8) (d : Draft) : Concrete where
  kind := d.kind
  text := d.text.getD (Text.Utf8.decode ((source.take d.bounds.2).drop d.bounds.1))
  span := d.span.getD ⟨pointAt source d.bounds.1, pointAt source d.bounds.2⟩
  named := !d.anonymous
  missing := d.missing
  hasError := d.hasError.getD (d.kind == "ERROR" || d.missing || d.children.any (·.hasError))
  field := d.role
  children := d.children

/-- Reads a field that is not the children. -/
def Draft.setField (d : Draft) (key : String) (j : Json) : Draft :=
  match key, j with
  | "t", .str kind => { d with kind := kind }
  | "b", j =>
    match nats? j with
    | some [first, last] => { d with bounds := (first, last) }
    | _ => d
  | "u", .int n => { d with anonymous := n != 0 }
  | "m", .int n => { d with missing := n != 0 }
  | "f", .str role => { d with role := some role }
  | "x", .null => { d with text := some "" }
  | "x", .str s => { d with text := some s }
  | "x", j => { d with text := (bytes? j).map Text.Utf8.decode }
  | "p", j =>
    match nats? j with
    | some [a, b, c, e] => { d with span := some ⟨⟨a, b⟩, ⟨c, e⟩⟩ }
    | _ => d
  | "h", .int n => { d with hasError := some (n != 0) }
  | "h", .bool b => { d with hasError := some b }
  | _, _ => d

mutual

/-- The node that a JSON value describes, over the bytes of its source. -/
def node (source : List UInt8) : Json → Concrete
  | .obj fields => (draft source fields).node source
  | _ => Draft.node source {}

def draft (source : List UInt8) : List (String × Json) → Draft
  | [] => {}
  | (key, j) :: rest =>
    let d := draft source rest
    if key == "c" then { d with children := nodes source j } else d.setField key j

def nodes (source : List UInt8) : Json → List Concrete
  | .arr items => nodeList source items
  | _ => []

def nodeList (source : List UInt8) : List Json → List Concrete
  | [] => []
  | j :: rest => node source j :: nodeList source rest

end

/-- The tree of a source. -/
def tree (source : String) (j : Json) : Concrete := node source.toUTF8.toList j

end RefactorAudit.Export
