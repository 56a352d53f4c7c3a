import RefactorAudit.Json.Basic

/-!
# Syntax nodes

A node carries its kind, its text and what it declares: a name, parameters,
imports. Two nodes are equivalent when these agree; where they stand in their
sources does not count.
-/

namespace RefactorAudit

/-- A place in a source, rows and columns counted from zero. -/
structure Point where
  row : Nat
  col : Nat
  deriving DecidableEq, Repr

structure Span where
  start : Point
  stop : Point
  deriving DecidableEq, Repr

/-- `row:column-row:column`, rows counted from one. -/
def Span.text (s : Span) : String :=
  s!"{s.start.row + 1}:{s.start.col}-{s.stop.row + 1}:{s.stop.col}"

/-- What a node declares or brings in. -/
structure Metadata where
  name : Option String
  parameters : List String
  imports : List String
  deriving DecidableEq, Repr

namespace Metadata

def empty : Metadata := ⟨none, [], []⟩

def ofImports (targets : List String) : Metadata := ⟨none, [], targets⟩

/-- The declared name, empty where there is none. -/
def nameText (m : Metadata) : String := m.name.getD ""

/-- The node declares a name that is not empty. -/
def isNamed (m : Metadata) : Bool := m.nameText != ""

/-- A text that determines the metadata. -/
def key (m : Metadata) : String :=
  Json.render <| .obj [
    ("imports", .arr (m.imports.map .str)),
    ("name", m.name.elim .null .str),
    ("parameters", .arr (m.parameters.map .str))]

end Metadata

/-- A node of a syntax tree. `handle` is its place in the tree's list of nodes. -/
structure Node where
  handle : Nat
  kind : String
  text : String
  span : Span
  metadata : Metadata
  parent : Option Nat
  children : List Nat
  deriving Repr

/-- What equivalent nodes share. -/
structure Signature where
  kind : String
  text : String
  key : String
  deriving DecidableEq, Repr

namespace Node

def signature (n : Node) : Signature := ⟨n.kind, n.text, n.metadata.key⟩

def isEquivalent (a b : Node) : Bool := a.signature == b.signature

/-- A blank and the declared name, or nothing. -/
def nameLabel (n : Node) : String := if n.metadata.isNamed then " " ++ n.metadata.nameText else ""

/-- Kind, name and place of the node. -/
def label (n : Node) : String := n.kind ++ n.nameLabel ++ " @ " ++ n.span.text

end Node

end RefactorAudit
