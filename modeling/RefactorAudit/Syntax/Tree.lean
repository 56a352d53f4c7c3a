import RefactorAudit.Syntax.Node

/-!
# Syntax trees

A tree is the list of its nodes in depth-first pre-order. The handle of a node is
its place in the list, so the root has handle 0.
-/

namespace RefactorAudit

structure SyntaxTree where
  language : String
  source : String
  nodes : List Node
  handles_eq : nodes.map Node.handle = List.range nodes.length

namespace SyntaxTree

/-- Numbers nodes by their place in the list. -/
def ofNodes (language source : String) (nodes : List Node) : SyntaxTree where
  language := language
  source := source
  nodes := nodes.zipIdx.map fun p => { p.1 with handle := p.2 }
  handles_eq := by
    simp only [List.map_map, List.length_map, List.length_zipIdx]
    exact List.ext_getElem (by simp) (by simp)

def size (t : SyntaxTree) : Nat := t.nodes.length

def root? (t : SyntaxTree) : Option Node := t.nodes.head?

def node? (t : SyntaxTree) (handle : Nat) : Option Node := t.nodes[handle]?

/-- The nodes that declare a name, in pre-order. -/
def namedNodes (t : SyntaxTree) : List Node := t.nodes.filter (·.metadata.isNamed)

/-- The first node in pre-order that declares the name. -/
def findByName? (t : SyntaxTree) (name : String) : Option Node :=
  t.nodes.find? (·.metadata.name == some name)

end SyntaxTree

end RefactorAudit
