import RefactorAudit.Syntax.Declaration
import RefactorAudit.Syntax.Tree

/-!
# From concrete trees to syntax trees

`Concrete.toTree` lists the nodes of a concrete tree in depth-first pre-order and
gives each one its metadata.
-/

namespace RefactorAudit

namespace Concrete

/-- The handles of siblings, the first of which has handle `h`. -/
def handlesFrom (h : Nat) : List Concrete → List Nat
  | [] => []
  | c :: rest => h :: handlesFrom (h + c.size) rest

variable (metadata : Concrete → Metadata)

mutual

/-- The nodes of the tree in pre-order, numbered from `h`. -/
def nodesFrom (h : Nat) (parent : Option Nat) : Concrete → List Node
  | ⟨kind, text, span, named, missing, hasError, field, children⟩ =>
    { handle := h
      kind := kind
      text := text
      span := span
      metadata := metadata ⟨kind, text, span, named, missing, hasError, field, children⟩
      parent := parent
      children := handlesFrom (h + 1) children } :: nodesOfAll (h + 1) h children

/-- The nodes of siblings below `parent`, numbered from `h`. -/
def nodesOfAll (h parent : Nat) : List Concrete → List Node
  | [] => []
  | c :: rest => nodesFrom h (some parent) c ++ nodesOfAll (h + c.size) parent rest

end

mutual

theorem map_handle_nodesFrom (h : Nat) (parent : Option Nat) (c : Concrete) :
    (nodesFrom metadata h parent c).map Node.handle = List.range' h c.size := by
  cases c with
  | mk kind text span named missing hasError field children =>
    simp [nodesFrom, size, List.range'_succ, map_handle_nodesOfAll (h + 1) h children]

theorem map_handle_nodesOfAll (h parent : Nat) (cs : List Concrete) :
    (nodesOfAll metadata h parent cs).map Node.handle = List.range' h (sizeAll cs) := by
  cases cs with
  | nil => simp [nodesOfAll, sizeAll]
  | cons c rest =>
    simp [nodesOfAll, sizeAll, map_handle_nodesFrom h (some parent) c,
      map_handle_nodesOfAll (h + c.size) parent rest, List.range'_append_1]

end

theorem length_nodesFrom (h : Nat) (parent : Option Nat) (c : Concrete) :
    (nodesFrom metadata h parent c).length = c.size := by
  simpa using congrArg List.length (map_handle_nodesFrom metadata h parent c)

/-- The syntax tree of a source in the language. -/
def toTree (language : Language) (source : String) (c : Concrete) : SyntaxTree where
  language := language.name
  source := source
  nodes := nodesFrom language.metadata 0 none c
  handles_eq := by rw [map_handle_nodesFrom, length_nodesFrom, List.range_eq_range']

end Concrete

end RefactorAudit
