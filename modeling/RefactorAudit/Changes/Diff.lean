import RefactorAudit.Changes.File
import RefactorAudit.Pairing.Matching

/-!
# The difference between two trees

A node of the refactored tree is added if it is in no pair and no legacy node is
equivalent to it; removed nodes are found the other way round. A pair whose nodes
are not equivalent is modified.
-/

namespace RefactorAudit

/-- Counts of changes. Counts that are given from outside may be negative. -/
structure DiffStats where
  nodesAdded : Int
  nodesRemoved : Int
  nodesModified : Int
  linesAdded : Int
  linesRemoved : Int
  deriving DecidableEq, Repr

namespace DiffStats

def zero : DiffStats := ⟨0, 0, 0, 0, 0⟩

def isEmpty (s : DiffStats) : Bool := s == zero

end DiffStats

structure Diff where
  added : List Node
  removed : List Node
  modified : List ModifiedNode
  files : List FileChange
  overall : DiffStats
  deriving Repr

/-- A pair names a handle that its tree does not have. -/
structure NoSuchNode where
  handle : Nat
  deriving DecidableEq, Repr

namespace Diff

def empty : Diff := ⟨[], [], [], [], .zero⟩

/-- The nodes that are not exempt and have no equivalent among the signatures. -/
def unmatched (nodes : List Node) (exempt : Nat → Bool) (signatures : List Signature) : List Node :=
  nodes.filter fun n => !exempt n.handle && !signatures.contains n.signature

def nodeAt (t : SyntaxTree) (handle : Nat) : Except NoSuchNode Node :=
  match t.node? handle with
  | some n => .ok n
  | none => .error ⟨handle⟩

/-- The modification of a pair, if its nodes are not equivalent. -/
def modification? (old new : Node) : Option ModifiedNode :=
  if old.isEquivalent new then none else some ⟨old, new, nodeChanges old new⟩

/-- The modified pairs, in the order of the pairs. -/
def modifications (legacy refactored : SyntaxTree) (pairs : NodePairs) : Except NoSuchNode (List ModifiedNode) := do
  let nodes ← pairs.pairs.mapM fun p => do return (← nodeAt legacy p.1, ← nodeAt refactored p.2)
  return nodes.filterMap fun p => modification? p.1 p.2

/-- Compares two trees whose nodes are paired. -/
def compute (path : String) (legacy refactored : SyntaxTree) (pairs : NodePairs) : Except NoSuchNode Diff := do
  let added := unmatched refactored.nodes pairs.isTarget (legacy.nodes.map Node.signature)
  let removed := unmatched legacy.nodes pairs.isSource (refactored.nodes.map Node.signature)
  let modified ← modifications legacy refactored pairs
  let counts := LineDiff.lineCounts legacy.source refactored.source
  let file : FileChange :=
    { path := path
      textDiff := LineDiff.unified path legacy.source refactored.source
      summary := structuralSummary added removed modified
      impact := fileImpact added.length removed.length modified.length
      linesAdded := counts.added
      linesRemoved := counts.removed
      linesModified := modified.length }
  return {
    added := added
    removed := removed
    modified := modified
    files := [file]
    overall := ⟨added.length, removed.length, modified.length, counts.added, counts.removed⟩ }

end Diff

end RefactorAudit
