import RefactorAudit.Pairing.Correspondence
import RefactorAudit.Pairing.Similarity
import RefactorAudit.Syntax.Tree
import RefactorAudit.Table

/-!
# Matching the nodes of two trees

Hints pair the declarations that they name. Each declaration of the legacy tree
that is left then takes, in pre-order, the most similar declaration of the
refactored tree that is still free, if it is similar enough.
-/

namespace RefactorAudit

/-- Pairs of a legacy and a refactored handle. -/
abbrev NodePairs := Correspondence Nat Nat

abbrev PairingError := Correspondence.Taken Nat Nat

/-- For old names, the names that their declarations have now. -/
abbrev Hints := Table String String

namespace Matching

variable {α : Type} [Scalar α]

/-- How similar two nodes have to be at least, by default. -/
def defaultThreshold : Rat := 0.7

/-- Adds the pair of a hint, unless a name is not declared or a node is taken. -/
def applyHint (legacy refactored : SyntaxTree) (m : NodePairs) (hint : String × String) :
    Except PairingError NodePairs :=
  match legacy.findByName? hint.1, refactored.findByName? hint.2 with
  | some l, some r => if m.isSource l.handle || m.isTarget r.handle then .ok m else m.add l.handle r.handle
  | _, _ => .ok m

/-- Adds the pair of a legacy node and the most similar free candidate, if it is
more similar than the threshold. -/
def matchNode (threshold : α) (candidates : List Node) (m : NodePairs) (l : Node) :
    Except PairingError NodePairs :=
  match Similarity.best? (α := α) l (candidates.filter fun c => !m.isTarget c.handle) with
  | some (r, s) => if threshold < s then m.add l.handle r.handle else .ok m
  | none => .ok m

/-- Matches two trees. -/
def run (threshold : α) (hints : Hints) (legacy refactored : SyntaxTree) : Except PairingError NodePairs := do
  let hinted ← hints.entries.foldlM (applyHint legacy refactored) .empty
  let open_ := legacy.namedNodes.filter fun l => !hinted.isSource l.handle
  open_.foldlM (matchNode threshold refactored.namedNodes) hinted

end Matching

end RefactorAudit
