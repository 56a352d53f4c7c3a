import RefactorAudit.Pairing.EditDistance
import RefactorAudit.Scalar
import RefactorAudit.Syntax.Node

/-!
# Similarity of nodes

Two nodes are similar in so far as their names, their kinds and their parameters
agree. The similarity lies between 0 and 1.
-/

namespace RefactorAudit.Similarity

open Scalar

variable {α : Type} [Scalar α]

def nameWeight : Rat := 0.5

def kindWeight : Rat := 0.3

def parameterWeight : Rat := 0.2

/-- The share of the longer name that needs no edit. Two empty names have nothing
in common. -/
def ofNames (a b : String) : α :=
  if a == "" && b == "" then zero
  else if a == b then one
  else one - ofNat (editDistance a.toList b.toList) / ofNat (max a.length b.length)

/-- The share of the longer parameter list that the first list has in common with
the second one. -/
def ofParameters (p q : List String) : α :=
  if p.isEmpty && q.isEmpty then one
  else if p.isEmpty || q.isEmpty then zero
  else ofNat (p.countP q.contains) / ofNat (max p.length q.length)

/-- Nodes of different kinds count half. -/
def ofKinds (a b : String) : α := if a = b then one else ofRat 0.5

def ofNodes (a b : Node) : α :=
  ofNames a.metadata.nameText b.metadata.nameText * ofRat nameWeight + ofKinds a.kind b.kind * ofRat kindWeight +
    ofParameters a.metadata.parameters b.metadata.parameters * ofRat parameterWeight

/-- The first of the candidates that is most similar to the target, if one is more
similar than `best` says. -/
def bestFrom (target : Node) (best : Option (Node × α)) : List Node → Option (Node × α)
  | [] => best
  | c :: rest =>
    let s : α := ofNodes target c
    let bound := match best with
      | none => zero
      | some (_, s) => s
    bestFrom target (if bound < s then some (c, s) else best) rest

/-- The first of the candidates that is most similar to the target. -/
def best? (target : Node) (candidates : List Node) : Option (Node × α) := bestFrom target none candidates

end RefactorAudit.Similarity
