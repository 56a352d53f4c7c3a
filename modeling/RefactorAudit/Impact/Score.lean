import RefactorAudit.Changes.Diff
import RefactorAudit.Impact.Components

/-!
# The impact of a change

The impact score is the weighted sum of the components, from 0 to 100; the level
of the change is read off the score.
-/

namespace RefactorAudit.Impact

open Scalar

variable {α : Type} [Scalar α]

/-- The metrics of a change, and its components by name. -/
structure Metrics (α : Type) where
  linesChanged : Int
  filesModified : Int
  newDependencies : List String
  removedDependencies : List String
  complexityDelta : α
  coverageDelta : α
  nodesChanged : Int
  infrastructure : α
  architecturalChanges : Int
  components : Table String α
  description : String

abbrev Weights (α : Type) := Table String α

def standardWeights : Weights α :=
  .ofList [("linesChanged", ofRat 0.3), ("astNodesChanged", ofRat 0.25), ("newInfrastructure", ofRat 0.2),
    ("testCoverage", ofRat 0.15), ("complexityDelta", ofRat 0.1)]

/-- The weights, or the standard ones where none are given. -/
def orStandard (weights : Weights α) : Weights α := if weights.entries.isEmpty then standardWeights else weights

/-- The import targets of the nodes, each one once. -/
def importTargets (nodes : List Node) : List String := (nodes.flatMap (·.metadata.imports)).eraseDups

/-- The metrics of a diff and of the techniques found in it. -/
def metrics (d : Diff) (tags : List (Tag α)) : Metrics α where
  linesChanged := d.overall.linesAdded + d.overall.linesRemoved + (d.files.map (·.linesModified)).foldr (· + ·) 0
  filesModified := d.files.countP (·.textDiff != "")
  newDependencies := importTargets d.added
  removedDependencies := importTargets d.removed
  complexityDelta := complexityDelta tags
  coverageDelta := coverageDelta tags
  nodesChanged := d.overall.nodesAdded + d.overall.nodesRemoved + d.overall.nodesModified
  infrastructure := ofNat (tags.countP (·.technique.isInfrastructure))
  architecturalChanges := tags.countP (·.level.val == 4)
  components := .empty
  description := ""

/-! ## Languages -/

/-- Factors for the complexity and the infrastructure of a language. -/
structure Adjustment where
  complexity : Rat
  infrastructure : Rat

def adjustments : List (String × Adjustment) :=
  [("java", ⟨1.1, 1.2⟩), ("javascript", ⟨0.9, 1.0⟩), ("python", ⟨0.95, 1.0⟩), ("c", ⟨1.3, 0.8⟩),
    ("cpp", ⟨1.2, 0.9⟩), ("csharp", ⟨1.05, 1.1⟩)]

/-- The metrics with the factors of the language applied, if it has some. -/
def Metrics.adjust (m : Metrics α) (language : String) : Metrics α :=
  match adjustments.lookup language with
  | none => m
  | some a =>
    { m with
      complexityDelta := m.complexityDelta * ofRat a.complexity
      infrastructure := m.infrastructure * ofRat a.infrastructure }

/-! ## The score -/

def Metrics.computeComponents [HasExp α] (m : Metrics α) : Except ScoreError (Table String α) := do
  let lines ← linesComponent (← ofCount m.linesChanged)
  let nodes ← nodesComponent (← ofCount m.nodesChanged)
  return .ofList [("linesChanged", lines), ("astNodesChanged", nodes),
    ("newInfrastructure", infrastructureComponent m.infrastructure),
    ("testCoverage", coverageComponent m.coverageDelta),
    ("complexityDelta", complexityComponent m.complexityDelta)]

/-- The sum of the components, each times its weight, in the order of the weights. -/
def weightedSum (weights : Weights α) (components : Table String α) : Except ScoreError α :=
  weights.entries.foldlM (fun sum w =>
    match components.get? w.1 with
    | some x => .ok (sum + x * w.2)
    | none => .error (.noComponent w.1)) zero

/-- The weighted sum within 0 and 100, a half rounded up. -/
def overallScore (weights : Weights α) (components : Table String α) : Except ScoreError Int := do
  let total ← weightedSum weights components
  match floor? (atMost (ofNat 100) (atLeast zero total) + ofRat 0.5) with
  | some score => .ok score
  | none => .error .notANumber

/-- What a level means. A level out of range reads as level 0. -/
def levelMeaning (level : Int) : String :=
  if level = 1 then "Minor code improvements and refactoring"
  else if level = 2 then "Moderate restructuring with some architectural changes"
  else if level = 3 then "Significant modernization with new patterns and infrastructure"
  else if level = 4 then "Major architectural transformation with cloud-native adoption"
  else "No significant changes detected"

/-- The impact in words. -/
def describe (level : Int) (infrastructure : α) (architecturalChanges : Int) : String :=
  let components :=
    if zero < infrastructure then s!" ({brief infrastructure} new infrastructure components)" else ""
  let architecture :=
    if 0 < architecturalChanges then s!" ({architecturalChanges} architectural changes)" else ""
  levelMeaning level ++ components ++ architecture

structure Report (α : Type) where
  score : Int
  level : Level
  metrics : Metrics α

/-- The impact of a diff and of the techniques found in it. The factors of a
language apply if one is given. Where nothing changed, every component is 0. -/
def score [HasExp α] (weights : Weights α) (d : Diff) (tags : List (Tag α)) (language : Option String) :
    Except ScoreError (Report α) := do
  let plain := metrics d tags
  let m := language.elim plain plain.adjust
  let (components, overall) ←
    if d.overall.isEmpty && tags.isEmpty then
      pure (Table.ofList (weights.keys.map fun k => (k, zero)), 0)
    else do
      let components ← m.computeComponents
      pure (components, ← overallScore weights components)
  let level := levelOf overall
  return {
    score := overall
    level := level
    metrics := {
      m with
      components := components
      description := describe level.val m.infrastructure m.architecturalChanges } }

end RefactorAudit.Impact
