import RefactorAudit.Changes.Node
import RefactorAudit.LineDiff.Unified

/-!
# Changed files
-/

namespace RefactorAudit

/-- What changed in a file. -/
structure FileChange where
  path : String
  textDiff : String
  summary : String
  impact : Int
  linesAdded : Int
  linesRemoved : Int
  linesModified : Int
  deriving DecidableEq, Repr

/-- The line that a line of a diff brings in. The header of a diff brings in none. -/
def introducedLine? (line : String) : Option String :=
  match line.toList with
  | '+' :: '+' :: '+' :: _ => none
  | '+' :: rest => some (String.ofList rest)
  | _ => none

/-- The lines that the diff of the file brings in. -/
def FileChange.addedLines (f : FileChange) : List String := (Text.lines f.textDiff).filterMap introducedLine?

/-- How many nodes came, went and changed, and how many imports came and went. -/
def structuralSummary (added removed : List Node) (modified : List ModifiedNode) : String :=
  let importsOf (nodes : List Node) : Nat := (nodes.map (·.metadata.imports.length)).foldr (· + ·) 0
  let parts := [(added.length, "nodes added"), (removed.length, "nodes removed"),
    (modified.length, "nodes modified"), (importsOf added, "imports added"), (importsOf removed, "imports removed")]
  let told := parts.filter (·.1 != 0)
  if told.isEmpty then "No structural changes" else ", ".intercalate (told.map fun p => s!"{p.1} {p.2}")

/-- A score of at most 100 for the nodes that came, went and changed. -/
def fileImpact (added removed modified : Int) : Int := min (2 * added + 3 * removed + modified) 100

end RefactorAudit
