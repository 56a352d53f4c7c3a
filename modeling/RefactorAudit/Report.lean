import RefactorAudit.Analysis

/-!
# Reports

The results of an analysis as JSON values. Confidences and components are rounded
to four places.
-/

namespace RefactorAudit.Report

open Json

def ofTag (t : Tag Float) : Json :=
  .obj [("type", .str t.technique.name), ("level", .int t.level.val), ("evidence", .arr (t.evidence.map .str)),
    ("confidence", .float (Decimal.roundTo 4 t.confidence))]

def ofFlag (f : Risk.Flag) : Json :=
  .obj [("type", .str f.kind.name), ("severity", .str f.severity.name), ("description", .str f.description),
    ("suggestion", .str f.suggestion)]

def ofFile (f : FileChange) : Json :=
  .obj [
    ("filePath", .str f.path),
    ("changes", .obj [
      ("textDiff", .str f.textDiff),
      ("astDiffSummary", .str f.summary),
      ("impactScore", .int f.impact),
      ("linesAdded", .int f.linesAdded),
      ("linesRemoved", .int f.linesRemoved),
      ("linesModified", .int f.linesModified)])]

def ofMetrics (m : Impact.Metrics Float) : Json :=
  .obj [
    ("totalLinesChanged", .int m.linesChanged),
    ("filesModified", .int m.filesModified),
    ("newDependencies", .arr (m.newDependencies.map .str)),
    ("removedDependencies", .arr (m.removedDependencies.map .str)),
    ("cyclomaticComplexityDelta", .float m.complexityDelta),
    ("testCoverageDelta", .float m.coverageDelta),
    ("astNodesChanged", .int m.nodesChanged),
    ("newInfrastructureComponents", .float m.infrastructure),
    ("architecturalChanges", .int m.architecturalChanges),
    ("normalized", .obj (m.components.entries.map fun e => (e.1, .float (Decimal.roundTo 4 e.2)))),
    ("description", .str m.description)]

def fieldsOf (r : Analysis.Result Float) : List (String × Json) :=
  [("overallScore", .int r.score),
    ("level", .int r.level.val),
    ("summary", .str r.summary),
    ("refactorTypes", .arr (r.tags.map ofTag)),
    ("files", .arr (r.files.map ofFile)),
    ("riskFlags", .arr (r.flags.map ofFlag)),
    ("metrics", ofMetrics r.metrics)]

def ofResult (r : Analysis.Result Float) : Json := .obj (fieldsOf r)

/-- The result, and what to do next. -/
def withNextSteps (r : Analysis.Result Float) : Json :=
  .obj (fieldsOf r ++ [("suggestedNextSteps", .arr ((Analysis.nextSteps r.tags r.flags).map .str))])

end RefactorAudit.Report
