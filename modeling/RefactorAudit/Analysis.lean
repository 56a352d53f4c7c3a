import RefactorAudit.Impact.Score
import RefactorAudit.Refactoring.Detect
import RefactorAudit.Risk.Scan
import RefactorAudit.Syntax.Grammar

/-!
# Comparing two versions of a source

`Analysis.run` parses both versions, pairs their nodes, and reports what changed,
which refactoring techniques show in the change, how deep it goes, and which risks
the refactored source carries.
-/

namespace RefactorAudit

namespace Analysis

variable {α : Type} [Scalar α]

structure Options where
  hints : Hints
  scan : Risk.ScanOptions
  /-- Apply the factors of the language to the impact. -/
  adjustForLanguage : Bool
  /-- The name reported for the compared file. -/
  path : String

def Options.standard : Options := ⟨.empty, ⟨true, false⟩, false, "main"⟩

/-- Why there is no result. A parse error and a timeout come from outside; the other
causes would be faults of the analysis itself. -/
inductive Failure (α : Type) where
  | parse (e : ParseError)
  | timeout (seconds : α)
  | pairing (e : PairingError)
  | noSuchNode (e : NoSuchNode)
  | tag (e : TagError α)
  | score (e : Impact.ScoreError)

structure Result (α : Type) [Scalar α] where
  score : Int
  level : Level
  summary : String
  tags : List (Tag α)
  files : List FileChange
  flags : List Risk.Flag
  metrics : Impact.Metrics α
  diff : Diff

/-! ## Words -/

/-- The techniques of the three highest tags, in one line. -/
def summarize (tags : List (Tag α)) : String :=
  match (Tag.byLevel tags).take 3 with
  | [] => "No significant refactoring detected"
  | top@(first :: _) =>
    s!"Major {first.level.name} changes: " ++ ", ".intercalate (top.map fun t => Text.lower t.technique.name)

/-- What to do after a refactoring of the technique. -/
def followUps : Technique → List String
  | .serviceExtraction =>
    ["Run integration tests for the new service endpoints", "Update API documentation and client SDKs"]
  | .cloudMigration =>
    ["Test with cloud emulators in development environment", "Implement proper retry/backoff for cloud API calls"]
  | .databaseMigration =>
    ["Run database migration scripts in staging environment", "Validate data integrity after migration"]
  | .containerization =>
    ["Test container builds and deployment pipeline", "Update CI/CD configurations for containerized deployment"]
  | _ => []

/-- What to do about a flag. -/
def remedies (f : Risk.Flag) : List String :=
  (if f.kind = .security ∧ f.severity = .high then
    ["Review and address security vulnerabilities before deployment"] else []) ++
  (if f.kind = .license then ["Review new dependency licenses for compliance"] else [])

/-- What to do next, each step once. -/
def nextSteps (tags : List (Tag α)) (flags : List Risk.Flag) : List String :=
  (tags.flatMap (followUps ·.technique) ++ flags.flatMap remedies).eraseDups

/-! ## The analysis -/

variable [HasExp α]

/-- Compares two syntax trees of sources in the language. -/
def compare (options : Options) (language : Language) (legacy refactored : SyntaxTree) :
    Except (Failure α) (Result α) := do
  let threshold : α := Scalar.ofRat Matching.defaultThreshold
  let pairs ← (Matching.run threshold options.hints legacy refactored).mapError .pairing
  let diff ← (Diff.compute options.path legacy refactored pairs).mapError .noSuchNode
  let tags ← (classify .standard diff).mapError .tag
  let adjustFor := if options.adjustForLanguage then some language.name else none
  let report ← (Impact.score Impact.standardWeights diff tags adjustFor).mapError .score
  let flags := Risk.dedup <|
    Risk.scan options.scan refactored.source ++
      Risk.scanDependencies options.scan report.metrics.newDependencies
  return {
    score := report.score
    level := report.level
    summary := summarize tags
    tags := tags
    files := diff.files
    flags := flags
    metrics := report.metrics
    diff := diff }

/-- Compares two versions of a source in the language. A fault of the legacy
version is reported before one of the refactored version. -/
def run (grammar : Grammar) (options : Options) (language legacy refactored : String) :
    Except (Failure α) (Result α) := do
  match Language.ofName? language with
  | none => .error (.parse (.unsupported language))
  | some l =>
    let legacyTree ← (Grammars.all.syntaxTree grammar language legacy).mapError .parse
    let refactoredTree ← (Grammars.all.syntaxTree grammar language refactored).mapError .parse
    compare options l legacyTree refactoredTree

/-! ## Failures in words -/

/-- The failure comes from the sources or the time limit. -/
def Failure.isExpected : Failure α → Bool
  | .parse _ | .timeout _ => true
  | _ => false

def Failure.message : Failure Float → String
  | .parse e => e.message
  | .timeout seconds => s!"Analysis did not complete within {Decimal.briefFloat seconds}s"
  | .pairing e => e.message
  | .noSuchNode e => s!"There is no node {e.handle}"
  | .tag e => e.message
  | .score e => e.message

end Analysis

end RefactorAudit
