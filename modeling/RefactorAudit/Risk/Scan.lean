import RefactorAudit.Risk.Signatures
import RefactorAudit.Text.Case
import RefactorAudit.Text.Search

/-!
# Risk scans

`scan` looks for the risk signatures in a source, `scanDependencies` for names of
dependencies that hint at a restrictive license.
-/

namespace RefactorAudit.Risk

/-- Which risks to look for. The quality families are scanned only together with
the others. -/
structure ScanOptions where
  security : Bool
  quality : Bool
  deriving DecidableEq, Repr

/-- The flag that one pattern of a signature raises, if it matches often enough. -/
def Signature.flag? (s : Signature) (p : Pattern) (source : String) : Option Flag :=
  let count := p.count source
  if 0 < count ∧ s.least ≤ count then some ⟨s.kind, s.severity, s.describe count, s.suggestion⟩ else none

/-- The flags of a family, one for each pattern that matches often enough. -/
def scanFamily (family : List Signature) (source : String) : List Flag :=
  family.flatMap fun s => s.patterns.filterMap fun p => s.flag? p source

/-- The flags of all requested families, in order, before duplicates are dropped. -/
def findings (options : ScanOptions) (source : String) : List Flag :=
  if options.security then
    scanFamily security source ++ scanFamily licenses source ++ scanFamily compatibility source ++
      if options.quality then scanFamily performance source ++ scanFamily maintainability source else []
  else []

def scan (options : ScanOptions) (source : String) : List Flag := dedup (findings options source)

/-! ## Dependencies -/

/-- Parts of a name that hint at a restrictive license. -/
def restrictiveMarkers : List String := ["gpl", "copyleft"]

def isRestrictive (dependency : String) : Bool :=
  let lowered := Text.lower dependency
  restrictiveMarkers.any (Text.occursIn · lowered)

def dependencyFlag (dependency : String) : Flag where
  kind := .license
  severity := .high
  description := s!"Dependency {dependency} may have restrictive license"
  suggestion := "Review dependency license before including in production"

def scanDependencies (options : ScanOptions) (dependencies : List String) : List Flag :=
  if options.security then dedup ((dependencies.filter isRestrictive).map dependencyFlag) else []

end RefactorAudit.Risk
