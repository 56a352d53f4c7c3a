/-!
# Refactoring techniques
-/

namespace RefactorAudit

inductive Technique where
  | extractMethod
  | inlineMethod
  | renameSymbol
  | moveModularize
  | serviceExtraction
  | layering
  | eventDriven
  | cloudMigration
  | errorHandling
  | loggingObservability
  | testing
  | containerization
  | infrastructureAsCode
  | databaseMigration
  deriving DecidableEq, Repr

namespace Technique

def all : List Technique :=
  [.extractMethod, .inlineMethod, .renameSymbol, .moveModularize, .serviceExtraction, .layering, .eventDriven,
    .cloudMigration, .errorHandling, .loggingObservability, .testing, .containerization, .infrastructureAsCode,
    .databaseMigration]

def name : Technique → String
  | .extractMethod => "Extract Method"
  | .inlineMethod => "Inline Method"
  | .renameSymbol => "Rename Symbol"
  | .moveModularize => "Move/Modularize"
  | .serviceExtraction => "Service Extraction"
  | .layering => "Layering"
  | .eventDriven => "Event-driven"
  | .cloudMigration => "Cloud Migration"
  | .errorHandling => "Error Handling"
  | .loggingObservability => "Logging/Observability"
  | .testing => "Testing"
  | .containerization => "Containerization"
  | .infrastructureAsCode => "Infrastructure as Code"
  | .databaseMigration => "Database Migration"

def ofName? (s : String) : Option Technique := all.find? (·.name == s)

/-- Techniques that bring in infrastructure. -/
def isInfrastructure : Technique → Bool
  | .serviceExtraction | .cloudMigration | .containerization | .infrastructureAsCode | .eventDriven => true
  | _ => false

/-- Techniques that weigh double in the complexity of a change. -/
def isComplex : Technique → Bool
  | .serviceExtraction | .cloudMigration | .eventDriven | .infrastructureAsCode => true
  | _ => false

/-- Techniques that reduce complexity. -/
def isSimplifying : Technique → Bool
  | .extractMethod | .inlineMethod | .renameSymbol => true
  | _ => false

end Technique

/-! ## Levels -/

/-- How deep a change goes, from 0 to 4. -/
abbrev Level := Fin 5

/-- The higher of two levels. -/
def Level.higher (a b : Level) : Level := if a ≤ b then b else a

def Level.name (l : Level) : String :=
  match l with
  | 0 => "trivial"
  | 1 => "minor"
  | 2 => "moderate"
  | 3 => "significant"
  | 4 => "architectural"

end RefactorAudit
