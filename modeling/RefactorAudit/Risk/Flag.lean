/-!
# Risk flags
-/

namespace RefactorAudit.Risk

inductive Kind where
  | security
  | license
  | compatibility
  | performance
  | maintainability
  deriving DecidableEq, Repr

namespace Kind

def all : List Kind := [.security, .license, .compatibility, .performance, .maintainability]

def name : Kind → String
  | .security => "security"
  | .license => "license"
  | .compatibility => "compatibility"
  | .performance => "performance"
  | .maintainability => "maintainability"

def ofName? (s : String) : Option Kind := all.find? (·.name == s)

end Kind

inductive Severity where
  | low
  | medium
  | high
  | critical
  deriving DecidableEq, Repr

namespace Severity

def all : List Severity := [.low, .medium, .high, .critical]

def name : Severity → String
  | .low => "low"
  | .medium => "medium"
  | .high => "high"
  | .critical => "critical"

def ofName? (s : String) : Option Severity := all.find? (·.name == s)

end Severity

/-- A finding about the refactored source. -/
structure Flag where
  kind : Kind
  severity : Severity
  description : String
  suggestion : String
  deriving DecidableEq, Repr

/-- What duplicates of a flag share. -/
def Flag.key (f : Flag) : Kind × Severity × String := (f.kind, f.severity, f.description)

/-- The flags whose key is not in `seen`, the first one of each key. -/
def dedupFrom (seen : List (Kind × Severity × String)) : List Flag → List Flag
  | [] => []
  | f :: rest => if seen.contains f.key then dedupFrom seen rest else f :: dedupFrom (f.key :: seen) rest

/-- The first flag of each kind, severity and description. -/
def dedup (flags : List Flag) : List Flag := dedupFrom [] flags

end RefactorAudit.Risk
