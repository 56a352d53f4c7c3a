import RefactorAudit.Refactoring.Technique
import RefactorAudit.Scalar

/-!
# Tags

A tag says that a technique was found, on what evidence and how certainly. Its
level and its confidence are in range by construction: `Detection.tag` checks the
level, then the confidence.
-/

namespace RefactorAudit

open Scalar

structure Tag (α : Type) [Scalar α] where
  technique : Technique
  level : Level
  evidence : List String
  confidence : α
  confidence_nonneg : zero ≤ confidence
  confidence_le_one : confidence ≤ one

/-- Why a tag cannot be made. -/
inductive TagError (α : Type) where
  | level (got : Int)
  | confidence (got : α)

namespace Tag

variable {α : Type} [Scalar α]

/-- The tag, if its confidence is in range. -/
def make (technique : Technique) (level : Level) (evidence : List String) (confidence : α) :
    Except (TagError α) (Tag α) :=
  if h : zero ≤ confidence ∧ confidence ≤ one then .ok ⟨technique, level, evidence, confidence, h.1, h.2⟩
  else .error (.confidence confidence)

end Tag

/-- A level that is in range. -/
def Level.ofInt? (n : Int) : Option Level :=
  if h : 0 ≤ n ∧ n ≤ 4 then some ⟨n.toNat, by omega⟩ else none

/-- What points to a technique, before it is checked. -/
structure Detection (α : Type) where
  technique : Technique
  level : Int
  evidence : List String
  confidence : α

variable {α : Type} [Scalar α]

def Detection.tag (d : Detection α) : Except (TagError α) (Tag α) :=
  match Level.ofInt? d.level with
  | none => .error (.level d.level)
  | some level => Tag.make d.technique level d.evidence d.confidence

/-- The confidence of a tag if none is given. -/
def defaultConfidence : Rat := 0.8

/-! ## Text -/

def TagError.message : TagError Float → String
  | .level got => s!"Refactor level must be within 0..4, got {got}"
  | .confidence got => s!"Confidence must be within 0..1, got {Decimal.shortest got}"

/-- Technique, level and confidence of the tag. -/
def Tag.text (t : Tag Float) : String :=
  s!"{t.technique.name} (level {t.level.val}, {Decimal.percent t.confidence})"

end RefactorAudit
