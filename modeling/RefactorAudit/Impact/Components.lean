import RefactorAudit.Refactoring.Tag
import RefactorAudit.Text.Quoted

/-!
# Components of the impact score

Every component is a number from 0 to 100 that is read off one metric of a change.
-/

namespace RefactorAudit.Impact

open Scalar

variable {α : Type} [Scalar α]

/-- Why there is no score. -/
inductive ScoreError where
  /-- A weight asks for a component that there is not. -/
  | noComponent (key : String)
  /-- A count is too large for a number. -/
  | tooLarge
  /-- An exponential is too large for a number. -/
  | overflow
  /-- The weighted sum is not a number. -/
  | notANumber
  deriving DecidableEq, Repr

def ScoreError.message : ScoreError → String
  | .noComponent key => Text.quoted key
  | .tooLarge => "int too large to convert to float"
  | .overflow => "math range error"
  | .notANumber => "cannot convert float NaN to integer"

/-- A count as a number. -/
def ofCount (n : Int) : Except ScoreError α :=
  match ofInt? n with
  | some x => .ok x
  | none => .error .tooLarge

/-! ## Metrics of tags -/

def complexityOf (t : Tag α) : Int :=
  (if t.technique.isComplex then 2 * (t.level.val : Int) else t.level.val) -
    (if t.technique.isSimplifying then (t.level.val : Int) else 0)

/-- How much more complex the techniques make the source, not below -10. -/
def complexityDelta (tags : List (Tag α)) : α := ofInt (max ((tags.map complexityOf).foldr (· + ·) 0) (-10))

def coverageOf (t : Tag α) : Int :=
  if t.technique = .testing then 10 * (t.level.val : Int) else if 3 ≤ t.level.val then -5 else 0

/-- By how much the techniques change test coverage, from -50 to 50. -/
def coverageDelta (tags : List (Tag α)) : α := ofInt (max (min ((tags.map coverageOf).foldr (· + ·) 0) 50) (-50))

/-! ## Components -/

/-- A logistic curve from 0 to 100 that passes 50 at the centre. No change at all
counts 0. -/
def logistic [HasExp α] (centre slope : Rat) (x : α) : Except ScoreError α :=
  if isZero x then .ok zero
  else
    match HasExp.exp? (-(x - ofRat centre) / ofRat slope) with
    | some e => .ok (atMost (ofNat 100) (ofNat 100 / (one + e)))
    | none => .error .overflow

def linesComponent [HasExp α] (lines : α) : Except ScoreError α := logistic 200 100 lines

def nodesComponent [HasExp α] (nodes : α) : Except ScoreError α := logistic 50 25 nodes

def infrastructureComponent (count : α) : α := atMost (ofNat 100) (count * ofNat 20)

def coverageComponent (delta : α) : α := atMost (ofNat 100) (atLeast zero ((delta + ofNat 50) * ofNat 2))

def complexityComponent (delta : α) : α := atMost (ofNat 100) (atLeast zero ((ofNat 10 - delta) * ofNat 5))

/-! ## Levels -/

/-- The highest level whose least score is reached. `reaches` says which scores
are reached. -/
def levelBy (reaches : Nat → Bool) : Level :=
  if reaches 80 then 4 else if reaches 60 then 3 else if reaches 40 then 2 else if reaches 20 then 1 else 0

def levelOf (score : Int) : Level := levelBy fun t => (t : Int) ≤ score

end RefactorAudit.Impact
