import RefactorAudit.LineDiff.Match

/-!
# Edit scripts

A script lists what two lists share and what was changed between them, in order.
It is found by matching the longest common block first and then, in the same way,
what stands before it and what stands after it.
-/

namespace RefactorAudit.LineDiff

variable {α : Type} [DecidableEq α]

/-- A run of elements that stayed, or one that was replaced by another. -/
inductive Run (α : Type) where
  | same (items : List α)
  | change (old new : List α)
  deriving DecidableEq, Repr

namespace Run

def old : Run α → List α
  | .same items => items
  | .change old _ => old

def new : Run α → List α
  | .same items => items
  | .change _ new => new

def isChange : Run α → Bool
  | .same _ => false
  | .change _ _ => true

end Run

/-- The change between two lists that share nothing, if they are not both empty. -/
def changeRuns (a b : List α) : List (Run α) :=
  if a.isEmpty && b.isEmpty then [] else [.change a b]

/-- The runs between the two lists; runs that stayed may follow each other. -/
def pieces (anchor : α → Bool) (a b : List α) : List (Run α) :=
  let m := longest anchor a b
  if _h : m.size = 0 then changeRuns a b
  else
    pieces anchor (a.take m.left) (b.take m.right) ++
      .same ((a.drop m.left).take m.size) ::
        pieces anchor (a.drop (m.left + m.size)) (b.drop (m.right + m.size))
termination_by a.length
decreasing_by
  all_goals
    have hm : (longest anchor a b).size ≠ 0 := _h
    have := longest_left_add_size_le anchor a b
    simp only [List.length_take, List.length_drop]
    omega

/-- Puts a run in front; runs that stayed become one. -/
def consRun : Run α → List (Run α) → List (Run α)
  | .same xs, .same ys :: rest => .same (xs ++ ys) :: rest
  | run, rest => run :: rest

/-- The runs between the two lists. -/
def script (anchor : α → Bool) (a b : List α) : List (Run α) := (pieces anchor a b).foldr consRun []

/-- How many elements the script brings in. -/
def addedCount (runs : List (Run α)) : Nat := ((runs.filter Run.isChange).map (·.new.length)).foldr (· + ·) 0

/-- How many elements the script drops. -/
def removedCount (runs : List (Run α)) : Nat := ((runs.filter Run.isChange).map (·.old.length)).foldr (· + ·) 0

/-! ## Frequent elements -/

/-- In a list of 200 elements or more, those that make up over one in a hundred. -/
def popular (b : List α) : List α :=
  if 200 ≤ b.length then b.eraseDups.filter fun y => b.length / 100 + 1 < b.count y else []

/-- Every element is an anchor. -/
def anyAnchor (_ : α) : Bool := true

/-- Every element that is not frequent in `b` is an anchor. -/
def rareAnchor (popularInB : List α) (y : α) : Bool := !popularInB.contains y

end RefactorAudit.LineDiff
