import RefactorAudit.LineDiff.Script
import RefactorAudit.Text.Lines

/-!
# Unified diffs

A hunk holds changes that stand close together, with up to three lines of context
around them. The text of a diff names the file, then lists its hunks.
-/

namespace RefactorAudit.LineDiff

/-- Runs of two lists that start at `oldStart` and `newStart`, counted from 0. -/
structure Hunk (α : Type) where
  oldStart : Nat
  newStart : Nat
  runs : List (Run α)
  deriving DecidableEq, Repr

namespace Hunk

variable {α : Type}

def push (h : Hunk α) (run : Run α) : Hunk α := { h with runs := h.runs ++ [run] }

def hasChange (h : Hunk α) : Bool := h.runs.any Run.isChange

def oldLength (h : Hunk α) : Nat := (h.runs.map (·.old.length)).foldr (· + ·) 0

def newLength (h : Hunk α) : Nat := (h.runs.map (·.new.length)).foldr (· + ·) 0

end Hunk

variable {α : Type}

/-- The lines of context around a change. -/
def context : Nat := 3

/-- Collects the runs at `i` and `j` into hunks, the first of which is `cur` as far
as it is known. A long run that stayed ends a hunk and opens the next one; at the
two ends of the script only the lines next to a change are kept. -/
def hunksFrom (i j : Nat) (cur : Hunk α) : List (Run α) → List (Hunk α)
  | [] => if cur.hasChange then [cur] else []
  | .change old new :: rest => hunksFrom (i + old.length) (j + new.length) (cur.push (.change old new)) rest
  | .same items :: rest =>
    let i' := i + items.length
    let j' := j + items.length
    let opened : Hunk α :=
      ⟨i' - min context items.length, j' - min context items.length,
        [.same (items.drop (items.length - context))]⟩
    if rest.isEmpty then
      if cur.hasChange then [cur.push (.same (items.take context))] else []
    else if cur.runs.isEmpty then hunksFrom i' j' opened rest
    else if 2 * context < items.length then
      cur.push (.same (items.take context)) :: hunksFrom i' j' opened rest
    else hunksFrom i' j' (cur.push (.same items)) rest

def hunks (runs : List (Run α)) : List (Hunk α) := hunksFrom 0 0 ⟨0, 0, []⟩ runs

/-! ## Text -/

/-- The lines of one side of a hunk: the first one counted from 1, and how many
where it is not one. An empty range names the line before it. -/
def rangeText (start length : Nat) : String :=
  if length = 1 then toString (start + 1)
  else if length = 0 then s!"{start},0"
  else s!"{start + 1},{length}"

def runLines : Run String → List String
  | .same items => items.map (" " ++ ·)
  | .change old new => old.map ("-" ++ ·) ++ new.map ("+" ++ ·)

def hunkLines (h : Hunk String) : List String :=
  s!"@@ -{rangeText h.oldStart h.oldLength} +{rangeText h.newStart h.newLength} @@" :: h.runs.flatMap runLines

/-- The lines of a diff between two lists of lines, none if they do not differ. -/
def unifiedLines (file : String) (old new : List String) : List String :=
  match hunks (script (rareAnchor (popular new)) old new) with
  | [] => []
  | hs => ("--- a/" ++ file) :: ("+++ b/" ++ file) :: hs.flatMap hunkLines

/-- The unified diff between two texts; it is empty if their lines are the same. -/
def unified (file old new : String) : String :=
  String.join ((unifiedLines file (Text.lines old) (Text.lines new)).map (· ++ "\n"))

/-- How many lines came in and how many were dropped between two texts. -/
structure LineCounts where
  added : Nat
  removed : Nat
  deriving DecidableEq, Repr

def lineCounts (old new : String) : LineCounts :=
  let runs := script anyAnchor (Text.lines old) (Text.lines new)
  ⟨addedCount runs, removedCount runs⟩

end RefactorAudit.LineDiff
