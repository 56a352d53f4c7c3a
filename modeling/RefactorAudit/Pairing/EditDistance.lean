/-!
# Edit distance

How many insertions, deletions and substitutions turn one list into another.
-/

namespace RefactorAudit

variable {α : Type} [DecidableEq α]

namespace EditDistance

/-- The distances from a list to every suffix of `ys`, the longest suffix first.
The list is `x` in front of the one whose distances are `row`. -/
def nextRow (x : α) : List α → List Nat → List Nat
  | y :: ys, d :: row =>
    let rest := nextRow x ys row
    let skipped := row.headD 0
    (if x = y then skipped else 1 + min skipped (min d (rest.headD 0))) :: rest
  | _, row => row.map (· + 1)

/-- The distances from the empty list to every suffix of `ys`. -/
def firstRow : List α → List Nat
  | [] => [0]
  | _ :: ys => (ys.length + 1) :: firstRow ys

/-- The distances from `xs` to every suffix of `ys`. -/
def rows (xs ys : List α) : List Nat := xs.foldr (fun x row => nextRow x ys row) (firstRow ys)

end EditDistance

/-- The least number of single-element edits between two lists. -/
def editDistance (xs ys : List α) : Nat := (EditDistance.rows xs ys).headD 0

end RefactorAudit
