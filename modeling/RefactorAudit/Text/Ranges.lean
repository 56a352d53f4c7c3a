/-!
# Character tables

Properties of characters are given as tables of code points. `inRanges` reads a
table of closed ranges, `CaseRun` a table of case forms.
-/

namespace RefactorAudit.Text

/-- The character lies in one of the closed ranges of code points. -/
def inRanges (table : List (Nat × Nat)) (c : Char) : Bool :=
  table.any fun r => r.1 ≤ c.toNat && c.toNat ≤ r.2

/-- The characters `first`, `first + step`, …, `last`. Their other case form is
as far from them as `target` is from `first`. -/
structure CaseRun where
  first : Nat
  last : Nat
  step : Nat
  target : Nat

/-- The other case form of a character of the run. -/
def CaseRun.image? (r : CaseRun) (c : Char) : Option Char :=
  let n := c.toNat
  if r.first ≤ n ∧ n ≤ r.last ∧ (n - r.first) % r.step = 0 then some (Char.ofNat (n + r.target - r.first))
  else none

end RefactorAudit.Text
