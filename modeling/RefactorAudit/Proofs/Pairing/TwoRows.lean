import Mathlib.Data.List.GetD
import Mathlib.Data.List.Infix
import RefactorAudit.Proofs.Pairing.EditScript

/-!
# The distance in two rows

The distance can be filled in from the front, with the row before the current one and
nothing else in memory, and with the shorter list along the rows. This gives
`editDistance`, which works from the back (`twoRowDistance_eq`): a script read
backwards leads from one reversed list to the other, so the distance obeys the same
equations at the ends of the lists (`editDistance_concat_concat`).
-/

namespace RefactorAudit

namespace EditDistance

variable {α : Type}

/-! ## Edits from behind -/

theorem Edit.exists_of_change {c : Change α} (front : List α) {back back' : List α} (h : c.result? back = some back') :
    ∃ e : Edit α, e.result? (front ++ back) = some (front ++ back') :=
  ⟨⟨front.length, c⟩, by simp [Edit.result?, h]⟩

/-- In the reversed list the same change is made, counted from the other end. -/
theorem Edit.exists_reverse {e : Edit α} {xs ys : List α} (h : e.result? xs = some ys) :
    ∃ e' : Edit α, e'.result? xs.reverse = some ys.reverse := by
  obtain ⟨front, back, back', rfl, rfl, hback⟩ := e.exists_split h
  generalize e.change = c at hback
  cases c with
  | insert x =>
    obtain rfl : x :: back = back' := by simpa [Change.result?] using hback
    have hmirrored := exists_of_change back.reverse (show (Change.insert x).result? front.reverse = _ from rfl)
    simpa using hmirrored
  | delete =>
    cases back with
    | nil => cases hback
    | cons x back =>
      obtain rfl : back = back' := by simpa [Change.result?] using hback
      have hmirrored := exists_of_change back.reverse (show Change.delete.result? (x :: front.reverse) = _ from rfl)
      simpa using hmirrored
  | substitute y =>
    cases back with
    | nil => cases hback
    | cons x back =>
      obtain rfl : y :: back = back' := by simpa [Change.result?] using hback
      have hmirrored := exists_of_change back.reverse
        (show (Change.substitute y).result? (x :: front.reverse) = _ from rfl)
      simpa using hmirrored

theorem Transforms.reverse {n : Nat} {xs ys : List α} (h : Transforms n xs ys) :
    Transforms n xs.reverse ys.reverse := by
  obtain ⟨script, rfl, hscript⟩ := h
  induction script generalizing xs with
  | nil =>
    obtain rfl : xs = ys := Option.some.inj hscript
    exact .refl _
  | cons e script ih =>
    obtain ⟨xs', he, hrest⟩ := Option.bind_eq_some_iff.1 hscript
    obtain ⟨e', he'⟩ := e.exists_reverse he
    obtain ⟨script', hlength, hscript'⟩ := ih hrest
    refine ⟨e' :: script', congrArg (· + 1) hlength, ?_⟩
    rw [scriptResult?, List.foldlM_cons, he']
    exact hscript'

end EditDistance

open EditDistance

variable {α : Type} [DecidableEq α]

theorem editDistance_reverse (xs ys : List α) : editDistance xs.reverse ys.reverse = editDistance xs ys := by
  have hle : ∀ xs ys : List α, editDistance xs.reverse ys.reverse ≤ editDistance xs ys :=
    fun xs ys => (transforms_editDistance xs ys).reverse.editDistance_le
  have hge := hle xs.reverse ys.reverse
  rw [List.reverse_reverse, List.reverse_reverse] at hge
  exact le_antisymm (hle xs ys) hge

/-- The equation of two last items is that of two first ones. -/
theorem editDistance_concat_concat (x y : α) (xs ys : List α) :
    editDistance (xs ++ [x]) (ys ++ [y]) =
      if x = y then editDistance xs ys
      else 1 + min (editDistance xs ys) (min (editDistance xs (ys ++ [y])) (editDistance (xs ++ [x]) ys)) := by
  rw [← editDistance_reverse (xs ++ [x]) (ys ++ [y]), ← editDistance_reverse xs (ys ++ [y]),
    ← editDistance_reverse (xs ++ [x]) ys, ← editDistance_reverse xs ys, List.reverse_concat, List.reverse_concat,
    editDistance_cons_cons]

/-! ## The loop -/

namespace EditDistance

/-- Puts entry `j` behind the entries of `current`, for the `j`-th item `y` of the second
list. The row before has the entries `previous`. -/
def pushEntry (x : α) (previous current : List Nat) (y : α) (j : Nat) : List Nat :=
  current ++ [if x = y then previous.getD (j - 1) 0
    else 1 + min (previous.getD (j - 1) 0) (min (previous.getD j 0) (current.getD (j - 1) 0))]

/-- Row `i`, for the `i`-th item `x` of the first list. -/
def rowAfter (previous : List Nat) (ys : List α) (x : α) (i : Nat) : List Nat :=
  (ys.zipIdx 1).foldl (fun current entry => pushEntry x previous current entry.1 entry.2) [i]

/-- The row of the last item of `xs`. -/
def lastRow (xs ys : List α) : List Nat :=
  (xs.zipIdx 1).foldl (fun previous entry => rowAfter previous ys entry.1 entry.2) (List.range (ys.length + 1))

/-- The rows run along the shorter list. -/
def twoRowDistance (xs ys : List α) : Nat :=
  if xs.length < ys.length then (lastRow ys xs).getLastD 0 else (lastRow xs ys).getLastD 0

theorem rowAfter_concat (previous : List Nat) (ys : List α) (y x : α) (i : Nat) :
    rowAfter previous (ys ++ [y]) x i = pushEntry x previous (rowAfter previous ys x i) y (ys.length + 1) := by
  rw [rowAfter, rowAfter, List.zipIdx_append, List.foldl_append, Nat.add_comm ys.length]
  rfl

theorem lastRow_concat (xs : List α) (x : α) (ys : List α) :
    lastRow (xs ++ [x]) ys = rowAfter (lastRow xs ys) ys x (xs.length + 1) := by
  rw [lastRow, lastRow, List.zipIdx_append, List.foldl_append, Nat.add_comm xs.length]
  rfl

/-! ## What the rows hold -/

/-- The distances from `xs` to every beginning of `ys`, the shortest first. -/
def initDistances (xs ys : List α) : List Nat := ys.inits.map (editDistance xs)

theorem initDistances_concat (xs ys : List α) (y : α) :
    initDistances xs (ys ++ [y]) = initDistances xs ys ++ [editDistance xs (ys ++ [y])] := by
  simp [initDistances, List.inits_append]

theorem initDistances_nil_left (ys : List α) : initDistances [] ys = List.range (ys.length + 1) := by
  induction ys using List.reverseRecOn with
  | nil => simp [initDistances]
  | append_singleton ys y ih =>
    rw [initDistances_concat, ih, editDistance_nil_left, List.length_append, List.length_singleton]
    exact List.range_succ.symm

theorem getD_initDistances (xs done rest : List α) :
    (initDistances xs (done ++ rest)).getD done.length 0 = editDistance xs done := by
  have hlt : done.length < (initDistances xs (done ++ rest)).length := by
    rw [initDistances, List.length_map, List.length_inits, List.length_append]
    omega
  rw [List.getD_eq_getElem _ _ hlt]
  simp only [initDistances, List.getElem_map, List.getElem_inits, List.take_left]

theorem getLastD_initDistances (xs ys : List α) : (initDistances xs ys).getLastD 0 = editDistance xs ys := by
  induction ys using List.reverseRecOn with
  | nil => simp [initDistances]
  | append_singleton ys y _ => rw [initDistances_concat, List.getLastD_concat]

/-- The row is right as far as it is filled in, if the one before is. -/
theorem rowAfter_eq (xs : List α) (x : α) (done rest : List α) :
    rowAfter (initDistances xs (done ++ rest)) done x (xs.length + 1) = initDistances (xs ++ [x]) done := by
  induction done using List.reverseRecOn generalizing rest with
  | nil => simp [rowAfter, initDistances]
  | append_singleton done y ih =>
    have hdiagonal := getD_initDistances xs done (y :: rest)
    have habove := getD_initDistances xs (done ++ [y]) rest
    have hbefore := getD_initDistances (xs ++ [x]) done []
    rw [List.append_assoc, List.singleton_append] at habove ⊢
    rw [List.append_nil] at hbefore
    rw [List.length_append, List.length_singleton] at habove
    rw [rowAfter_concat, ih (y :: rest), pushEntry, Nat.add_sub_cancel, hdiagonal, habove, hbefore,
      initDistances_concat, editDistance_concat_concat]

theorem lastRow_eq (xs ys : List α) : lastRow xs ys = initDistances xs ys := by
  induction xs using List.reverseRecOn with
  | nil => exact (initDistances_nil_left ys).symm
  | append_singleton xs x ih =>
    have hrow := rowAfter_eq xs x ys []
    rw [List.append_nil] at hrow
    rw [lastRow_concat, ih, hrow]

end EditDistance

/-- Two rows and the shorter list along them are enough for the distance. -/
theorem twoRowDistance_eq (xs ys : List α) : twoRowDistance xs ys = editDistance xs ys := by
  rw [twoRowDistance, lastRow_eq, lastRow_eq, getLastD_initDistances, getLastD_initDistances]
  split
  · exact editDistance_comm ys xs
  · rfl

end RefactorAudit
