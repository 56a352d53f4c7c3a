import Mathlib.Order.Bounds.Basic
import RefactorAudit.Proofs.Pairing.EditDistance

/-!
# Edit scripts

An edit inserts, deletes or substitutes one item, at any place of a list. A script
is a list of edits, made one after the other. `editDistance` is the length of the
shortest script from one list to another (`editDistance_isLeast`): reading its
equations as instructions gives a script of that length, and no single edit brings a
list nearer to another one by more than 1.
-/

namespace RefactorAudit

namespace EditDistance

/-- What an edit does to the items from its place on. -/
inductive Change (α : Type) where
  | insert (x : α)
  | delete
  | substitute (x : α)

variable {α : Type}

def Change.result? : Change α → List α → Option (List α)
  | .insert x, xs => some (x :: xs)
  | .delete, _ :: xs => some xs
  | .substitute x, _ :: xs => some (x :: xs)
  | _, [] => none

/-- A change, and how many items stand before it. -/
structure Edit (α : Type) where
  place : Nat
  change : Change α

/-- The list after the edit, unless it is too short for it. -/
def Edit.result? (e : Edit α) (xs : List α) : Option (List α) :=
  if e.place ≤ xs.length then (e.change.result? (xs.drop e.place)).map (xs.take e.place ++ ·) else none

/-- An edit changes what stands behind its place. -/
theorem Edit.exists_split {e : Edit α} {xs ys : List α} (h : e.result? xs = some ys) :
    ∃ front back back', xs = front ++ back ∧ ys = front ++ back' ∧ e.change.result? back = some back' := by
  unfold Edit.result? at h
  split at h
  · obtain ⟨back', hback, rfl⟩ := Option.map_eq_some_iff.1 h
    exact ⟨xs.take e.place, xs.drop e.place, back', (List.take_append_drop ..).symm, rfl, hback⟩
  · cases h

/-- The list after all edits of a script. -/
def scriptResult? (script : List (Edit α)) (xs : List α) : Option (List α) :=
  script.foldlM (fun xs e => e.result? xs) xs

/-- The same edit behind one more item. -/
def Edit.behind (e : Edit α) : Edit α := ⟨e.place + 1, e.change⟩

theorem Edit.result?_behind (e : Edit α) (x : α) (xs : List α) :
    e.behind.result? (x :: xs) = (e.result? xs).map (x :: ·) := by
  simp only [result?, behind, List.length_cons, Nat.add_le_add_iff_right, List.drop_succ_cons, List.take_succ_cons]
  split
  · rw [Option.map_map]
    rfl
  · rfl

theorem Edit.result?_front (c : Change α) (xs : List α) : Edit.result? ⟨0, c⟩ xs = c.result? xs := by
  simp [result?]

theorem scriptResult?_behind (script : List (Edit α)) (x : α) (xs : List α) :
    scriptResult? (script.map Edit.behind) (x :: xs) = (scriptResult? script xs).map (x :: ·) := by
  induction script generalizing xs with
  | nil => rfl
  | cons e script ih =>
    simp only [scriptResult?, List.map_cons, List.foldlM_cons, Edit.result?_behind] at ih ⊢
    cases e.result? xs with
    | none => rfl
    | some ys => exact ih ys

/-! ## Reading a script off the equations -/

/-- A script of `n` edits leads from one list to the other. -/
def Transforms (n : Nat) (xs ys : List α) : Prop :=
  ∃ script : List (Edit α), script.length = n ∧ scriptResult? script xs = some ys

namespace Transforms

variable {n : Nat} {xs ys zs : List α}

theorem refl (xs : List α) : Transforms 0 xs xs := ⟨[], rfl, rfl⟩

/-- Equal items in front stay as they are. -/
theorem keep (h : Transforms n xs ys) (x : α) : Transforms n (x :: xs) (x :: ys) := by
  obtain ⟨script, rfl, hscript⟩ := h
  refine ⟨script.map Edit.behind, List.length_map .., ?_⟩
  rw [scriptResult?_behind, hscript]
  rfl

/-- A change of the front may come before a script. -/
theorem change {c : Change α} (hc : c.result? xs = some ys) (h : Transforms n ys zs) : Transforms (n + 1) xs zs := by
  obtain ⟨script, rfl, hscript⟩ := h
  refine ⟨⟨0, c⟩ :: script, rfl, ?_⟩
  rw [scriptResult?, List.foldlM_cons, Edit.result?_front, hc]
  exact hscript

theorem insert (h : Transforms n xs ys) (y : α) : Transforms (n + 1) xs (y :: ys) :=
  change (c := .insert y) rfl (h.keep y)

theorem delete (h : Transforms n xs ys) (x : α) : Transforms (n + 1) (x :: xs) ys :=
  change (c := .delete) rfl h

theorem substitute (h : Transforms n xs ys) (x y : α) : Transforms (n + 1) (x :: xs) (y :: ys) :=
  change (c := .substitute y) rfl (h.keep y)

end Transforms

end EditDistance

open EditDistance

variable {α : Type} [DecidableEq α]

theorem transforms_editDistance (xs ys : List α) : Transforms (editDistance xs ys) xs ys := by
  induction xs generalizing ys with
  | nil =>
    induction ys with
    | nil => exact .refl []
    | cons y ys ih =>
      rw [editDistance_nil_left] at ih ⊢
      exact ih.insert y
  | cons x xs ihx =>
    induction ys with
    | nil =>
      have h := ihx []
      rw [editDistance_nil_right] at h ⊢
      exact h.delete x
    | cons y ys ihy =>
      rw [editDistance_cons_cons]
      split
      · next heq =>
        rw [← heq]
        exact (ihx ys).keep x
      · -- the change that the minimum stands for goes first
        have hmin : ∀ a b c : Nat, min a (min b c) = a ∨ min a (min b c) = b ∨ min a (min b c) = c := by omega
        rw [Nat.add_comm]
        rcases hmin (editDistance xs ys) (editDistance xs (y :: ys)) (editDistance (x :: xs) ys) with h | h | h
        · rw [h]
          exact (ihx ys).substitute x y
        · rw [h]
          exact (ihx (y :: ys)).delete x
        · rw [h]
          exact ihy.insert y

/-! ## What one edit is worth -/

/-- Where a deletion in front gains at most 1, an insertion costs at most 1. -/
theorem editDistance_cons_right_le_of_left {ys : List α}
    (hleft : ∀ (xs : List α) (x : α), editDistance xs ys ≤ editDistance (x :: xs) ys + 1) (xs : List α) (y : α) :
    editDistance xs (y :: ys) ≤ editDistance xs ys + 1 := by
  cases xs with
  | nil => simp
  | cons x xs =>
    rw [editDistance_cons_cons]
    split
    · exact hleft xs x
    · omega

theorem editDistance_le_cons_left (x : α) (xs ys : List α) : editDistance xs ys ≤ editDistance (x :: xs) ys + 1 := by
  induction ys generalizing x xs with
  | nil =>
    simp only [editDistance_nil_right, List.length_cons]
    omega
  | cons y ys ih =>
    have hright := editDistance_cons_right_le_of_left (fun xs x => ih x xs) xs y
    rw [editDistance_cons_cons]
    split
    · exact hright
    · have hleft := ih x xs
      omega

theorem editDistance_cons_right_le (y : α) (xs ys : List α) : editDistance xs (y :: ys) ≤ editDistance xs ys + 1 :=
  editDistance_cons_right_le_of_left (fun xs x => editDistance_le_cons_left x xs ys) xs y

theorem editDistance_cons_left_le (x : α) (xs ys : List α) : editDistance (x :: xs) ys ≤ editDistance xs ys + 1 := by
  rw [editDistance_comm, editDistance_comm xs]
  exact editDistance_cons_right_le x ys xs

/-- The diagonal costs at most 1, whether or not the items in front agree. -/
theorem editDistance_cons_cons_le (x y : α) (xs ys : List α) :
    editDistance (x :: xs) (y :: ys) ≤ editDistance xs ys + 1 := by
  rw [editDistance_cons_cons]
  split <;> omega

theorem editDistance_substitute_le (x x' : α) (xs ys : List α) :
    editDistance (x :: xs) ys ≤ editDistance (x' :: xs) ys + 1 := by
  induction ys with
  | nil => simp
  | cons y ys ih =>
    -- each way to start from `x'` is met by one from `x` that costs at most 1 more
    have hdiagonal := editDistance_cons_cons_le x y xs ys
    have hdelete := editDistance_cons_left_le x xs (y :: ys)
    have hinsert := editDistance_cons_right_le y (x :: xs) ys
    rw [editDistance_cons_cons x']
    split <;> omega

theorem EditDistance.Change.editDistance_le {c : Change α} {xs ys : List α} (h : c.result? xs = some ys) (zs : List α) :
    editDistance xs zs ≤ editDistance ys zs + 1 := by
  cases c with
  | insert x =>
    obtain rfl : x :: xs = ys := by simpa [Change.result?] using h
    exact editDistance_le_cons_left x xs zs
  | delete =>
    cases xs with
    | nil => cases h
    | cons x xs =>
      obtain rfl : xs = ys := by simpa [Change.result?] using h
      exact editDistance_cons_left_le x xs zs
  | substitute y =>
    cases xs with
    | nil => cases h
    | cons x xs =>
      obtain rfl : y :: xs = ys := by simpa [Change.result?] using h
      exact editDistance_substitute_le x y xs zs

/-- What a change gains does not depend on the items before its place. -/
theorem editDistance_append_left_le {xs ys : List α} (h : ∀ zs, editDistance xs zs ≤ editDistance ys zs + 1)
    (front zs : List α) : editDistance (front ++ xs) zs ≤ editDistance (front ++ ys) zs + 1 := by
  induction front generalizing zs with
  | nil => exact h zs
  | cons x front ihfront =>
    simp only [List.cons_append]
    induction zs with
    | nil =>
      have hlength := ihfront []
      simp only [editDistance_nil_right, List.length_cons] at hlength ⊢
      omega
    | cons z zs ihz =>
      have hboth := ihfront zs
      have hdelete := ihfront (z :: zs)
      rw [editDistance_cons_cons, editDistance_cons_cons]
      split <;> omega

theorem EditDistance.Edit.editDistance_le {e : Edit α} {xs ys : List α} (h : e.result? xs = some ys) (zs : List α) :
    editDistance xs zs ≤ editDistance ys zs + 1 := by
  obtain ⟨front, back, back', rfl, rfl, hback⟩ := e.exists_split h
  exact editDistance_append_left_le (Change.editDistance_le hback) front zs

/-- No script is shorter than the distance. -/
theorem EditDistance.Transforms.editDistance_le {n : Nat} {xs ys : List α} (h : Transforms n xs ys) : editDistance xs ys ≤ n := by
  obtain ⟨script, rfl, hscript⟩ := h
  induction script generalizing xs with
  | nil =>
    obtain rfl : xs = ys := Option.some.inj hscript
    rw [editDistance_self]
    exact Nat.zero_le _
  | cons e script ih =>
    obtain ⟨xs', he, hrest⟩ := Option.bind_eq_some_iff.1 hscript
    have hfirst := Edit.editDistance_le he ys
    have hothers := ih hrest
    simp only [List.length_cons]
    omega

/-- The edit distance of two lists, such as the characters of two names, is the least
number of insertions, deletions and substitutions of single items that lead from one
to the other: a script of that many edits does, and no shorter one. -/
theorem editDistance_isLeast (xs ys : List α) :
    IsLeast {n | ∃ script : List (Edit α), script.length = n ∧ scriptResult? script xs = some ys}
      (editDistance xs ys) :=
  ⟨transforms_editDistance xs ys, fun _ h => Transforms.editDistance_le h⟩

example : editDistance "kitten".toList "sitting".toList = 3 := by decide

end RefactorAudit
