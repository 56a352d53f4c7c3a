import Mathlib.Data.List.Flatten
import RefactorAudit.Proofs.LineDiff.Script

/-!
# What hunks keep of a script

Grouping a script into hunks leaves out runs that stayed, and nothing else: the hunks
hold all its changes (`changes_hunks`), so a script without hunks has none. Each hunk
stands at its place in both lists, and between hunks the lists are the same
(`hunks_splices`).
-/

namespace RefactorAudit.LineDiff

variable {α : Type}

namespace Run

@[simp] theorem old_same (items : List α) : (same items).old = items := rfl

@[simp] theorem new_same (items : List α) : (same items).new = items := rfl

@[simp] theorem old_change (before after : List α) : (change before after).old = before := rfl

@[simp] theorem new_change (before after : List α) : (change before after).new = after := rfl

@[simp] theorem isChange_same (items : List α) : (same items).isChange = false := rfl

@[simp] theorem isChange_change (before after : List α) : (change before after).isChange = true := rfl

end Run

/-! ## Changes -/

/-- The elements that the script brings in. -/
def introduced (runs : List (Run α)) : List α := (runs.filter Run.isChange).flatMap Run.new

/-- The elements that the script drops. -/
def dropped (runs : List (Run α)) : List α := (runs.filter Run.isChange).flatMap Run.old

theorem length_introduced (runs : List (Run α)) : (introduced runs).length = addedCount runs := List.length_flatMap

theorem length_dropped (runs : List (Run α)) : (dropped runs).length = removedCount runs := List.length_flatMap

theorem introduced_sublist (runs : List (Run α)) : (introduced runs).Sublist (runs.flatMap Run.new) :=
  List.filter_sublist.flatMap _

/-- The elements that the script keeps. -/
def kept (runs : List (Run α)) : List α := (runs.filter (!·.isChange)).flatMap Run.old

/-- What the script keeps is the same on both sides. -/
theorem kept_eq_flatMap_new (runs : List (Run α)) : kept runs = (runs.filter (!·.isChange)).flatMap Run.new := by
  refine List.flatMap_congr fun run hrun => ?_
  cases run with
  | same items => rfl
  | change old new => simp at hrun

/-- Each side of a script is what is kept and what is changed of it. -/
theorem length_side_eq (side : Run α → List α) (runs : List (Run α)) :
    (runs.flatMap side).length =
      ((runs.filter (!·.isChange)).flatMap side).length + ((runs.filter Run.isChange).flatMap side).length := by
  have hperm := (List.filter_append_perm Run.isChange runs).flatMap_right side
  rw [← hperm.length_eq, List.flatMap_append, List.length_append, Nat.add_comm]

theorem length_old_eq (runs : List (Run α)) :
    (runs.flatMap Run.old).length = (kept runs).length + removedCount runs := by
  rw [← length_dropped]
  exact length_side_eq Run.old runs

theorem length_new_eq (runs : List (Run α)) :
    (runs.flatMap Run.new).length = (kept runs).length + addedCount runs := by
  rw [← length_introduced, kept_eq_flatMap_new]
  exact length_side_eq Run.new runs

/-- What stays counts on both sides. -/
theorem addedCount_balance (runs : List (Run α)) :
    addedCount runs + (runs.flatMap Run.old).length = removedCount runs + (runs.flatMap Run.new).length := by
  rw [length_old_eq, length_new_eq]
  omega

theorem sides_eq_of_no_change {runs : List (Run α)} (h : runs.filter Run.isChange = []) :
    runs.flatMap Run.old = runs.flatMap Run.new :=
  sides_eq_of_counts runs (by rw [addedCount, h]; rfl) (by rw [removedCount, h]; rfl)

namespace Hunk

def old (h : Hunk α) : List α := h.runs.flatMap Run.old

def new (h : Hunk α) : List α := h.runs.flatMap Run.new

def changes (h : Hunk α) : List (Run α) := h.runs.filter Run.isChange

theorem length_old (h : Hunk α) : h.old.length = h.oldLength := List.length_flatMap

theorem length_new (h : Hunk α) : h.new.length = h.newLength := List.length_flatMap

@[simp] theorem old_push (h : Hunk α) (run : Run α) : (h.push run).old = h.old ++ run.old := by
  simp [push, old]

@[simp] theorem new_push (h : Hunk α) (run : Run α) : (h.push run).new = h.new ++ run.new := by
  simp [push, new]

@[simp] theorem changes_push (h : Hunk α) (run : Run α) :
    (h.push run).changes = h.changes ++ [run].filter Run.isChange := by
  simp [push, changes]

theorem changes_eq_nil {h : Hunk α} (hnone : ¬h.hasChange = true) : h.changes = [] := by
  simpa [hasChange, changes, List.filter_eq_nil_iff] using hnone

theorem old_eq_new {h : Hunk α} (hnone : ¬h.hasChange = true) : h.old = h.new :=
  sides_eq_of_no_change (changes_eq_nil hnone)

end Hunk

/-- The hunk that starts with the end of a run at `i` and `j`. -/
def Hunk.openedBy (items : List α) (i j : Nat) : Hunk α :=
  ⟨i + items.length - min context items.length, j + items.length - min context items.length,
    [.same (items.drop (items.length - context))]⟩

theorem hunksFrom_same (i j : Nat) (cur : Hunk α) (items : List α) (rest : List (Run α)) :
    hunksFrom i j cur (.same items :: rest) =
      if rest.isEmpty then if cur.hasChange then [cur.push (.same (items.take context))] else []
      else if cur.runs.isEmpty then hunksFrom (i + items.length) (j + items.length) (.openedBy items i j) rest
      else if 2 * context < items.length then
        cur.push (.same (items.take context)) ::
          hunksFrom (i + items.length) (j + items.length) (.openedBy items i j) rest
      else hunksFrom (i + items.length) (j + items.length) (cur.push (.same items)) rest := rfl

theorem changes_hunksFrom (i j : Nat) (cur : Hunk α) (runs : List (Run α)) :
    (hunksFrom i j cur runs).flatMap Hunk.changes = cur.changes ++ runs.filter Run.isChange := by
  induction runs generalizing i j cur with
  | nil =>
    rw [hunksFrom]
    split
    · simp
    · next hnone => simp [Hunk.changes_eq_nil hnone]
  | cons run rest ih =>
    cases run with
    | change old new =>
      rw [hunksFrom, ih]
      simp [List.filter_cons]
    | same items =>
      have hopened : (Hunk.openedBy items i j).changes = [] := rfl
      rw [hunksFrom_same, List.filter_cons_of_neg (by simp)]
      split_ifs with hlast hchange hfirst hlong
      · simp [List.isEmpty_iff.1 hlast]
      · simp [List.isEmpty_iff.1 hlast, Hunk.changes_eq_nil hchange]
      · have hcur : cur.changes = [] := by rw [Hunk.changes, List.isEmpty_iff.1 hfirst]; rfl
        rw [ih, hopened, hcur]
      · simp [ih, hopened]
      · simp [ih]

/-- Hunks hold all changes of the script, in order. -/
theorem changes_hunks (runs : List (Run α)) : (hunks runs).flatMap Hunk.changes = runs.filter Run.isChange :=
  changes_hunksFrom 0 0 ⟨0, 0, []⟩ runs

/-! ## Places -/

/-- The hunks stand at their places in the two lists, which start at `i` and `j`, and
outside of the hunks the lists are the same. -/
inductive Splices : Nat → Nat → List (Hunk α) → List α → List α → Prop
  | rest {i j : Nat} (items : List α) : Splices i j [] items items
  | hunk {i j : Nat} {h : Hunk α} {hs : List (Hunk α)} {old new : List α} (gap : List α)
      (hold : h.oldStart = i + gap.length) (hnew : h.newStart = j + gap.length)
      (later : Splices (h.oldStart + h.oldLength) (h.newStart + h.newLength) hs old new) :
      Splices i j (h :: hs) (gap ++ h.old ++ old) (gap ++ h.new ++ new)

/-- The hunk ends where places `i` and `j` of the two lists are. -/
structure Hunk.EndsAt (h : Hunk α) (i j : Nat) : Prop where
  old : h.oldStart + h.oldLength = i
  new : h.newStart + h.newLength = j

theorem Hunk.EndsAt.push {h : Hunk α} {i j : Nat} (hends : h.EndsAt i j) (run : Run α) :
    (h.push run).EndsAt (i + run.old.length) (j + run.new.length) := by
  obtain ⟨rfl, rfl⟩ := hends
  constructor
  · rw [← length_old, ← length_old, old_push, List.length_append, ← Nat.add_assoc]
    rfl
  · rw [← length_new, ← length_new, new_push, List.length_append, ← Nat.add_assoc]
    rfl

section Opened

variable (items : List α) (i j : Nat)

theorem oldStart_openedBy : (Hunk.openedBy items i j).oldStart = i + (items.length - context) := by
  simp only [Hunk.openedBy]
  omega

theorem newStart_openedBy : (Hunk.openedBy items i j).newStart = j + (items.length - context) := by
  simp only [Hunk.openedBy]
  omega

theorem old_openedBy : (Hunk.openedBy items i j).old = items.drop (items.length - context) := by
  simp [Hunk.openedBy, Hunk.old]

theorem new_openedBy : (Hunk.openedBy items i j).new = items.drop (items.length - context) := by
  simp [Hunk.openedBy, Hunk.new]

theorem endsAt_openedBy : (Hunk.openedBy items i j).EndsAt (i + items.length) (j + items.length) := by
  constructor
  · rw [oldStart_openedBy, ← Hunk.length_old, old_openedBy, List.length_drop]
    omega
  · rw [newStart_openedBy, ← Hunk.length_new, new_openedBy, List.length_drop]
    omega

end Opened

/-- All hunks from `cur` on stand at their places, whatever `gap` there is before
`cur`. -/
def SplicesFrom (cur : Hunk α) (hs : List (Hunk α)) (old new : List α) : Prop :=
  ∀ (i j : Nat) (gap : List α), cur.oldStart = i + gap.length → cur.newStart = j + gap.length →
    Splices i j hs (gap ++ cur.old ++ old) (gap ++ cur.new ++ new)

/-- Of the run that opens a hunk, all that stands before the hunk is a gap. The first
`n` items have been taken care of. -/
theorem SplicesFrom.of_opened {items : List α} {i j : Nat} {hs : List (Hunk α)} {old new : List α}
    (h : SplicesFrom (.openedBy items i j) hs old new) {n : Nat} (hn : n ≤ items.length - context) (i₀ j₀ : Nat)
    (gap : List α) (hi : i₀ + gap.length = i + n) (hj : j₀ + gap.length = j + n) :
    Splices i₀ j₀ hs (gap ++ items.drop n ++ old) (gap ++ items.drop n ++ new) := by
  have hrest : (items.drop n).take (items.length - context - n) ++ items.drop (items.length - context) = items.drop n := by
    have := List.take_append_drop (items.length - context - n) (items.drop n)
    rwa [List.drop_drop, show n + (items.length - context - n) = items.length - context by omega] at this
  have hlength : ((items.drop n).take (items.length - context - n)).length = items.length - context - n := by
    rw [List.length_take, List.length_drop]
    omega
  have hsplices := h i₀ j₀ (gap ++ (items.drop n).take (items.length - context - n))
    (by rw [oldStart_openedBy, List.length_append, hlength]; omega)
    (by rw [newStart_openedBy, List.length_append, hlength]; omega)
  rwa [old_openedBy, new_openedBy, List.append_assoc gap, hrest] at hsplices

theorem hunksFrom_splices {i j : Nat} {cur : Hunk α} (hends : cur.EndsAt i j) (runs : List (Run α)) :
    SplicesFrom cur (hunksFrom i j cur runs) (runs.flatMap Run.old) (runs.flatMap Run.new) := by
  induction runs generalizing i j cur with
  | nil =>
    intro i₀ j₀ gap hold hnew
    rw [hunksFrom]
    split
    · exact .hunk gap hold hnew (.rest [])
    · next hnone =>
      rw [Hunk.old_eq_new hnone]
      exact .rest _
  | cons run rest ih =>
    intro i₀ j₀ gap hold hnew
    cases run with
    | change before after =>
      rw [hunksFrom]
      simpa using ih (hends.push (.change before after)) i₀ j₀ gap hold hnew
    | same items =>
      have hopened := ih (endsAt_openedBy items i j)
      rw [hunksFrom_same, List.flatMap_cons, List.flatMap_cons, Run.old_same, Run.new_same]
      split_ifs with hlast hchange hfirst hlong
      · simpa [List.isEmpty_iff.1 hlast] using
          Splices.hunk (h := cur.push (.same (items.take context))) gap hold hnew (.rest (items.drop context))
      · rw [Hunk.old_eq_new hchange, List.isEmpty_iff.1 hlast]
        exact .rest _
      · have hcur : cur.old = [] ∧ cur.new = [] := by simp [Hunk.old, Hunk.new, List.isEmpty_iff.1 hfirst]
        have hlength : cur.oldLength = 0 ∧ cur.newLength = 0 := by
          rw [← Hunk.length_old, ← Hunk.length_new, hcur.1, hcur.2]
          exact ⟨rfl, rfl⟩
        rw [hcur.1, hcur.2, List.append_nil, ← List.append_assoc, ← List.append_assoc]
        exact hopened.of_opened (Nat.zero_le _) i₀ j₀ gap (by rw [← hends.old]; omega) (by rw [← hends.new]; omega)
      · have hlength : (items.take context).length = context := by
          rw [List.length_take]
          omega
        have hsplit : ∀ ys, items.take context ++ (items.drop context ++ ys) = items ++ ys := by
          intro ys
          rw [← List.append_assoc, List.take_append_drop]
        obtain ⟨hold', hnew'⟩ := hends.push (.same (items.take context))
        rw [Run.old_same, hlength] at hold'
        rw [Run.new_same, hlength] at hnew'
        have hlater := hopened.of_opened (show context ≤ items.length - context by omega) _ _ [] hold' hnew'
        simpa [hsplit] using Splices.hunk (h := cur.push (.same (items.take context))) gap hold hnew hlater
      · simpa using ih (hends.push (.same items)) i₀ j₀ gap hold hnew

/-- The hunks of a script stand at their places in the two lists. -/
theorem hunks_splices (runs : List (Run α)) :
    Splices 0 0 (hunks runs) (runs.flatMap Run.old) (runs.flatMap Run.new) :=
  hunksFrom_splices (show (⟨0, 0, []⟩ : Hunk α).EndsAt 0 0 from ⟨rfl, rfl⟩) runs 0 0 [] rfl rfl

theorem Splices.mem {i j : Nat} {hs : List (Hunk α)} {old new : List α} (h : Splices i j hs old new) {g : Hunk α}
    (hg : g ∈ hs) {x : α} (hx : x ∈ g.old ∨ x ∈ g.new) : x ∈ old ∨ x ∈ new := by
  induction h with
  | rest items => cases hg
  | hunk gap hold hnew later ih =>
    simp only [List.mem_append]
    rcases List.mem_cons.1 hg with rfl | hg
    · rcases hx with hx | hx
      · exact .inl (.inl (.inr hx))
      · exact .inr (.inl (.inr hx))
    · rcases ih hg with hx | hx
      · exact .inl (.inr hx)
      · exact .inr (.inr hx)

/-! ## The hunks of a diff -/

/-- The script that the text of a diff is made from. -/
def diffScript (old new : List String) : List (Run String) := script (rareAnchor (popular new)) old new

/-- The hunks that the text of a diff lists. -/
def diffHunks (old new : List String) : List (Hunk String) := hunks (diffScript old new)

variable (file : String) (old new : List String)

theorem changes_diffHunks : (diffHunks old new).flatMap Hunk.changes = (diffScript old new).filter Run.isChange :=
  changes_hunks _

theorem introduced_diffScript_sublist : (introduced (diffScript old new)).Sublist new := by
  have h := introduced_sublist (diffScript old new)
  rwa [diffScript, script_new] at h

theorem diffHunks_splices : Splices 0 0 (diffHunks old new) old new := by
  have h := hunks_splices (diffScript old new)
  rwa [diffScript, script_old, script_new] at h

/-- The lines of a diff are its header and those of its hunks, or none. -/
theorem unifiedLines_eq : unifiedLines file old new =
    (if (diffHunks old new).isEmpty then [] else ["--- a/" ++ file, "+++ b/" ++ file]) ++
      (diffHunks old new).flatMap hunkLines := by
  unfold unifiedLines diffHunks diffScript
  cases hunks (script (rareAnchor (popular new)) old new) with
  | nil => rfl
  | cons h hs => rfl

variable {old new}

theorem eq_of_diffHunks_eq_nil (h : diffHunks old new = []) : old = new := by
  have hnone := changes_diffHunks old new
  rw [h, List.flatMap_nil] at hnone
  have hsides := sides_eq_of_no_change hnone.symm
  rwa [diffScript, script_old, script_new] at hsides

/-- A diff is empty exactly if the lines are the same, whatever lines are frequent. -/
theorem unified_eq_empty_iff (old new : String) : unified file old new = "" ↔ Text.lines old = Text.lines new := by
  constructor
  · intro h
    apply eq_of_diffHunks_eq_nil
    rw [unified, unifiedLines_eq] at h
    cases hhunks : diffHunks (Text.lines old) (Text.lines new) with
    | nil => rfl
    | cons g hs => simp [hhunks] at h
  · exact unified_of_lines_eq file

end RefactorAudit.LineDiff
