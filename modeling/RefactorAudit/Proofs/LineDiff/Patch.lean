import RefactorAudit.Proofs.LineDiff.Hunks
import RefactorAudit.Proofs.Text.Lines

/-!
# Reading a diff and applying it

A reader of unified diffs and what it does to a text, apart from the writer: `readPatches?`
takes the lines after the header, `applyPatches` checks each hunk against the old lines and
makes the new ones. The text of a diff is read back line by line (`lines_unified`), its hunks
are those that were written (`readPatches?_hunks`), and applying them gives the new text.
-/

namespace RefactorAudit.LineDiff

/-! ## Lines of a hunk -/

/-- What a line of a hunk does. -/
inductive Edit where
  | keep (line : String)
  | delete (line : String)
  | insert (line : String)
  deriving DecidableEq

namespace Edit

/-- The line that has to be in the old text. -/
def old? : Edit → Option String
  | keep line | delete line => some line
  | insert _ => none

/-- The line that comes to be in the new text. -/
def new? : Edit → Option String
  | keep line | insert line => some line
  | delete _ => none

def inserted? : Edit → Option String
  | insert line => some line
  | keep _ | delete _ => none

def deleted? : Edit → Option String
  | delete line => some line
  | keep _ | insert _ => none

def read? (line : String) : Option Edit :=
  match line.toList with
  | ' ' :: cs => some (.keep (String.ofList cs))
  | '-' :: cs => some (.delete (String.ofList cs))
  | '+' :: cs => some (.insert (String.ofList cs))
  | _ => none

def text : Edit → String
  | keep line => " " ++ line
  | delete line => "-" ++ line
  | insert line => "+" ++ line

theorem read?_text (e : Edit) : read? e.text = some e := by
  cases e <;> simp [read?, text]

end Edit

/-! ## Headers of hunks -/

/-- A number in front, and what follows it. -/
def readNumber? (cs : List Char) : Option (Nat × List Char) :=
  if (cs.takeWhile Char.isDigit).isEmpty then none
  else some (Nat.ofDigitChars 10 (cs.takeWhile Char.isDigit) 0, cs.dropWhile Char.isDigit)

/-- `length` lines, with `start` lines before them. -/
structure Range where
  start : Nat
  length : Nat
  deriving DecidableEq

/-- The range as it is written. Lines count from 1, and an empty range is named by the
line before it. -/
def Range.ofLine? : (line length : Nat) → Option Range
  | line, 0 => some ⟨line, 0⟩
  | line + 1, length => some ⟨line, length⟩
  | 0, _ + 1 => none

/-- A range in front, and what follows it. A length of 1 is left out. -/
def readRange? (cs : List Char) : Option (Range × List Char) :=
  match readNumber? cs with
  | none => none
  | some (line, ',' :: cs) =>
    match readNumber? cs with
    | none => none
    | some (length, cs) => (Range.ofLine? line length).map (·, cs)
  | some (line, cs) => (Range.ofLine? line 1).map (·, cs)

/-- The ranges that a hunk covers in the old and in the new text. -/
def readHeader? (line : String) : Option (Range × Range) :=
  match line.toList with
  | '@' :: '@' :: ' ' :: '-' :: cs =>
    match readRange? cs with
    | some (old, ' ' :: '+' :: cs) =>
      match readRange? cs with
      | some (new, [' ', '@', '@']) => some (old, new)
      | _ => none
    | _ => none
  | _ => none

/-! ## Hunks -/

/-- A hunk as it is read. -/
structure Patch where
  oldStart : Nat
  newStart : Nat
  edits : List Edit
  deriving DecidableEq

namespace Patch

def old (p : Patch) : List String := p.edits.filterMap Edit.old?

def new (p : Patch) : List String := p.edits.filterMap Edit.new?

def inserted (p : Patch) : List String := p.edits.filterMap Edit.inserted?

def deleted (p : Patch) : List String := p.edits.filterMap Edit.deleted?

/-- The hunk with the header and the edits, if its ranges have the right lengths. -/
def ofHeader? (header : String) (edits : List Edit) : Option Patch :=
  match readHeader? header with
  | some (old, new) =>
    if old.length = (edits.filterMap Edit.old?).length ∧ new.length = (edits.filterMap Edit.new?).length then
      some ⟨old.start, new.start, edits⟩
    else none
  | none => none

end Patch

/-- The edits before the first header, and the hunks. -/
def readLines? : List String → Option (List Edit × List Patch)
  | [] => some ([], [])
  | line :: rest =>
    match readLines? rest with
    | none => none
    | some (edits, patches) =>
      match Edit.read? line with
      | some e => some (e :: edits, patches)
      | none => (Patch.ofHeader? line edits).map fun p => ([], p :: patches)

/-- The hunks that the lines list; each line belongs to one. -/
def readPatches? (lines : List String) : Option (List Patch) :=
  match readLines? lines with
  | some ([], patches) => some patches
  | _ => none

/-- Applies hunks to the lines of the old text from place `i` on, which are at place `j`
of the new text. Every hunk has to stand at its two places, and what it keeps or deletes
has to be there. -/
def applyFrom (i j : Nat) : List Patch → List String → Option (List String)
  | [], lines => some lines
  | p :: patches, lines =>
    let gap := p.oldStart - i
    if i ≤ p.oldStart ∧ p.newStart = j + gap ∧ gap ≤ lines.length ∧ p.old.isPrefixOf (lines.drop gap) then
      (applyFrom (p.oldStart + p.old.length) (p.newStart + p.new.length) patches
        (lines.drop (gap + p.old.length))).map fun later => lines.take gap ++ p.new ++ later
    else none

def applyPatches (patches : List Patch) (lines : List String) : Option (List String) := applyFrom 0 0 patches lines

/-! ## What is written is read -/

theorem readNumber?_repr (n : Nat) {rest : List Char} (hrest : ∀ c, rest.head? = some c → c.isDigit = false) :
    readNumber? (n.repr.toList ++ rest) = some (n, rest) := by
  have hdigits : ∀ c ∈ Nat.toDigits 10 n, c.isDigit = true := fun c hc =>
    Nat.isDigit_of_mem_toDigits (by decide) (by decide) hc
  have hstop : rest.takeWhile Char.isDigit = [] ∧ rest.dropWhile Char.isDigit = rest := by
    cases rest with
    | nil => exact ⟨rfl, rfl⟩
    | cons c rest => simp [hrest c rfl]
  rw [readNumber?, Nat.toList_repr, List.takeWhile_append_of_pos hdigits, List.dropWhile_append_of_pos hdigits,
    hstop.1, hstop.2, List.append_nil, Nat.ofDigitChars_ten_toDigits, if_neg]
  simp

/-- A range is written as the line that names it and, where it is not 1, the length. -/
theorem toList_rangeText (start length : Nat) : (rangeText start length).toList =
    (if length = 0 then start else start + 1).repr.toList ++ if length = 1 then [] else ',' :: length.repr.toList := by
  unfold rangeText
  split
  · next h => simp [h]
  · split
    · next h =>
      subst h
      change (start.repr ++ ",0").toList = _
      simp
    · next h =>
      change ((start + 1).repr ++ "," ++ length.repr).toList = _
      simp [*]

theorem Range.ofLine?_eq (start length : Nat) :
    ofLine? (if length = 0 then start else start + 1) length = some ⟨start, length⟩ := by
  cases length <;> rfl

theorem readRange?_rangeText (start length : Nat) (rest : List Char) :
    readRange? ((rangeText start length).toList ++ ' ' :: rest) = some (⟨start, length⟩, ' ' :: rest) := by
  have hblank : ∀ c, (' ' :: rest).head? = some c → c.isDigit = false := by
    intro c hc
    obtain rfl : ' ' = c := by simpa using hc
    decide
  have hrange := Range.ofLine?_eq start length
  rw [toList_rangeText, List.append_assoc, readRange?]
  generalize (if length = 0 then start else start + 1) = line at hrange
  by_cases hone : length = 1
  · subst hone
    rw [if_pos rfl, List.nil_append, readNumber?_repr line hblank]
    simp [hrange]
  · rw [if_neg hone, List.cons_append, readNumber?_repr line (by simp)]
    simp only [readNumber?_repr length hblank, hrange, Option.map_some]

/-- The line above the lines of a hunk. -/
def hunkHeader (h : Hunk String) : String :=
  s!"@@ -{rangeText h.oldStart h.oldLength} +{rangeText h.newStart h.newLength} @@"

theorem toList_hunkHeader (h : Hunk String) : (hunkHeader h).toList =
    '@' :: '@' :: ' ' :: '-' :: ((rangeText h.oldStart h.oldLength).toList ++ ' ' :: '+' ::
      ((rangeText h.newStart h.newLength).toList ++ [' ', '@', '@'])) := by
  change ("@@ -" ++ rangeText h.oldStart h.oldLength ++ " +" ++ rangeText h.newStart h.newLength ++ " @@").toList = _
  simp

theorem readHeader?_hunkHeader (h : Hunk String) :
    readHeader? (hunkHeader h) = some (⟨h.oldStart, h.oldLength⟩, ⟨h.newStart, h.newLength⟩) := by
  rw [readHeader?, toList_hunkHeader]
  simp only [readRange?_rangeText]

theorem read?_hunkHeader (h : Hunk String) : Edit.read? (hunkHeader h) = none := by
  rw [Edit.read?, toList_hunkHeader]
  rfl

/-- The edits that a run is written as. -/
def runEdits : Run String → List Edit
  | .same items => items.map .keep
  | .change old new => old.map .delete ++ new.map .insert

theorem runLines_eq (run : Run String) : runLines run = (runEdits run).map Edit.text := by
  cases run <;> simp [runLines, runEdits, Edit.text, Function.comp_def]

/-- The hunk as it is read back. -/
def Hunk.patch (h : Hunk String) : Patch := ⟨h.oldStart, h.newStart, h.runs.flatMap runEdits⟩

theorem hunkLines_eq (h : Hunk String) : hunkLines h = hunkHeader h :: h.patch.edits.map Edit.text := by
  have hbody : h.runs.flatMap runLines = (h.runs.flatMap runEdits).map Edit.text := by
    rw [List.map_flatMap]
    exact List.flatMap_congr fun run _ => runLines_eq run
  rw [hunkLines, hbody]
  rfl

section Sides

/-- What all edits of the runs say is what the runs hold. -/
theorem filterMap_runEdits (side : Edit → Option String) (of : Run String → List String)
    (h : ∀ run, (runEdits run).filterMap side = of run) (runs : List (Run String)) :
    (runs.flatMap runEdits).filterMap side = runs.flatMap of := by
  rw [List.filterMap_flatMap]
  exact List.flatMap_congr fun run _ => h run

/-- The same for what only changes say. -/
theorem filterMap_changeEdits (side : Edit → Option String) (of : Run String → List String)
    (hkeep : ∀ line, side (.keep line) = none)
    (hchange : ∀ before after, (runEdits (.change before after)).filterMap side = of (.change before after))
    (runs : List (Run String)) : (runs.flatMap runEdits).filterMap side = (runs.filter Run.isChange).flatMap of := by
  induction runs with
  | nil => rfl
  | cons run runs ih =>
    rw [List.flatMap_cons, List.filterMap_append, ih]
    cases run with
    | same items => simp [runEdits, hkeep, List.filterMap_map]
    | change before after => rw [hchange, List.filter_cons_of_pos rfl, List.flatMap_cons]

variable (h : Hunk String)

theorem oldStart_patch : h.patch.oldStart = h.oldStart := rfl

theorem newStart_patch : h.patch.newStart = h.newStart := rfl

theorem old_patch : h.patch.old = h.old := by
  refine filterMap_runEdits _ _ (fun run => ?_) h.runs
  cases run <;> simp [runEdits, Edit.old?, List.filterMap_map, Function.comp_def]

theorem new_patch : h.patch.new = h.new := by
  refine filterMap_runEdits _ _ (fun run => ?_) h.runs
  cases run <;> simp [runEdits, Edit.new?, List.filterMap_map, Function.comp_def]

theorem inserted_patch : h.patch.inserted = introduced h.runs := by
  refine filterMap_changeEdits _ _ (fun _ => rfl) (fun before after => ?_) h.runs
  simp [runEdits, Edit.inserted?, List.filterMap_map, Function.comp_def]

theorem deleted_patch : h.patch.deleted = dropped h.runs := by
  refine filterMap_changeEdits _ _ (fun _ => rfl) (fun before after => ?_) h.runs
  simp [runEdits, Edit.deleted?, List.filterMap_map, Function.comp_def]

end Sides

theorem ofHeader?_hunk (h : Hunk String) :
    Patch.ofHeader? (hunkHeader h) h.patch.edits = some h.patch := by
  have hold : h.oldLength = (h.patch.edits.filterMap Edit.old?).length := by
    rw [← h.length_old, ← old_patch]
    rfl
  have hnew : h.newLength = (h.patch.edits.filterMap Edit.new?).length := by
    rw [← h.length_new, ← new_patch]
    rfl
  rw [Patch.ofHeader?, readHeader?_hunkHeader]
  simp only [← hold, ← hnew, and_self, if_true]
  rfl

theorem readLines?_edits (edits : List Edit) {rest : List String} {later : List Edit} {patches : List Patch}
    (h : readLines? rest = some (later, patches)) :
    readLines? (edits.map Edit.text ++ rest) = some (edits ++ later, patches) := by
  induction edits with
  | nil => exact h
  | cons e edits ih =>
    rw [List.map_cons, List.cons_append, readLines?, ih]
    simp only [Edit.read?_text, List.cons_append]

theorem readLines?_hunk (h : Hunk String) {rest : List String} {patches : List Patch}
    (hrest : readLines? rest = some ([], patches)) :
    readLines? (hunkLines h ++ rest) = some ([], h.patch :: patches) := by
  rw [hunkLines_eq, List.cons_append, readLines?, readLines?_edits _ hrest]
  simp only [read?_hunkHeader, List.append_nil, ofHeader?_hunk, Option.map_some]

/-- The hunks of a diff are read back. -/
theorem readPatches?_hunks (hs : List (Hunk String)) :
    readPatches? (hs.flatMap hunkLines) = some (hs.map Hunk.patch) := by
  have hlines : readLines? (hs.flatMap hunkLines) = some ([], hs.map Hunk.patch) := by
    induction hs with
    | nil => rfl
    | cons h hs ih => exact readLines?_hunk h ih
  rw [readPatches?, hlines]

example : (readPatches? ["@@ -1,2 +1 @@", " a", "-b"]).bind (applyPatches · ["a", "b", "c"]) = some ["a", "c"] := by
  decide

/-! ## Applying -/

theorem applyFrom_splices {i j : Nat} {hs : List (Hunk String)} {old new : List String} (h : Splices i j hs old new) :
    applyFrom i j (hs.map Hunk.patch) old = some new := by
  induction h with
  | rest items => rfl
  | @hunk i j h hs old new gap hold hnew later ih =>
    have hgap : h.oldStart - i = gap.length := by omega
    have hfit : i ≤ h.oldStart ∧ h.newStart = j + gap.length ∧ gap.length ≤ (gap ++ h.old ++ old).length ∧
        h.old.isPrefixOf ((gap ++ h.old ++ old).drop gap.length) = true := by
      refine ⟨by omega, hnew, by simp, ?_⟩
      rw [List.append_assoc, List.drop_left, List.isPrefixOf_iff_prefix]
      exact List.prefix_append _ _
    have hrest : (gap ++ h.old ++ old).drop (gap.length + h.old.length) = old := by
      rw [← List.length_append, List.drop_left]
    have hfront : (gap ++ h.old ++ old).take gap.length = gap := by
      rw [List.append_assoc, List.take_left]
    simp only [List.map_cons, applyFrom, old_patch, new_patch, oldStart_patch, newStart_patch, hgap]
    rw [if_pos hfit, hrest, hfront, h.length_old, h.length_new, ih, Option.map_some]

/-! ## The lines of a diff -/

theorem unbroken_rangeText (start length : Nat) : Text.Unbroken (rangeText start length) := by
  unfold rangeText
  split
  · exact Text.unbroken_repr (start + 1)
  · split
    · exact (Text.unbroken_repr start).append (by decide)
    · exact ((Text.unbroken_repr (start + 1)).append (by decide)).append (Text.unbroken_repr length)

theorem unbroken_hunkHeader (h : Hunk String) : Text.Unbroken (hunkHeader h) := by
  have hold := unbroken_rangeText h.oldStart h.oldLength
  have hnew := unbroken_rangeText h.newStart h.newLength
  have hmark : Text.Unbroken "@@ -" := by decide
  exact (((hmark.append hold).append (by decide)).append hnew).append (by decide)

theorem unbroken_of_mem_runLines {run : Run String} (h : ∀ x, x ∈ run.old ∨ x ∈ run.new → Text.Unbroken x) :
    ∀ line ∈ runLines run, Text.Unbroken line := by
  have hmarked : ∀ mark : String, Text.Unbroken mark → ∀ x, x ∈ run.old ∨ x ∈ run.new → Text.Unbroken (mark ++ x) :=
    fun mark hmark x hx => hmark.append (h x hx)
  intro line hline
  cases run with
  | same items =>
    obtain ⟨x, hx, rfl⟩ := List.mem_map.1 hline
    exact hmarked " " (by decide) x (.inl hx)
  | change old new =>
    rcases List.mem_append.1 hline with hline | hline
    · obtain ⟨x, hx, rfl⟩ := List.mem_map.1 hline
      exact hmarked "-" (by decide) x (.inl hx)
    · obtain ⟨x, hx, rfl⟩ := List.mem_map.1 hline
      exact hmarked "+" (by decide) x (.inr hx)

theorem unbroken_of_mem_hunkLines {h : Hunk String} (hsides : ∀ x, x ∈ h.old ∨ x ∈ h.new → Text.Unbroken x) :
    ∀ line ∈ hunkLines h, Text.Unbroken line := by
  intro line hline
  rcases List.mem_cons.1 hline with rfl | hline
  · exact unbroken_hunkHeader h
  · obtain ⟨run, hrun, hline⟩ := List.mem_flatMap.1 hline
    refine unbroken_of_mem_runLines (fun x hx => hsides x ?_) line hline
    exact hx.imp (fun hx => List.mem_flatMap.2 ⟨run, hrun, hx⟩) fun hx => List.mem_flatMap.2 ⟨run, hrun, hx⟩

/-- The lines of a diff are not broken on their way through its text. -/
theorem lines_unified {file : String} (hfile : Text.Unbroken file) (old new : String) :
    Text.lines (unified file old new) = unifiedLines file (Text.lines old) (Text.lines new) := by
  refine Text.lines_join fun line hline => ?_
  rw [unifiedLines_eq] at hline
  rcases List.mem_append.1 hline with hline | hline
  · have hsource : Text.Unbroken ("--- a/" ++ file) := Text.Unbroken.append (by decide) hfile
    have htarget : Text.Unbroken ("+++ b/" ++ file) := Text.Unbroken.append (by decide) hfile
    split at hline
    · cases hline
    · simp only [List.mem_cons, List.not_mem_nil, or_false] at hline
      rcases hline with rfl | rfl
      · exact hsource
      · exact htarget
  · obtain ⟨h, hh, hline⟩ := List.mem_flatMap.1 hline
    refine unbroken_of_mem_hunkLines (fun x hx => ?_) line hline
    rcases (diffHunks_splices _ _).mem hh hx with hx | hx
    · exact Text.unbroken_of_mem_lines hx
    · exact Text.unbroken_of_mem_lines hx

/-! ## A diff is a patch -/

/-- The hunks that are read off the text of a diff are those it was made from. -/
theorem readPatches?_unified {file : String} (hfile : Text.Unbroken file) (old new : String) :
    readPatches? ((Text.lines (unified file old new)).drop 2) =
      some ((diffHunks (Text.lines old) (Text.lines new)).map Hunk.patch) := by
  rw [lines_unified hfile, unifiedLines_eq, ← readPatches?_hunks]
  cases diffHunks (Text.lines old) (Text.lines new) <;> rfl

theorem flatMap_inserted_patch (old new : List String) :
    ((diffHunks old new).map Hunk.patch).flatMap Patch.inserted = introduced (diffScript old new) := by
  rw [introduced, ← changes_diffHunks, List.flatMap_assoc, List.flatMap_map]
  exact List.flatMap_congr fun h _ => inserted_patch h

theorem flatMap_deleted_patch (old new : List String) :
    ((diffHunks old new).map Hunk.patch).flatMap Patch.deleted = dropped (diffScript old new) := by
  rw [dropped, ← changes_diffHunks, List.flatMap_assoc, List.flatMap_map]
  exact List.flatMap_congr fun h _ => deleted_patch h

/-- For all texts and every name of a file, a diff with lines is a header and hunks, and
these turn the lines of the old text into those of the new one. A diff without lines
means that the lines are the same. -/
theorem unified_patches (file : String) (hfile : Text.Unbroken file) (old new : String) :
    (unified file old new ≠ "" → ∃ body patches,
      Text.lines (unified file old new) = ("--- a/" ++ file) :: ("+++ b/" ++ file) :: body ∧
      readPatches? body = some patches ∧ patches ≠ [] ∧
      applyPatches patches (Text.lines old) = some (Text.lines new)) ∧
    (unified file old new = "" → Text.lines old = Text.lines new) := by
  refine ⟨fun hdiff => ?_, (unified_eq_empty_iff file old new).1⟩
  rw [Ne, unified_eq_empty_iff] at hdiff
  have hhunks : diffHunks (Text.lines old) (Text.lines new) ≠ [] := mt eq_of_diffHunks_eq_nil hdiff
  refine ⟨_, _, ?_, readPatches?_hunks (diffHunks (Text.lines old) (Text.lines new)), by simpa using hhunks,
    applyFrom_splices (diffHunks_splices _ _)⟩
  rw [lines_unified hfile, unifiedLines_eq, if_neg (by simpa using hhunks)]
  rfl

theorem unified_patches_separators :
    Text.Unbroken "main" ∧ unified "main" "a\r\nb\u2028c" "a\nc\u0085d" ≠ "" ∧
    ∃ body patches,
      Text.lines (unified "main" "a\r\nb\u2028c" "a\nc\u0085d") = "--- a/main" :: "+++ b/main" :: body ∧
      readPatches? body = some patches ∧ patches ≠ [] ∧ applyPatches patches ["a", "b", "c"] = some ["a", "c", "d"] := by
  have hfile : Text.Unbroken "main" := by decide
  have hold : Text.lines "a\r\nb\u2028c" = ["a", "b", "c"] := by decide
  have hnew : Text.lines "a\nc\u0085d" = ["a", "c", "d"] := by decide
  have hdiff : unified "main" "a\r\nb\u2028c" "a\nc\u0085d" ≠ "" := by
    rw [Ne, unified_eq_empty_iff, hold, hnew]
    decide
  have hpatches := (unified_patches "main" hfile "a\r\nb\u2028c" "a\nc\u0085d").1 hdiff
  rw [hold, hnew] at hpatches
  exact ⟨hfile, hdiff, hpatches⟩

end RefactorAudit.LineDiff
