import Mathlib.Tactic.TFAE
import RefactorAudit.Proofs.Impact.Score
import RefactorAudit.Proofs.LineDiff.Anchors
import RefactorAudit.Proofs.LineDiff.Patch
import RefactorAudit.Proofs.Refactoring.Imports

/-!
# What a diff says about lines

A diff tells about lines three times: in the counts, in the text of the file, and in the
lines that are read off that text. All three agree on whether anything changed. The lines
that are read off are those that the text inserts, but for lines that look like a header
(`FileChange.addedLines_eq`); the name of the file is not among them, so neither the
techniques nor the score depend on it. How many they are can differ from the counts, since
in the text no match starts from a line that is frequent in a long file.
-/

namespace RefactorAudit

open LineDiff Scalar

/-! ## Lines read off a text -/

/-- With a plus sign in front, the line looks like the header of a diff. -/
def looksLikeHeader (line : String) : Bool := "++".toList.isPrefixOf line.toList

theorem introducedLine?_text (e : Edit) :
    introducedLine? e.text = e.inserted?.filter fun line => !looksLikeHeader line := by
  cases e with
  | keep line => simp [introducedLine?, Edit.text, Edit.inserted?]
  | delete line => simp [introducedLine?, Edit.text, Edit.inserted?]
  | insert line =>
    have hlist : (Edit.insert line).text.toList = '+' :: line.toList := by simp [Edit.text]
    rw [introducedLine?, hlist, Edit.inserted?, Option.filter_some]
    -- the three cases of the reader; the last one is for lines without a plus sign
    split
    · next rest h =>
      have hlooks : looksLikeHeader line = true := by rw [looksLikeHeader, List.tail_eq_of_cons_eq h]; rfl
      simp [hlooks]
    · next rest hnot h =>
      obtain rfl : line.toList = rest := List.tail_eq_of_cons_eq h
      have hlooks : looksLikeHeader line = false := by
        rw [Bool.eq_false_iff, looksLikeHeader, Ne, List.isPrefixOf_iff_prefix]
        rintro ⟨tail, htail⟩
        exact hnot tail htail.symm
      simp [hlooks]
    · next hnot => exact absurd rfl (hnot line.toList)

theorem filterMap_hunkLines (h : Hunk String) :
    (hunkLines h).filterMap introducedLine? = h.patch.inserted.filter fun line => !looksLikeHeader line := by
  have hheader : introducedLine? (hunkHeader h) = none := by
    rw [introducedLine?, toList_hunkHeader]
    rfl
  rw [hunkLines_eq, List.filterMap_cons_none hheader, List.filterMap_map, Patch.inserted, List.filter_filterMap]
  exact List.filterMap_congr fun e _ => introducedLine?_text e

theorem filterMap_unifiedLines (file : String) (old new : List String) :
    (unifiedLines file old new).filterMap introducedLine? =
      (introduced (diffScript old new)).filter fun line => !looksLikeHeader line := by
  have hheader : (if (diffHunks old new).isEmpty then [] else ["--- a/" ++ file, "+++ b/" ++ file]).filterMap
      introducedLine? = [] := by
    split
    · rfl
    · simp [introducedLine?]
  have hhunks : ((diffHunks old new).flatMap hunkLines).filterMap introducedLine? =
      (((diffHunks old new).map Hunk.patch).flatMap Patch.inserted).filter fun line => !looksLikeHeader line := by
    rw [List.filterMap_flatMap, List.flatMap_map, List.filter_flatMap]
    exact List.flatMap_congr fun h _ => filterMap_hunkLines h
  rw [unifiedLines_eq, List.filterMap_append, hheader, List.nil_append, hhunks, flatMap_inserted_patch]

/-- The lines read off a diff are those it brings in, but for any that look like a header. -/
theorem FileChange.addedLines_eq {f : FileChange} {path old new : String} (hpath : Text.Unbroken path)
    (h : f.textDiff = unified path old new) :
    f.addedLines = (introduced (diffScript (Text.lines old) (Text.lines new))).filter
      fun line => !looksLikeHeader line := by
  rw [addedLines, h, lines_unified hpath, filterMap_unifiedLines]

/-! ## The file of a diff -/

namespace Diff

variable {path : String} {legacy refactored : SyntaxTree} {pairs : NodePairs} {d : Diff} {f : FileChange}

/-- What the change of a file says about lines. -/
structure TellsLines (path : String) (legacy refactored : SyntaxTree) (d : Diff) (f : FileChange) : Prop where
  files : d.files = [f]
  textDiff : f.textDiff = unified path legacy.source refactored.source
  linesAdded : f.linesAdded = (lineCounts legacy.source refactored.source).added
  linesRemoved : f.linesRemoved = (lineCounts legacy.source refactored.source).removed
  overallAdded : d.overall.linesAdded = f.linesAdded
  overallRemoved : d.overall.linesRemoved = f.linesRemoved

theorem Computed.tellsLines (h : Computed path legacy refactored pairs d) :
    ∃ f, TellsLines path legacy refactored d f :=
  ⟨_, h.files, rfl, rfl, rfl, by rw [h.overall], by rw [h.overall]⟩

theorem TellsLines.addedLines_sublist (h : TellsLines path legacy refactored d f) (hpath : Text.Unbroken path) :
    f.addedLines.Sublist (Text.lines refactored.source) := by
  rw [FileChange.addedLines_eq hpath h.textDiff]
  exact List.filter_sublist.trans (introduced_diffScript_sublist _ _)

theorem TellsLines.lineCounts_eq_zero_iff (h : TellsLines path legacy refactored d f) :
    f.linesAdded = 0 ∧ f.linesRemoved = 0 ↔ Text.lines legacy.source = Text.lines refactored.source := by
  rw [← LineDiff.lineCounts_eq_zero_iff, h.linesAdded, h.linesRemoved, Int.natCast_eq_zero, Int.natCast_eq_zero]
  cases lineCounts legacy.source refactored.source
  simp

end Diff

/-! ## No change -/

section NoChange

variable {α : Type} [Scalar α]

/-- The text of a diff and the counts agree on whether the lines of two texts are the
same, though they come from different matchers. So do, in every diff of two trees, the
text, the number of modified files and the counts of the file and of the whole. -/
theorem no_line_changed_tfae :
    (∀ file old new : String,
      [unified file old new = "", lineCounts old new = ⟨0, 0⟩, Text.lines old = Text.lines new].TFAE) ∧
    ∀ (path : String) (legacy refactored : SyntaxTree) (pairs : NodePairs),
      Diff.PairsWithin legacy refactored pairs →
      ∃ d f, Diff.compute path legacy refactored pairs = .ok d ∧ d.files = [f] ∧
        ∀ tags : List (Tag α),
          [f.textDiff = "",
            (Impact.metrics d tags).filesModified = 0,
            f.linesAdded = 0 ∧ f.linesRemoved = 0,
            d.overall.linesAdded = 0 ∧ d.overall.linesRemoved = 0,
            Text.lines legacy.source = Text.lines refactored.source].TFAE := by
  constructor
  · intro file old new
    tfae_have 1 ↔ 3 := unified_eq_empty_iff file old new
    tfae_have 2 ↔ 3 := lineCounts_eq_zero_iff old new
    tfae_finish
  · intro path legacy refactored pairs hpairs
    obtain ⟨d, hd⟩ := Diff.compute_total path hpairs
    obtain ⟨f, hf⟩ := (Diff.compute_eq_ok_iff.1 hd).tellsLines
    refine ⟨d, f, hd, hf.files, fun tags => ?_⟩
    tfae_have 1 ↔ 5 := by rw [hf.textDiff, unified_eq_empty_iff]
    tfae_have 2 ↔ 1 := by simp [Impact.metrics, hf.files]
    tfae_have 3 ↔ 5 := hf.lineCounts_eq_zero_iff
    tfae_have 4 ↔ 3 := by rw [hf.overallAdded, hf.overallRemoved]
    tfae_finish

/-- A tree with nothing but a root. -/
def bareRoot (source : String) : SyntaxTree :=
  .ofNodes "javascript" source [⟨0, "program", source, ⟨⟨0, 0⟩, ⟨0, 0⟩⟩, ⟨none, [], []⟩, none, []⟩]

theorem pairsWithin_roots (old new : String) : Diff.PairsWithin (bareRoot old) (bareRoot new) roots := by
  simp [Diff.PairsWithin, SyntaxTree.size, bareRoot, SyntaxTree.ofNodes, roots]

theorem no_line_changed_tfae_line_ends :
    Diff.PairsWithin (bareRoot "f();\r\ng();") (bareRoot "f();\ng();\n") roots ∧
    ∃ d f, Diff.compute "main.js" (bareRoot "f();\r\ng();") (bareRoot "f();\ng();\n") roots = .ok d ∧ d.files = [f] ∧
      f.textDiff = "" ∧ (Impact.metrics d ([] : List (Tag ℚ))).filesModified = 0 ∧
      (d.overall.linesAdded = 0 ∧ d.overall.linesRemoved = 0) := by
  have hpairs := pairsWithin_roots "f();\r\ng();" "f();\ng();\n"
  have hlines : Text.lines "f();\r\ng();" = Text.lines "f();\ng();\n" := by decide
  obtain ⟨d, f, hd, hf, htfae⟩ := (no_line_changed_tfae (α := ℚ)).2 "main.js" _ _ _ hpairs
  refine ⟨hpairs, d, f, hd, hf, ?_, ?_, ?_⟩
  · exact ((htfae []).out 0 4).2 hlines
  · exact ((htfae []).out 1 4).2 hlines
  · exact ((htfae []).out 3 4).2 hlines

end NoChange

/-! ## The name of the file -/

section Paths

/-- Two changes of a file that say the same, but for the names in the text. -/
structure FileChange.SaysSame (f g : FileChange) : Prop where
  addedLines : f.addedLines = g.addedLines
  summary : f.summary = g.summary
  linesModified : f.linesModified = g.linesModified
  textDiff : f.textDiff = "" ↔ g.textDiff = ""

/-- Two diffs that say the same, but for the names of files. -/
structure Diff.SaysSame (d e : Diff) : Prop where
  added : d.added = e.added
  removed : d.removed = e.removed
  modified : d.modified = e.modified
  overall : d.overall = e.overall
  files : List.Forall₂ FileChange.SaysSame d.files e.files

theorem Diff.SaysSame.map_files {d e : Diff} (h : d.SaysSame e) {β : Type} {read : FileChange → β}
    (hread : ∀ {f g : FileChange}, f.SaysSame g → read f = read g) : d.files.map read = e.files.map read := by
  rw [← List.forall₂_eq_eq_eq, List.forall₂_map_left_iff, List.forall₂_map_right_iff]
  exact h.files.imp fun _ _ hfg => hread hfg

variable {α : Type} [Scalar α] {d e : Diff}

theorem FileChange.SaysSame.detectFile_eq {f g : FileChange} (h : f.SaysSame g) (registry : Registry) :
    (detectFile registry f : List (Detection α)) = detectFile registry g := by
  have htext : f.addedText = g.addedText := by rw [addedText, addedText, h.addedLines]
  have himports : f.mentionsImports = g.mentionsImports := by rw [mentionsImports, mentionsImports, h.summary]
  rw [detectFile, detectFile, htext, himports]

theorem Diff.SaysSame.classify_eq (h : d.SaysSame e) (registry : Registry) :
    (classify registry d : Except (TagError α) (List (Tag α))) = classify registry e := by
  have hfiles : (d.files.flatMap (detectFile registry) : List (Detection α)) = e.files.flatMap (detectFile registry) := by
    rw [List.flatMap_def, List.flatMap_def, h.map_files fun hfg => hfg.detectFile_eq registry]
  rw [classify, classify, detectAll, detectAll, h.added, h.removed, h.modified, hfiles]

theorem Diff.SaysSame.metrics_eq (h : d.SaysSame e) (tags : List (Tag α)) :
    Impact.metrics d tags = Impact.metrics e tags := by
  have hmodified : d.files.map (·.linesModified) = e.files.map (·.linesModified) :=
    h.map_files fun hfg => hfg.linesModified
  have hcount : d.files.countP (·.textDiff != "") = e.files.countP (·.textDiff != "") := by
    have hflags : d.files.map (·.textDiff != "") = e.files.map (·.textDiff != "") :=
      h.map_files fun hfg => by
        rw [Bool.eq_iff_iff, bne_iff_ne, bne_iff_ne]
        exact not_congr hfg.textDiff
    have hcounts := congrArg (List.countP id) hflags
    rwa [List.countP_map, List.countP_map] at hcounts
  simp only [Impact.metrics, h.added, h.removed, h.overall, hmodified, hcount]

theorem Diff.SaysSame.score_eq [HasExp α] (h : d.SaysSame e) (weights : Impact.Weights α) (tags : List (Tag α))
    (language : Option String) : Impact.score weights d tags language = Impact.score weights e tags language := by
  rw [Impact.score, Impact.score, h.metrics_eq, h.overall]

theorem Diff.Computed.saysSame {p q : String} (hp : Text.Unbroken p) (hq : Text.Unbroken q)
    {legacy refactored : SyntaxTree} {pairs : NodePairs} (hd : Computed p legacy refactored pairs d)
    (he : Computed q legacy refactored pairs e) : d.SaysSame e := by
  have hadded : d.added = e.added := hd.added.trans he.added.symm
  have hremoved : d.removed = e.removed := hd.removed.trans he.removed.symm
  have hmodified : d.modified = e.modified := Except.ok.inj (hd.modified.symm.trans he.modified)
  refine ⟨hadded, hremoved, hmodified, ?_, ?_⟩
  · rw [hd.overall, he.overall, hadded, hremoved, hmodified]
  · rw [hd.files, he.files, hadded, hremoved, hmodified]
    refine .cons ⟨?_, rfl, rfl, ?_⟩ .nil
    · rw [FileChange.addedLines_eq hp rfl, FileChange.addedLines_eq hq rfl]
    · rw [unified_eq_empty_iff, unified_eq_empty_iff]

/-- For all pairs within two trees and every name of the file, the lines read off the diff
are lines of the refactored source, in order. Under another name the same rules find the
same techniques, and the report on them is the same; with the standard rules and
weights there are techniques and a report. -/
theorem detection_ignores_path [HasExp α] (p q : String) (hp : Text.Unbroken p) (hq : Text.Unbroken q)
    (legacy refactored : SyntaxTree) (pairs : NodePairs) (hpairs : Diff.PairsWithin legacy refactored pairs) :
    ∃ d e f, Diff.compute p legacy refactored pairs = .ok d ∧ Diff.compute q legacy refactored pairs = .ok e ∧
      d.files = [f] ∧ f.addedLines.Sublist (Text.lines refactored.source) ∧
      (∀ registry, (classify registry d : Except (TagError α) (List (Tag α))) = classify registry e) ∧
      (∀ (weights : Impact.Weights α) (tags : List (Tag α)) (language : Option String),
        Impact.score weights d tags language = Impact.score weights e tags language) ∧
      ∀ [Exact α], Impact.ExpUpToTwo (fun _ : α => True) →
        ∀ language, ∃ (tags : List (Tag α)) (report : Impact.Report α),
          classify .standard d = .ok tags ∧ Impact.score Impact.standardWeights d tags language = .ok report := by
  obtain ⟨d, hd⟩ := Diff.compute_total p hpairs
  obtain ⟨e, he⟩ := Diff.compute_total q hpairs
  have hcomputed := Diff.compute_eq_ok_iff.1 hd
  have hsame : d.SaysSame e := hcomputed.saysSame hp hq (Diff.compute_eq_ok_iff.1 he)
  obtain ⟨f, hf⟩ := hcomputed.tellsLines
  refine ⟨d, e, f, hd, he, hf.files, hf.addedLines_sublist hp, hsame.classify_eq, hsame.score_eq, ?_⟩
  intro _ hexp language
  obtain ⟨tags, htags⟩ := classify_total (α := α) Registry.standard_inRange d
  obtain ⟨report, hreport⟩ := Impact.score_total hexp hcomputed tags language
  exact ⟨tags, report, htags, hreport⟩

section RealNumbers

attribute [local instance] realScalar realExact Impact.realExp

theorem detection_ignores_path_renamed :
    Text.Unbroken "main.java" ∧ Text.Unbroken "import async.java" ∧
    Diff.PairsWithin (Impact.loneMethod "f") (Impact.loneMethod "g") roots ∧
    ∃ d e f, Diff.compute "main.java" (Impact.loneMethod "f") (Impact.loneMethod "g") roots = .ok d ∧
      Diff.compute "import async.java" (Impact.loneMethod "f") (Impact.loneMethod "g") roots = .ok e ∧
      d.files = [f] ∧ f.addedLines.Sublist ["g(){}"] ∧
      ∃ (tags : List (Tag ℝ)) (report : Impact.Report ℝ),
        classify .standard d = .ok tags ∧ classify .standard e = .ok tags ∧
        Impact.score Impact.standardWeights d tags (some "java") = .ok report ∧
        Impact.score Impact.standardWeights e tags (some "java") = .ok report := by
  have hp : Text.Unbroken "main.java" := by decide
  have hq : Text.Unbroken "import async.java" := by decide
  have hpairs : Diff.PairsWithin (Impact.loneMethod "f") (Impact.loneMethod "g") roots := by
    simp [Diff.PairsWithin, SyntaxTree.size, Impact.loneMethod, SyntaxTree.ofNodes, roots]
  have hlines : Text.lines (Impact.loneMethod "g").source = ["g(){}"] := by decide
  have hexp : Impact.ExpUpToTwo (fun _ : ℝ => True) := fun x _ => ⟨Real.exp x, rfl, trivial⟩
  obtain ⟨d, e, f, hd, he, hf, hsublist, htags, hscore, htotal⟩ :=
    detection_ignores_path (α := ℝ) "main.java" "import async.java" hp hq _ _ _ hpairs
  obtain ⟨tags, report, hfound, hreport⟩ := htotal hexp (some "java")
  refine ⟨hp, hq, hpairs, d, e, f, hd, he, hf, hlines ▸ hsublist, tags, report, hfound, ?_, hreport, ?_⟩
  · rw [← htags, hfound]
  · rw [← hscore, hreport]

end RealNumbers

end Paths

/-! ## Counts -/

section Counts

/-- Both matchers see the same net change. -/
theorem Diff.TellsLines.length_balance {path : String} {legacy refactored : SyntaxTree} {d : Diff} {f : FileChange}
    (h : TellsLines path legacy refactored d f) :
    ((introduced (diffScript (Text.lines legacy.source) (Text.lines refactored.source))).length : Int) + f.linesRemoved =
      f.linesAdded + (dropped (diffScript (Text.lines legacy.source) (Text.lines refactored.source))).length := by
  have htext := addedCount_balance (diffScript (Text.lines legacy.source) (Text.lines refactored.source))
  have hcounts := addedCount_balance (script anyAnchor (Text.lines legacy.source) (Text.lines refactored.source))
  rw [diffScript, script_old, script_new] at htext
  rw [script_old, script_new] at hcounts
  rw [length_introduced, length_dropped, h.linesAdded, h.linesRemoved, lineCounts, diffScript]
  dsimp only
  omega

/-- For all pairs within two trees and every name of the file, the text of the diff can be
read. As long as no line that it inserts starts with two plus signs, the lines read off are
all those lines, and together with the lines it deletes they make the net change that is
counted. If no legacy line is frequent in the refactored source, they are as many as the
lines that are counted as added. -/
theorem addedLines_eq_inserted (path : String) (hpath : Text.Unbroken path) (legacy refactored : SyntaxTree)
    (pairs : NodePairs) (hpairs : Diff.PairsWithin legacy refactored pairs) :
    ∃ d f patches, Diff.compute path legacy refactored pairs = .ok d ∧ d.files = [f] ∧
      readPatches? ((Text.lines f.textDiff).drop 2) = some patches ∧
      ((∀ line ∈ patches.flatMap Patch.inserted, ¬"++".toList <+: line.toList) →
        f.addedLines = patches.flatMap Patch.inserted ∧
        (f.addedLines.length : Int) + f.linesRemoved = f.linesAdded + (patches.flatMap Patch.deleted).length ∧
        ((∀ line ∈ Text.lines legacy.source, line ∉ popular (Text.lines refactored.source)) →
          (f.addedLines.length : Int) = f.linesAdded)) := by
  obtain ⟨d, hd⟩ := Diff.compute_total path hpairs
  obtain ⟨f, hf⟩ := (Diff.compute_eq_ok_iff.1 hd).tellsLines
  refine ⟨d, f, _, hd, hf.files, by rw [hf.textDiff, readPatches?_unified hpath], ?_⟩
  rw [flatMap_inserted_patch, flatMap_deleted_patch]
  intro hplain
  have hadded : f.addedLines = introduced (diffScript (Text.lines legacy.source) (Text.lines refactored.source)) := by
    rw [FileChange.addedLines_eq hpath hf.textDiff, List.filter_eq_self]
    intro line hline
    rw [Bool.not_eq_true', Bool.eq_false_iff, looksLikeHeader, Ne, List.isPrefixOf_iff_prefix]
    exact hplain line hline
  refine ⟨hadded, hadded ▸ hf.length_balance, fun hrare => ?_⟩
  rw [hadded, diffScript_eq hrare, length_introduced, hf.linesAdded]
  rfl

theorem addedLines_eq_inserted_markup :
    Text.Unbroken "main.js" ∧ Diff.PairsWithin (bareRoot "a\n") (bareRoot "a\n+b\n-c\n@@ -1 +1 @@\n") roots ∧
    ∃ d f patches, Diff.compute "main.js" (bareRoot "a\n") (bareRoot "a\n+b\n-c\n@@ -1 +1 @@\n") roots = .ok d ∧
      d.files = [f] ∧ readPatches? ((Text.lines f.textDiff).drop 2) = some patches ∧
      (∀ line ∈ patches.flatMap Patch.inserted, ¬"++".toList <+: line.toList) ∧
      f.addedLines = patches.flatMap Patch.inserted ∧ (f.addedLines.length : Int) = f.linesAdded := by
  have hpath : Text.Unbroken "main.js" := by decide
  have hpairs := pairsWithin_roots "a\n" "a\n+b\n-c\n@@ -1 +1 @@\n"
  have hnew : Text.lines (bareRoot "a\n+b\n-c\n@@ -1 +1 @@\n").source = ["a", "+b", "-c", "@@ -1 +1 @@"] := by decide
  obtain ⟨d, f, patches, hd, hf, hread, hspec⟩ := addedLines_eq_inserted "main.js" hpath _ _ _ hpairs
  obtain ⟨g, hg⟩ := (Diff.compute_eq_ok_iff.1 hd).tellsLines
  obtain rfl : f = g := List.singleton_injective (hf.symm.trans hg.files)
  have hpatches := readPatches?_unified hpath "a\n" "a\n+b\n-c\n@@ -1 +1 @@\n"
  have hplain : ∀ line ∈ patches.flatMap Patch.inserted, ¬"++".toList <+: line.toList := by
    rw [hg.textDiff] at hread
    rw [← Option.some.inj (hpatches.symm.trans hread), flatMap_inserted_patch]
    intro line hline
    have hmem := (introduced_diffScript_sublist _ _).subset hline
    have hnone : ∀ x ∈ ["a", "+b", "-c", "@@ -1 +1 @@"], ¬"++".toList <+: x.toList := by decide
    exact hnone line (hnew ▸ hmem)
  obtain ⟨hadded, -, hcount⟩ := hspec hplain
  refine ⟨hpath, hpairs, d, f, patches, hd, hf, hread, hplain, hadded, hcount ?_⟩
  intro line _ hpopular
  rw [mem_popular, hnew] at hpopular
  exact absurd hpopular.1 (by decide)

/-- Text with a line end after each line. -/
def ofLines (lines : List String) : String := String.join (lines.map (· ++ "\n"))

/-- A long file in which nearly all lines are the same. -/
def emptyStatements : List String := "a" :: List.replicate 199 ";"

theorem lines_ofLines_emptyStatements : Text.lines (ofLines emptyStatements) = emptyStatements := by
  refine Text.lines_join fun line hline => ?_
  rcases List.mem_cons.1 hline with rfl | hline
  · decide
  · rw [List.eq_of_mem_replicate hline]
    decide

theorem diffScript_emptyStatements : diffScript [";"] emptyStatements = [.change [";"] emptyStatements] := by
  have hpopular : ";" ∈ popular emptyStatements := by
    rw [mem_popular]
    decide +kernel
  have hanchor : ∀ line ∈ [";"], rareAnchor (popular emptyStatements) line = false := by
    simpa [rareAnchor] using hpopular
  have hnone : (longest (rareAnchor (popular emptyStatements)) [";"] emptyStatements).size = 0 := by
    rw [longest_of_no_anchor hanchor]
    rfl
  rw [diffScript, script, pieces_of_no_common hnone]
  rfl

theorem script_emptyStatements : script anyAnchor [";"] emptyStatements =
    [.change [] ["a"], .same [";"], .change [] (List.replicate 198 ";")] := by
  -- the first empty statement is matched, with nothing of the old text before or after it
  have hlongest : longest anyAnchor [";"] emptyStatements = ⟨0, 1, 1⟩ := by decide +kernel
  rw [script, pieces_of_common (by rw [hlongest]; decide), hlongest]
  simp only [List.take_zero, Nat.zero_add, List.drop_succ_cons, List.drop_nil, pieces_nil_left]
  rfl

/-- The counts see that the empty statement stayed; the text replaces it, as it is frequent. -/
theorem addedLines_length_ne_linesAdded :
    Text.Unbroken "main.js" ∧ Diff.PairsWithin (bareRoot ";\n") (bareRoot (ofLines emptyStatements)) roots ∧
    ∃ d f, Diff.compute "main.js" (bareRoot ";\n") (bareRoot (ofLines emptyStatements)) roots = .ok d ∧ d.files = [f] ∧
      f.linesAdded = 199 ∧ f.addedLines.length = 200 := by
  have hpath : Text.Unbroken "main.js" := by decide
  have hpairs := pairsWithin_roots ";\n" (ofLines emptyStatements)
  obtain ⟨d, hd⟩ := Diff.compute_total "main.js" hpairs
  obtain ⟨f, hf⟩ := (Diff.compute_eq_ok_iff.1 hd).tellsLines
  have hold : Text.lines (bareRoot ";\n").source = [";"] := by decide
  have hnew : Text.lines (bareRoot (ofLines emptyStatements)).source = emptyStatements := lines_ofLines_emptyStatements
  refine ⟨hpath, hpairs, d, f, hd, hf.files, ?_, ?_⟩
  · rw [hf.linesAdded, lineCounts, hold, hnew, script_emptyStatements]
    decide +kernel
  · rw [FileChange.addedLines_eq hpath hf.textDiff, hold, hnew, diffScript_emptyStatements]
    decide +kernel

end Counts

end RefactorAudit
