import RefactorAudit.Proofs.Refactoring.Classify
import RefactorAudit.Proofs.Refactoring.Merge

/-!
# Renamed symbols

Whether a pair was renamed is read off the reasons of its change, and a reason is a
text that may quote any kind and any name. Only what stands before the first colon
counts, though (`Reason.isAboutName_iff`), and there no kind and no name is quoted. So the
texts say exactly what they should: a modified pair is a rename if and only if its
nodes have different names (`isRenamed_iff`). No other rule finds a rename
(`ofTechnique_renameSymbol`).
-/

namespace RefactorAudit

open Scalar

/-! ## What a reason is about -/

namespace Reason

/-- The label of a reason is its text up to the first colon, or all of its text. -/
def HasLabel (r : Reason) (label : String) : Prop :=
  ':' ∉ label.toList ∧ (r.text = label ∨ ∃ rest, r.text = label ++ ":" ++ rest)

theorem subject_eq_takeWhile (r : Reason) :
    r.subject = Text.lower (String.ofList (r.text.toList.takeWhile (· != ':'))) := by
  unfold subject Text.splitFirst
  split <;> rfl

theorem HasLabel.subject_eq {r : Reason} {label : String} (h : r.HasLabel label) : r.subject = Text.lower label := by
  have hlabel : ∀ c ∈ label.toList, (c != ':') = true := by
    intro c hc
    simpa using fun heq : c = ':' => h.1 (heq ▸ hc)
  have hcolon : ":".toList = [':'] := rfl
  rw [subject_eq_takeWhile]
  rcases h.2 with htext | ⟨rest, htext⟩
  · rw [htext, List.takeWhile_eq_self_iff.2 hlabel, String.ofList_toList]
  · rw [htext, String.toList_append, String.toList_append, hcolon, List.append_assoc,
      List.takeWhile_append_of_pos hlabel, List.singleton_append, List.takeWhile_cons_of_neg (by decide), List.append_nil,
      String.ofList_toList]

theorem exists_hasLabel (r : Reason) : ∃ label, r.HasLabel label := by
  have hsplit := List.takeWhile_append_dropWhile (p := (· != ':')) (l := r.text.toList)
  refine ⟨String.ofList (r.text.toList.takeWhile (· != ':')), ?_, ?_⟩
  · intro hmem
    rw [String.toList_ofList] at hmem
    simpa using List.mem_takeWhile_imp hmem
  · cases hrest : r.text.toList.dropWhile (· != ':') with
    | nil =>
      rw [hrest, List.append_nil] at hsplit
      rw [hsplit, String.ofList_toList]
      exact .inl rfl
    | cons c rest =>
      -- what stops the label can only be a colon
      have hcolon := List.head?_dropWhile_not (· != ':') r.text.toList
      rw [hrest] at hcolon hsplit
      obtain rfl : c = ':' := by simpa using hcolon
      refine .inr ⟨String.ofList rest, ?_⟩
      simp only [← String.toList_inj, String.toList_append, String.toList_ofList, List.append_assoc]
      exact hsplit.symm

/-- The reason is about a name, by its text. -/
def isAboutName (r : Reason) : Bool := Text.occursIn "name" r.subject || Text.occursIn "identifier" r.subject

theorem isAboutName_iff {r : Reason} : r.isAboutName = true ↔
    ∃ label, r.HasLabel label ∧
      (Text.occursIn "name" (Text.lower label) = true ∨ Text.occursIn "identifier" (Text.lower label) = true) := by
  rw [isAboutName, Bool.or_eq_true]
  constructor
  · intro hname
    obtain ⟨label, hlabel⟩ := r.exists_hasLabel
    rw [hlabel.subject_eq] at hname
    exact ⟨label, hlabel, hname⟩
  · rintro ⟨label, hlabel, hname⟩
    rwa [hlabel.subject_eq]

theorem hasLabel_kind (old new : String) : (Reason.kind old new).HasLabel "Type changed" := by
  refine ⟨by decide, .inr ⟨" " ++ old ++ " -> " ++ new, ?_⟩⟩
  change "Type changed: " ++ old ++ " -> " ++ new = _
  simp only [← String.toList_inj, String.toList_append]
  rfl

theorem hasLabel_name (old new : Option String) : (Reason.name old new).HasLabel "Name changed" := by
  refine ⟨by decide, .inr ⟨" " ++ mention old ++ " -> " ++ mention new, ?_⟩⟩
  change "Name changed: " ++ mention old ++ " -> " ++ mention new = _
  simp only [← String.toList_inj, String.toList_append]
  rfl

theorem isAboutName_kind (old new : String) : (Reason.kind old new).isAboutName = false := by
  rw [isAboutName, (hasLabel_kind old new).subject_eq]
  decide +kernel

theorem isAboutName_name (old new : Option String) : (Reason.name old new).isAboutName = true := by
  rw [isAboutName, (hasLabel_name old new).subject_eq]
  decide +kernel

end Reason

/-- The texts of the reasons tell a rename, whatever kinds and names they quote. -/
theorem isRenamed_iff (old new : Node) :
    (⟨old, new, nodeChanges old new⟩ : ModifiedNode).isRenamed = true ↔ old.metadata.name ≠ new.metadata.name := by
  have hcontent : Reason.content.isAboutName = false := by decide +kernel
  have hparameters : Reason.parameters.isAboutName = false := by decide +kernel
  have himports : Reason.imports.isAboutName = false := by decide +kernel
  have hunless : ∀ (same : Prop) [Decidable same] (r : Reason),
      (if same then [] else [r]).any Reason.isAboutName = (!decide same && r.isAboutName) := by
    intro same _ r
    by_cases hsame : same <;> simp [hsame]
  -- of the five differences only that of the names is about a name
  change (nodeChanges old new).any Reason.isAboutName = true ↔ _
  rw [nodeChanges]
  simp only [List.any_append, hunless, hcontent, hparameters, himports, Reason.isAboutName_kind,
    Reason.isAboutName_name, Bool.and_false, Bool.false_or, Bool.or_false, Bool.and_true, Bool.not_eq_true',
    decide_eq_false_iff_not, ne_eq]

/-! ## Renamed pairs -/

/-- The pairs of nodes with different names, in the order of the pairs. -/
def renamedPairs (legacy refactored : SyntaxTree) (pairs : NodePairs) : List (Node × Node) :=
  pairs.pairs.filterMap fun p => do
    let old ← legacy.node? p.1
    let new ← refactored.node? p.2
    if old.metadata.name = new.metadata.name then none else some (old, new)

variable {legacy refactored : SyntaxTree} {pairs : NodePairs} {modified : List ModifiedNode} {d : Diff}

theorem mem_renamedPairs {n : Node × Node} : n ∈ renamedPairs legacy refactored pairs ↔
    ∃ p ∈ pairs.pairs, legacy.node? p.1 = some n.1 ∧ refactored.node? p.2 = some n.2 ∧
      n.1.metadata.name ≠ n.2.metadata.name := by
  rw [renamedPairs, List.mem_filterMap]
  refine exists_congr fun p => and_congr_right fun _ => ?_
  simp only [Option.bind_eq_bind, Option.bind_eq_some_iff]
  constructor
  · rintro ⟨old, hold, new, hnew, h⟩
    split at h
    · cases h
    · next hne =>
      cases h
      exact ⟨hold, hnew, hne⟩
  · rintro ⟨hold, hnew, hne⟩
    exact ⟨n.1, hold, n.2, hnew, if_neg hne⟩

theorem renamedPairs_ne_nil_iff : renamedPairs legacy refactored pairs ≠ [] ↔
    ∃ p ∈ pairs.pairs, ∃ old new, legacy.node? p.1 = some old ∧ refactored.node? p.2 = some new ∧
      old.metadata.name ≠ new.metadata.name := by
  constructor
  · intro hne
    obtain ⟨n, hn⟩ := List.exists_mem_of_ne_nil _ hne
    obtain ⟨p, hp, hrenamed⟩ := mem_renamedPairs.1 hn
    exact ⟨p, hp, n.1, n.2, hrenamed⟩
  · rintro ⟨p, hp, old, new, hrenamed⟩
    exact List.ne_nil_of_mem (mem_renamedPairs.2 ⟨p, hp, hrenamed⟩ : (old, new) ∈ _)

/-- A pair with different names is modified. -/
theorem modification?_filter_isRenamed (old new : Node) :
    (Diff.modification? old new).filter ModifiedNode.isRenamed =
      if old.metadata.name = new.metadata.name then none else some ⟨old, new, nodeChanges old new⟩ := by
  have hiff := isRenamed_iff old new
  unfold Diff.modification?
  split
  · next hequivalent =>
    -- equivalent nodes have equal metadata, since the key of metadata is injective
    obtain ⟨-, -, hmetadata⟩ := Node.isEquivalent_iff.1 hequivalent
    rw [hmetadata, if_pos rfl, Option.filter_none]
  · split
    · next heq => exact Option.filter_some_neg (Bool.eq_false_iff.2 fun hrenamed => hiff.1 hrenamed heq)
    · next hne => exact Option.filter_some_pos (hiff.2 hne)

theorem filter_isRenamed_modified (hpairs : Diff.PairsWithin legacy refactored pairs)
    (h : Diff.modifications legacy refactored pairs = .ok modified) :
    modified.filter ModifiedNode.isRenamed =
      (renamedPairs legacy refactored pairs).map fun n => ⟨n.1, n.2, nodeChanges n.1 n.2⟩ := by
  obtain ⟨nodes, hnodes, hok⟩ := Diff.modifications_ok hpairs
  obtain rfl := Except.ok.inj (h.symm.trans hok)
  rw [renamedPairs, List.filter_filterMap, List.map_filterMap]
  refine (Chains.filterMap_eq_of_results hnodes fun p n hread => ?_).symm
  rw [modification?_filter_isRenamed, hread.1, hread.2]
  simp only [Option.bind_eq_bind, Option.bind_some]
  split <;> rfl

/-! ## Detections of renames -/

theorem Registry.standard_rules_renameSymbol :
    ∀ s ∈ standard, s.technique = .renameSymbol → s.rules = [⟨.renamed, none, none⟩] := by
  decide

variable {α : Type} [Scalar α]

theorem technique_ne_of_mem_detectNode {n : Node} {condition : Condition} {x : Detection α}
    (hcondition : condition ≠ .renamed) (hx : x ∈ detectNode .standard n condition) : x.technique ≠ .renameSymbol := by
  intro htechnique
  obtain ⟨s, hs, r, hr, hr', hsame, -⟩ := mem_detectNode hx
  rw [Registry.standard_rules_renameSymbol s hs (hsame ▸ htechnique), List.mem_singleton] at hr
  subst hr
  exact hcondition hr'.symm

theorem technique_ne_of_mem_detectFile {f : FileChange} {x : Detection α} (hx : x ∈ detectFile .standard f) :
    x.technique ≠ .renameSymbol := by
  intro htechnique
  rcases mem_detectFile hx with ⟨s, hs, r, hr, hfinds, rfl⟩ | ⟨-, rfl⟩
  · -- a rule for names asks for no word
    rw [Registry.standard_rules_renameSymbol s hs htechnique, List.mem_singleton] at hr
    subst hr
    exact Rule.text_ne_none_of_findsText hfinds rfl
  · cases htechnique

theorem detectModified_standard (c : ModifiedNode) :
    (detectModified .standard c : List (Detection α)) =
      if c.isRenamed then [⟨.renameSymbol, 1, [renameEvidence c], nodeConfidence c.refactored.metadata false false⟩]
      else [] := rfl

theorem technique_level_of_mem_detectModified {c : ModifiedNode} {x : Detection α} (hx : x ∈ detectModified .standard c) :
    x.technique = .renameSymbol ∧ x.level = 1 := by
  rw [detectModified_standard] at hx
  split at hx
  · obtain rfl := List.mem_singleton.1 hx
    exact ⟨rfl, rfl⟩
  · cases hx

/-- Nothing but a modified pair points to a rename. -/
theorem ofTechnique_renameSymbol (d : Diff) :
    Detection.ofTechnique .renameSymbol (detectAll .standard d : List (Detection α)) =
      d.modified.flatMap (detectModified .standard) := by
  have hnodes : ∀ (nodes : List Node) (condition : Condition), condition ≠ .renamed →
      Detection.ofTechnique .renameSymbol (nodes.flatMap (detectNode .standard · condition) : List (Detection α)) = [] := by
    intro nodes condition hcondition
    refine Detection.ofTechnique_eq_nil fun x hx => ?_
    obtain ⟨n, -, hx⟩ := List.mem_flatMap.1 hx
    exact technique_ne_of_mem_detectNode hcondition hx
  have hfiles : Detection.ofTechnique .renameSymbol (d.files.flatMap (detectFile .standard) : List (Detection α)) = [] := by
    refine Detection.ofTechnique_eq_nil fun x hx => ?_
    obtain ⟨f, -, hx⟩ := List.mem_flatMap.1 hx
    exact technique_ne_of_mem_detectFile hx
  have hmodified : ∀ x ∈ (d.modified.flatMap (detectModified .standard) : List (Detection α)),
      x.technique = .renameSymbol := by
    intro x hx
    obtain ⟨c, -, hx⟩ := List.mem_flatMap.1 hx
    exact (technique_level_of_mem_detectModified hx).1
  rw [detectAll, Detection.ofTechnique_append, Detection.ofTechnique_append, Detection.ofTechnique_append,
    hnodes _ _ (by decide), hnodes _ _ (by decide), hfiles, Detection.ofTechnique_eq_self hmodified, List.nil_append,
    List.nil_append, List.append_nil]

theorem exists_of_renameSymbol {x : Detection α} (hx : x ∈ detectAll .standard d) (h : x.technique = .renameSymbol) :
    ∃ c ∈ d.modified, x ∈ detectModified .standard c := by
  have hmem := Detection.mem_ofTechnique.2 ⟨hx, h⟩
  rw [ofTechnique_renameSymbol] at hmem
  exact List.mem_flatMap.1 hmem

/-- Something points to a rename exactly if a modified pair is one. -/
theorem exists_renameSymbol_iff :
    (∃ x ∈ (detectAll .standard d : List (Detection α)), x.technique = .renameSymbol) ↔
      d.modified.filter ModifiedNode.isRenamed ≠ [] := by
  constructor
  · rintro ⟨x, hx, htechnique⟩
    obtain ⟨c, hc, hx⟩ := exists_of_renameSymbol hx htechnique
    exact List.ne_nil_of_mem (List.mem_filter.2 ⟨hc, (mem_detectModified hx).1⟩)
  · intro hne
    obtain ⟨c, hc⟩ := List.exists_mem_of_ne_nil _ hne
    obtain ⟨hc, hrenamed⟩ := List.mem_filter.1 hc
    have hx : (⟨.renameSymbol, 1, [renameEvidence c], nodeConfidence c.refactored.metadata false false⟩ : Detection α) ∈
        Detection.ofTechnique .renameSymbol (detectAll .standard d) := by
      rw [ofTechnique_renameSymbol]
      refine List.mem_flatMap.2 ⟨c, hc, ?_⟩
      rw [detectModified_standard, if_pos hrenamed]
      exact List.mem_singleton_self _
    exact ⟨_, Detection.mem_ofTechnique.1 hx⟩

/-- The evidence of renames, in the order of the modified pairs. -/
theorem flatMap_evidence_detectModified (modified : List ModifiedNode) :
    (modified.flatMap (detectModified .standard) : List (Detection α)).flatMap Detection.evidence =
      (modified.filter ModifiedNode.isRenamed).map renameEvidence := by
  induction modified with
  | nil => rfl
  | cons c rest ih =>
    rw [List.flatMap_cons, List.flatMap_append, ih, detectModified_standard, List.filter_cons]
    split <;> rfl

/-! ## The tag of renames -/

/-- For all trees and all pairs of their nodes, a rename is reported exactly if some
pair has different names. Its level is 1, and its evidence lists the renamed pairs in
their order, each text once. Exact numbers rule out that there is no classification. -/
theorem classify_renameSymbol_iff (path : String) (legacy refactored : SyntaxTree) (pairs : NodePairs)
    (hpairs : Diff.PairsWithin legacy refactored pairs) :
    ∃ d, Diff.compute path legacy refactored pairs = .ok d ∧
      (∀ [Exact α], ∃ tags : List (Tag α), classify .standard d = .ok tags) ∧
      ∀ tags : List (Tag α), classify .standard d = .ok tags →
        ((∃ t ∈ tags, t.technique = .renameSymbol) ↔
          ∃ p ∈ pairs.pairs, ∃ old new, legacy.node? p.1 = some old ∧ refactored.node? p.2 = some new ∧
            old.metadata.name ≠ new.metadata.name) ∧
        ∀ t ∈ tags, t.technique = .renameSymbol → t.level = 1 ∧
          FirstOccurrences ((renamedPairs legacy refactored pairs).map fun n =>
            "Renamed " ++ n.1.metadata.name.getD "None" ++ " -> " ++ n.2.metadata.name.getD "None" ++
              " (" ++ n.2.kind ++ ")") t.evidence := by
  obtain ⟨d, hd⟩ := Diff.compute_total path hpairs
  have hmodified := filter_isRenamed_modified hpairs (Diff.compute_eq_ok_iff.1 hd).modified
  refine ⟨d, hd, classify_total Registry.standard_inRange d, fun tags htags => ?_⟩
  have hclassified := classified_of_classify htags
  refine ⟨?_, fun t ht htechnique => ⟨?_, ?_⟩⟩
  · rw [hclassified.technique_iff, exists_renameSymbol_iff, hmodified, Ne, List.map_eq_nil_iff]
    exact renamedPairs_ne_nil_iff
  · have hlevel := hclassified.level_eq t ht 1 fun x hx hsame => by
      obtain ⟨c, -, hx⟩ := exists_of_renameSymbol hx (hsame.trans htechnique)
      exact (technique_level_of_mem_detectModified hx).2
    exact Fin.ext (by exact_mod_cast hlevel)
  · have hevidence := hclassified.evidence t ht
    rw [htechnique, ofTechnique_renameSymbol, flatMap_evidence_detectModified, hmodified, List.map_map] at hevidence
    exact hevidence

/-- A source of two declarations. -/
def declaring (kind first second : String) : SyntaxTree :=
  let node (kind name : String) : Node := ⟨0, kind, name, ⟨⟨0, 0⟩, ⟨0, 1⟩⟩, ⟨some name, [], []⟩, none, []⟩
  .ofNodes "java" "" [node kind first, node "method_declaration" second]

/-- Each of two declarations and its successor. -/
def inOrder : NodePairs := ⟨[(0, 0), (1, 1)], by simp, by simp⟩

/-- Kinds that read like reasons are no names. -/
theorem classify_renameSymbol_iff_declaring :
    Diff.PairsWithin (declaring "name changed: a" "f" "g") (declaring "identifier: b" "f" "h") inOrder ∧
    ∃ (d : Diff) (tags : List (Tag ℚ)),
      Diff.compute "main" (declaring "name changed: a" "f" "g") (declaring "identifier: b" "f" "h") inOrder = .ok d ∧
      classify .standard d = .ok tags ∧
      (∃ t ∈ tags, t.technique = .renameSymbol) ∧
      ∀ t ∈ tags, t.technique = .renameSymbol → t.level = 1 ∧
        FirstOccurrences ["Renamed g -> h (method_declaration)"] t.evidence := by
  have hpairs : Diff.PairsWithin (declaring "name changed: a" "f" "g") (declaring "identifier: b" "f" "h") inOrder := by
    unfold Diff.PairsWithin
    decide
  obtain ⟨d, hd, htotal, hspec⟩ := classify_renameSymbol_iff (α := ℚ) "main" _ _ _ hpairs
  obtain ⟨tags, htags⟩ := htotal
  obtain ⟨hiff, hall⟩ := hspec tags htags
  exact ⟨hpairs, d, tags, hd, htags, hiff.2 ⟨(1, 1), by decide, _, _, rfl, rfl, by decide⟩, hall⟩

end RefactorAudit
