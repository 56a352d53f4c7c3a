import RefactorAudit.Proofs.Changes.Summary
import RefactorAudit.Proofs.Impact.Dependencies
import RefactorAudit.Proofs.Refactoring.Classify
import RefactorAudit.Proofs.Refactoring.Merge

/-!
# Changed imports

The summary of a diff, the evidence of a technique and the list of dependencies tell
in three ways that imports changed. They agree for all diffs: the rules that point to
the technique never give the evidence (`importChange_iff`), so it stands or falls with
the summary, and the summary with the lists.
-/

namespace RefactorAudit

open Scalar

variable {α : Type} [Scalar α] {d : Diff}

/-! ## The evidence -/

theorem Registry.standard_rules_moveModularize :
    ∀ s ∈ standard, s.technique = .moveModularize → ∀ r ∈ s.rules, r.condition = .added ∧ r.text = none := by
  decide

theorem kindEvidence_added_ne (n : Node) : kindEvidence n .added ≠ "Import/dependency changes detected" := by
  have hcapital : Text.capitalize Condition.added.label = "Added" := by decide +kernel
  intro h
  rw [kindEvidence, hcapital] at h
  -- the two texts differ in their first character
  have hhead : ("Added" ++ " " ++ n.kind ++ n.nameLabel).toList = "Import/dependency changes detected".toList :=
    congrArg String.toList h
  simp at hhead

/-- Nodes give another evidence for the technique. -/
theorem not_mem_evidence_of_mem_detectNode {n : Node} {condition : Condition} {x : Detection α}
    (hx : x ∈ detectNode .standard n condition) (htechnique : x.technique = .moveModularize) :
    "Import/dependency changes detected" ∉ x.evidence := by
  obtain ⟨s, hs, r, hr, hcondition, hsame, -, hfound⟩ := mem_detectNode hx
  obtain ⟨hadded, htext⟩ := Registry.standard_rules_moveModularize s hs (hsame ▸ htechnique) r hr
  rcases hfound with ⟨-, hevidence, -⟩ | ⟨hfinds, -⟩
  · rw [hevidence, List.mem_singleton, ← hcondition, hadded]
    exact (kindEvidence_added_ne n).symm
  · exact absurd htext (Rule.text_ne_none_of_findsText hfinds)

/-- The evidence is given for a file whose summary mentions imports, and by no rule. -/
theorem importChange_iff :
    (∃ x ∈ (detectAll .standard d : List (Detection α)),
      x.technique = .moveModularize ∧ "Import/dependency changes detected" ∈ x.evidence) ↔
      ∃ f ∈ d.files, f.mentionsImports = true := by
  constructor
  · rintro ⟨x, hx, htechnique, he⟩
    simp only [detectAll, List.mem_append, List.mem_flatMap] at hx
    rcases hx with ((⟨n, -, hx⟩ | ⟨n, -, hx⟩) | ⟨c, -, hx⟩) | ⟨f, hf, hx⟩
    · exact absurd he (not_mem_evidence_of_mem_detectNode hx htechnique)
    · exact absurd he (not_mem_evidence_of_mem_detectNode hx htechnique)
    · -- a modified pair triggers rules for names only
      obtain ⟨-, s, hs, r, hr, hcondition, rfl⟩ := mem_detectModified hx
      obtain ⟨hadded, -⟩ := Registry.standard_rules_moveModularize s hs htechnique r hr
      rw [hadded] at hcondition
      cases hcondition
    · rcases mem_detectFile hx with ⟨s, hs, r, hr, hfinds, rfl⟩ | ⟨hmentions, -⟩
      · obtain ⟨-, htext⟩ := Registry.standard_rules_moveModularize s hs htechnique r hr
        exact absurd htext (Rule.text_ne_none_of_findsText hfinds)
      · exact ⟨f, hf, hmentions⟩
  · rintro ⟨f, hf, hmentions⟩
    refine ⟨⟨.moveModularize, 2, ["Import/dependency changes detected"], ofRat 0.7⟩, ?_, rfl, List.mem_singleton_self _⟩
    refine List.mem_append_right _ (List.mem_flatMap.2 ⟨f, hf, List.mem_append_right _ ?_⟩)
    rw [if_pos hmentions]
    exact List.mem_singleton_self _

/-! ## The dependencies -/

theorem importTargets_ne_nil_iff {nodes : List Node} : Impact.importTargets nodes ≠ [] ↔ importCount nodes ≠ 0 := by
  rw [not_iff_not, importCount_eq_zero_iff]
  constructor
  · intro hnil n hn
    refine List.eq_nil_iff_forall_not_mem.2 fun x hx => ?_
    have hmem : x ∈ Impact.importTargets nodes := Impact.mem_importTargets.2 ⟨n, hn, hx⟩
    rw [hnil] at hmem
    cases hmem
  · intro hall
    refine List.eq_nil_iff_forall_not_mem.2 fun x hx => ?_
    obtain ⟨n, hn, hx⟩ := Impact.mem_importTargets.1 hx
    rw [hall n hn] at hx
    cases hx

/-- For all trees and all pairs of their nodes, the evidence of changed imports is
given exactly if there are new or removed dependencies, and exactly then the summary
speaks of imports. The dependencies are the targets of the nodes that came and those
of the nodes that went, each one once, in the order of their first occurrence. Exact
numbers rule out that there is no classification. -/
theorem moveModularize_iff_dependencies (path : String) (legacy refactored : SyntaxTree) (pairs : NodePairs)
    (hpairs : Diff.PairsWithin legacy refactored pairs) :
    ∃ d, Diff.compute path legacy refactored pairs = .ok d ∧
      (∀ [Exact α], ∃ tags : List (Tag α), classify .standard d = .ok tags) ∧
      ∀ tags : List (Tag α), classify .standard d = .ok tags →
        ((∃ t ∈ tags, t.technique = .moveModularize ∧ "Import/dependency changes detected" ∈ t.evidence) ↔
          (Impact.metrics d tags).newDependencies ≠ [] ∨ (Impact.metrics d tags).removedDependencies ≠ []) ∧
        (∃ f, d.files = [f] ∧ (Text.occursIn "import" f.summary = true ↔
          (Impact.metrics d tags).newDependencies ≠ [] ∨ (Impact.metrics d tags).removedDependencies ≠ [])) ∧
        FirstOccurrences (d.added.flatMap (·.metadata.imports)) (Impact.metrics d tags).newDependencies ∧
        FirstOccurrences (d.removed.flatMap (·.metadata.imports)) (Impact.metrics d tags).removedDependencies := by
  obtain ⟨d, hd⟩ := Diff.compute_total path hpairs
  obtain ⟨f, hfiles, hsummary⟩ : ∃ f, d.files = [f] ∧ f.summary = structuralSummary d.added d.removed d.modified :=
    ⟨_, (Diff.compute_eq_ok_iff.1 hd).files, rfl⟩
  have hword : Text.occursIn "import" f.summary = true ↔
      Impact.importTargets d.added ≠ [] ∨ Impact.importTargets d.removed ≠ [] := by
    rw [hsummary, Summary.occursIn_import_iff, importTargets_ne_nil_iff, importTargets_ne_nil_iff]
  refine ⟨d, hd, classify_total Registry.standard_inRange d, fun tags htags => ⟨?_, ⟨f, hfiles, hword⟩, ?_, ?_⟩⟩
  · rw [(classified_of_classify htags).evidence_iff, importChange_iff, hfiles]
    simp only [List.mem_singleton, exists_eq_left, Summary.mentionsImports_eq hsummary]
    exact hword
  · exact firstOccurrences_eraseDups _
  · exact firstOccurrences_eraseDups _

/-- The roots of two trees. -/
def roots : NodePairs := ⟨[(0, 0)], by simp, by simp⟩

theorem moveModularize_iff_dependencies_importing :
    Diff.PairsWithin ((Impact.importing ["os"]).toTree .python "import os\n")
      ((Impact.importing ["os", "sys"]).toTree .python "import os, sys\n") roots ∧
    ∃ (d : Diff) (tags : List (Tag ℚ)),
      Diff.compute "main" ((Impact.importing ["os"]).toTree .python "import os\n")
        ((Impact.importing ["os", "sys"]).toTree .python "import os, sys\n") roots = .ok d ∧
      classify .standard d = .ok tags ∧
      "sys" ∈ (Impact.metrics d tags).newDependencies ∧
      ∃ t ∈ tags, t.technique = .moveModularize ∧ "Import/dependency changes detected" ∈ t.evidence := by
  have hpairs : Diff.PairsWithin ((Impact.importing ["os"]).toTree .python "import os\n")
      ((Impact.importing ["os", "sys"]).toTree .python "import os, sys\n") roots := by
    unfold Diff.PairsWithin
    decide
  obtain ⟨d, hd, htotal, hspec⟩ := moveModularize_iff_dependencies (α := ℚ) "main" _ _ _ hpairs
  obtain ⟨tags, htags⟩ := htotal
  have hsys : "sys" ∈ (Impact.metrics d tags).newDependencies := by
    change "sys" ∈ Impact.importTargets d.added
    rw [(Diff.compute_eq_ok_iff.1 hd).added]
    exact (Impact.mem_importTargets_unmatched (by decide)).2 (by decide)
  exact ⟨hpairs, d, tags, hd, htags, hsys, (hspec tags htags).1.2 (.inl (List.ne_nil_of_mem hsys))⟩

end RefactorAudit
