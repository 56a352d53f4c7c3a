import RefactorAudit.Refactoring.Detect

/-!
# What can be detected

One statement for each place that techniques are detected in: a node that came or
went, a modified pair, a file. Each detection is due to one rule of the registry, has
the technique and the level of that rule, and carries one piece of evidence. Only the
mention of imports in a summary counts without a rule.
-/

namespace RefactorAudit

open Scalar

variable {α : Type} [Scalar α] {registry : Registry} {x : Detection α}

theorem Rule.text_ne_none_of_findsText {r : Rule} {lowered : String} (h : r.findsText lowered = true) :
    r.text ≠ none := by
  intro hnone
  rw [findsText, hnone] at h
  cases h

theorem detectByRule_some {s : TechniqueRules} {condition : Condition} {n : Node} {lowered? : Option String} {r : Rule}
    (h : detectByRule s condition n lowered? r = some x) :
    r.condition = condition ∧ x.technique = s.technique ∧ x.level = s.level ∧
      ((r.wantsKind n.kind = true ∧ x.evidence = [kindEvidence n condition] ∧
          x.confidence = nodeConfidence n.metadata false true) ∨
        (lowered?.any r.findsText = true ∧ x.evidence = [lexicalEvidence n r.word] ∧
          x.confidence = nodeConfidence n.metadata true false)) := by
  unfold detectByRule at h
  split at h
  · next hcondition =>
    refine ⟨hcondition, ?_⟩
    split at h
    · next hkind =>
      cases h
      exact ⟨rfl, rfl, .inl ⟨hkind, rfl, rfl⟩⟩
    · split at h
      · next hword =>
        cases h
        exact ⟨rfl, rfl, .inr ⟨hword, rfl, rfl⟩⟩
      · cases h
  · cases h

theorem mem_detectNode {n : Node} {condition : Condition} (h : x ∈ detectNode registry n condition) :
    ∃ s ∈ registry, ∃ r ∈ s.rules, r.condition = condition ∧ x.technique = s.technique ∧ x.level = s.level ∧
      ((r.wantsKind n.kind = true ∧ x.evidence = [kindEvidence n condition] ∧
          x.confidence = nodeConfidence n.metadata false true) ∨
        (r.findsText (Text.lower n.text) = true ∧ x.evidence = [lexicalEvidence n r.word] ∧
          x.confidence = nodeConfidence n.metadata true false)) := by
  obtain ⟨s, hs, h⟩ := List.mem_flatMap.1 h
  obtain ⟨r, hr, h⟩ := List.mem_filterMap.1 h
  obtain ⟨hcondition, htechnique, hlevel, hkind | ⟨hword, hrest⟩⟩ := detectByRule_some h
  · exact ⟨s, hs, r, hr, hcondition, htechnique, hlevel, .inl hkind⟩
  · refine ⟨s, hs, r, hr, hcondition, htechnique, hlevel, .inr ⟨?_, hrest⟩⟩
    split at hword
    · exact hword
    · cases hword

theorem mem_detectModified {c : ModifiedNode} (h : x ∈ detectModified registry c) :
    c.isRenamed = true ∧ ∃ s ∈ registry, ∃ r ∈ s.rules, r.condition = .renamed ∧
      x = ⟨s.technique, s.level, [renameEvidence c], nodeConfidence c.refactored.metadata false false⟩ := by
  unfold detectModified at h
  split at h
  · next hrenamed =>
    obtain ⟨s, hs, h⟩ := List.mem_flatMap.1 h
    obtain ⟨r, hr, rfl⟩ := List.mem_map.1 h
    obtain ⟨hr, hcondition⟩ := List.mem_filter.1 hr
    exact ⟨hrenamed, s, hs, r, hr, by simpa using hcondition, rfl⟩
  · cases h

theorem mem_detectFile {f : FileChange} (h : x ∈ detectFile registry f) :
    (∃ s ∈ registry, ∃ r ∈ s.rules, r.findsText f.addedText = true ∧
      x = ⟨s.technique, s.level, [s!"Found {r.word} in file changes"], ofRat 0.8⟩) ∨
    (f.mentionsImports = true ∧
      x = ⟨.moveModularize, 2, ["Import/dependency changes detected"], ofRat 0.7⟩) := by
  rcases List.mem_append.1 h with h | h
  · split at h
    · cases h
    · obtain ⟨s, hs, h⟩ := List.mem_flatMap.1 h
      obtain ⟨r, hr, rfl⟩ := List.mem_map.1 h
      obtain ⟨hr, hfinds⟩ := List.mem_filter.1 hr
      exact .inl ⟨s, hs, r, hr, hfinds, rfl⟩
  · split at h
    · next hmentions => exact .inr ⟨hmentions, List.mem_singleton.1 h⟩
    · cases h

/-- Each detection carries one piece of evidence. -/
theorem exists_evidence_of_mem_detectAll {d : Diff} (h : x ∈ detectAll registry d) : ∃ e, x.evidence = [e] := by
  have hnode : ∀ n condition, x ∈ detectNode registry n condition → ∃ e, x.evidence = [e] := by
    intro n condition h
    obtain ⟨_, -, _, -, -, -, -, ⟨-, he, -⟩ | ⟨-, he, -⟩⟩ := mem_detectNode h <;> exact ⟨_, he⟩
  simp only [detectAll, List.mem_append, List.mem_flatMap] at h
  rcases h with ((⟨n, -, h⟩ | ⟨n, -, h⟩) | ⟨c, -, h⟩) | ⟨f, -, h⟩
  · exact hnode n _ h
  · exact hnode n _ h
  · obtain ⟨-, _, -, _, -, -, rfl⟩ := mem_detectModified h
    exact ⟨_, rfl⟩
  · rcases mem_detectFile h with ⟨_, -, _, -, -, rfl⟩ | ⟨-, rfl⟩ <;> exact ⟨_, rfl⟩

end RefactorAudit
