import RefactorAudit.Proofs.Changes.Diff
import RefactorAudit.Proofs.Exact
import RefactorAudit.Proofs.Refactoring.Detect

/-!
# Classification always has a result

Whatever a registry with levels from 0 to 4 finds in a diff is in range: each
confidence is capped at 1 when it is made, and the mean of two confidences lies
between them. So no check of a tag can fail, neither at detection nor at merging
(`classify_total`). In an unchanged file nothing is found (`classify_unchanged`).
-/

namespace RefactorAudit

open Scalar

variable {α : Type} [Scalar α]

/-! ## Detections are in range -/

/-- All levels that the registry gives are levels. -/
def Registry.InRange (registry : Registry) : Prop := ∀ s ∈ registry, 0 ≤ s.level ∧ s.level ≤ 4

theorem Registry.standard_inRange : Registry.InRange .standard := by
  unfold InRange
  decide

section Exact

variable [Exact α]

structure Detection.InRange (d : Detection α) : Prop where
  level : 0 ≤ d.level ∧ d.level ≤ 4
  confidence : toReal d.confidence ∈ Set.Icc 0 1

theorem toReal_nodeConfidence_mem (m : Metadata) (lexical kind : Bool) :
    toReal (nodeConfidence m lexical kind : α) ∈ Set.Icc 0 1 := by
  simp only [nodeConfidence, toReal_atMost, toReal_one]
  refine ⟨le_min zero_le_one ?_, min_le_left _ _⟩
  -- whatever applies only adds to 0.5
  split <;> split <;> split <;> split <;> simp only [Exact.toReal_add, Exact.toReal_ofRat] <;> norm_num

variable {registry : Registry} (hregistry : registry.InRange)
include hregistry

theorem detectNode_inRange (n : Node) (condition : Condition) :
    ∀ d ∈ (detectNode registry n condition : List (Detection α)), d.InRange := by
  intro d hd
  obtain ⟨s, hs, _, -, -, -, hlevel, ⟨-, -, hconfidence⟩ | ⟨-, -, hconfidence⟩⟩ := mem_detectNode hd
  · exact ⟨hlevel ▸ hregistry s hs, hconfidence ▸ toReal_nodeConfidence_mem _ _ _⟩
  · exact ⟨hlevel ▸ hregistry s hs, hconfidence ▸ toReal_nodeConfidence_mem _ _ _⟩

theorem detectModified_inRange (c : ModifiedNode) :
    ∀ d ∈ (detectModified registry c : List (Detection α)), d.InRange := by
  intro d hd
  obtain ⟨-, s, hs, _, -, -, rfl⟩ := mem_detectModified hd
  exact ⟨hregistry s hs, toReal_nodeConfidence_mem _ _ _⟩

theorem detectFile_inRange (f : FileChange) :
    ∀ d ∈ (detectFile registry f : List (Detection α)), d.InRange := by
  intro d hd
  rcases mem_detectFile hd with ⟨s, hs, _, -, -, rfl⟩ | ⟨-, rfl⟩
  · exact ⟨hregistry s hs, by norm_num⟩
  · exact ⟨by norm_num, by norm_num⟩

theorem detectAll_inRange (d : Diff) : ∀ x ∈ (detectAll registry d : List (Detection α)), x.InRange := by
  intro x hx
  simp only [detectAll, List.mem_append, List.mem_flatMap] at hx
  rcases hx with ((⟨n, -, hx⟩ | ⟨n, -, hx⟩) | ⟨c, -, hx⟩) | ⟨f, -, hx⟩
  · exact detectNode_inRange hregistry n _ x hx
  · exact detectNode_inRange hregistry n _ x hx
  · exact detectModified_inRange hregistry c x hx
  · exact detectFile_inRange hregistry f x hx

end Exact

/-! ## Tags and their merging -/

section Merging

variable [Exact α]

theorem Tag.make_ok (technique : Technique) (level : Level) (evidence : List String) {c : α}
    (hc : toReal c ∈ Set.Icc 0 1) : ∃ t, Tag.make technique level evidence c = .ok t :=
  ⟨_, dif_pos ((unit_iff c).2 hc)⟩

theorem Tag.confidence_mem (t : Tag α) : toReal t.confidence ∈ Set.Icc 0 1 :=
  (unit_iff _).1 ⟨t.confidence_nonneg, t.confidence_le_one⟩

theorem Detection.tag_ok {d : Detection α} (h : d.InRange) : ∃ t, d.tag = .ok t := by
  have hlevel : Level.ofInt? d.level = some ⟨d.level.toNat, by have := h.level; omega⟩ := dif_pos h.level
  rw [Detection.tag, hlevel]
  exact Tag.make_ok _ _ _ h.confidence

/-- The mean of two confidences is a confidence. -/
theorem Tag.join_ok (t u : Tag α) : ∃ v, t.join u = .ok v := by
  apply Tag.make_ok
  obtain ⟨ht, ht'⟩ := t.confidence_mem
  obtain ⟨hu, hu'⟩ := u.confidence_mem
  rw [Exact.toReal_div, Exact.toReal_add, toReal_ofNat]
  constructor <;> norm_num <;> linarith

theorem Tag.mergeInto_ok (u : Tag α) (tags : List (Tag α)) : ∃ merged, mergeInto u tags = .ok merged := by
  induction tags with
  | nil => exact ⟨_, rfl⟩
  | cons t rest ih =>
    unfold mergeInto
    split
    · obtain ⟨v, hv⟩ := t.join_ok u
      rw [hv]
      exact ⟨_, rfl⟩
    · obtain ⟨merged, hmerged⟩ := ih
      rw [hmerged]
      exact ⟨_, rfl⟩

theorem Tag.merge_ok (tags : List (Tag α)) : ∃ merged, merge tags = .ok merged := by
  obtain ⟨merged, hmerged, -⟩ :=
    Chains.foldlM_ok (P := fun _ (_ : List (Tag α)) => True) trivial fun _ t _ _ merged _ =>
      (mergeInto_ok t merged).imp fun _ h => ⟨h, trivial⟩
  rw [merge, hmerged]
  exact ⟨_, rfl⟩

/-- Levels in range are all that a registry needs: every diff is classified. -/
theorem classify_total {registry : Registry} (hregistry : registry.InRange) (d : Diff) :
    ∃ tags : List (Tag α), classify registry d = .ok tags := by
  obtain ⟨tags, htags, -⟩ := Chains.mapM_ok (Q := fun _ (_ : Tag α) => True) fun x hx =>
    (Detection.tag_ok (detectAll_inRange hregistry d x hx)).imp fun _ h => ⟨h, trivial⟩
  rw [classify, htags]
  exact Tag.merge_ok tags

end Merging

/-! ## Nothing is found where nothing changed -/

theorem detectFile_of_no_text {f : FileChange} (htext : f.textDiff = "")
    (hsummary : f.summary = "No structural changes") (registry : Registry) :
    detectFile registry f = ([] : List (Detection α)) := by
  have hadded : f.addedText = "" := by
    rw [FileChange.addedText, FileChange.addedLines, htext]
    decide
  have hmentions : f.mentionsImports = false := by
    rw [FileChange.mentionsImports, hsummary]
    decide +kernel
  simp [detectFile, hadded, hmentions]

theorem classify_unchanged (registry : Registry) (path : String) :
    classify registry (Diff.unchanged path) = (.ok [] : Except (TagError α) (List (Tag α))) := by
  have hnone : detectAll registry (Diff.unchanged path) = ([] : List (Detection α)) := by
    simp [detectAll, Diff.unchanged, detectFile_of_no_text]
  have hmerge : Tag.merge ([] : List (Tag α)) = .ok [] := by
    change Except.ok (Tag.byLevel []) = _
    rw [Tag.byLevel, List.mergeSort_nil]
  rw [classify, hnone]
  exact hmerge

end RefactorAudit
