import Mathlib.Data.List.Nodup
import Mathlib.Order.Bounds.Basic
import Mathlib.Order.Fin.Basic
import RefactorAudit.Proofs.Chains
import RefactorAudit.Proofs.FirstOccurrence
import RefactorAudit.Proofs.Refactoring.Detect

/-!
# What merging findings comes to

Merging leaves one tag for each technique that was found. It is what joining the
findings of that technique one after the other gives (`Merged`); in particular it has
the highest of their levels (`Merged.isGreatest_level`), and it lists their evidence
without duplicates (`Joined.firstOccurrences`). Sorting by level is stable, so tags of a
level stay in the order of their first findings (`Merged.pairwise_byLevel`).
`Classified` says what this comes to for the tags of a diff, and `classified_of_classify`
that it holds.
-/

namespace RefactorAudit

open Scalar

variable {α : Type}

/-! ## Detections of one technique -/

namespace Detection

variable {technique : Technique} {detections : List (Detection α)}

/-- The detections of a technique, in their order. -/
def ofTechnique (technique : Technique) (detections : List (Detection α)) : List (Detection α) :=
  detections.filter (·.technique = technique)

theorem mem_ofTechnique {x : Detection α} :
    x ∈ ofTechnique technique detections ↔ x ∈ detections ∧ x.technique = technique := by
  simp [ofTechnique]

theorem ofTechnique_append (detections further : List (Detection α)) :
    ofTechnique technique (detections ++ further) = ofTechnique technique detections ++ ofTechnique technique further :=
  List.filter_append ..

theorem ofTechnique_eq_nil (h : ∀ x ∈ detections, x.technique ≠ technique) : ofTechnique technique detections = [] :=
  List.filter_eq_nil_iff.2 fun x hx heq => h x hx (of_decide_eq_true heq)

theorem ofTechnique_eq_self (h : ∀ x ∈ detections, x.technique = technique) :
    ofTechnique technique detections = detections :=
  List.filter_eq_self.2 fun x hx => decide_eq_true (h x hx)

end Detection

variable [Scalar α]

namespace Tag

variable {t u v : Tag α} {us tags tags' findings merged merged' : List (Tag α)}

theorem make_eq_ok {technique : Technique} {level : Level} {evidence : List String} {c : α}
    (h : make technique level evidence c = .ok t) :
    t.technique = technique ∧ t.level = level ∧ t.evidence = evidence ∧ t.confidence = c := by
  unfold make at h
  split at h
  · cases h
    exact ⟨rfl, rfl, rfl, rfl⟩
  · cases h

/-! ## Joining -/

theorem firstOccurrences_joinEvidence {seen evidence : List String} (h : FirstOccurrences seen evidence)
    (further : List String) : FirstOccurrences (seen ++ further) (joinEvidence evidence further) := by
  unfold joinEvidence
  induction further generalizing seen evidence with
  | nil => simpa using h
  | cons e further ih =>
    rw [List.append_cons]
    exact ih (h.concat e)

/-- `t` is what joining the tags one after the other gives. -/
inductive Joined : List (Tag α) → Tag α → Prop where
  | single (t : Tag α) : Joined [t] t
  | concat {us : List (Tag α)} {t u v : Tag α} : Joined us t → t.join u = .ok v → Joined (us ++ [u]) v

theorem Joined.exists_level_eq (h : Joined us t) : ∃ u ∈ us, t.level = u.level := by
  induction h with
  | single t => exact ⟨t, List.mem_cons_self, rfl⟩
  | @concat us t u v _ hjoin ih =>
    obtain ⟨-, hlevel, -⟩ := make_eq_ok hjoin
    rw [hlevel]
    unfold Level.higher
    split
    · exact ⟨u, by simp, rfl⟩
    · obtain ⟨w, hw, heq⟩ := ih
      exact ⟨w, List.mem_append_left _ hw, heq⟩

theorem Joined.level_le (h : Joined us t) : ∀ u ∈ us, u.level ≤ t.level := by
  induction h with
  | single t =>
    intro u hu
    obtain rfl := List.mem_singleton.1 hu
    exact le_rfl
  | @concat us t w v _ hjoin ih =>
    obtain ⟨-, hlevel, -⟩ := make_eq_ok hjoin
    have hhigher : t.level ≤ v.level ∧ w.level ≤ v.level := by
      rw [hlevel]
      unfold Level.higher
      split
      · next hle => exact ⟨hle, le_rfl⟩
      · next hnot => exact ⟨le_rfl, (not_le.1 hnot).le⟩
    intro u hu
    rcases List.mem_append.1 hu with hu | hu
    · exact (ih u hu).trans hhigher.1
    · obtain rfl := List.mem_singleton.1 hu
      exact hhigher.2

/-- Tags that repeat no piece of evidence join to a tag that lists all pieces. -/
theorem Joined.firstOccurrences (h : Joined us t) (hnodup : ∀ u ∈ us, u.evidence.Nodup) :
    FirstOccurrences (us.flatMap Tag.evidence) t.evidence := by
  induction h with
  | single t =>
    rw [List.flatMap_singleton]
    exact .of_nodup (hnodup t List.mem_cons_self)
  | @concat us t u v _ hjoin ih =>
    obtain ⟨-, -, hevidence, -⟩ := make_eq_ok hjoin
    rw [hevidence, List.flatMap_append, List.flatMap_singleton]
    exact firstOccurrences_joinEvidence (ih fun w hw => hnodup w (List.mem_append_left _ hw)) u.evidence

/-! ## Merging -/

/-- A tag goes to the end, or joins the first one of its technique. -/
theorem mergeInto_cases (h : mergeInto u tags = .ok tags') :
    (u.technique ∉ tags.map Tag.technique ∧ tags' = tags ++ [u]) ∨
      ∃ before t after v, tags = before ++ t :: after ∧ t.technique = u.technique ∧ t.join u = .ok v ∧
        tags' = before ++ v :: after := by
  induction tags generalizing tags' with
  | nil =>
    cases h
    exact .inl ⟨by simp, rfl⟩
  | cons t rest ih =>
    unfold mergeInto at h
    split at h
    · next heq =>
      obtain ⟨v, hv, h⟩ := Chains.bind_eq_ok_iff.1 h
      cases h
      exact .inr ⟨[], t, rest, v, rfl, heq, hv, rfl⟩
    · next hne =>
      obtain ⟨rest', hrest, h⟩ := Chains.bind_eq_ok_iff.1 h
      cases h
      rcases ih hrest with ⟨hnot, rfl⟩ | ⟨before, t', after, v, rfl, heq, hv, rfl⟩
      · refine .inl ⟨?_, rfl⟩
        rw [List.map_cons, List.mem_cons, not_or]
        exact ⟨fun he => hne he.symm, hnot⟩
      · exact .inr ⟨t :: before, t', after, v, rfl, heq, hv, rfl⟩

/-- The findings of a technique, in their order. -/
def ofTechnique (technique : Technique) (findings : List (Tag α)) : List (Tag α) :=
  findings.filter (·.technique = technique)

theorem ofTechnique_concat_of_eq (findings : List (Tag α)) (h : u.technique = t.technique) :
    ofTechnique t.technique (findings ++ [u]) = ofTechnique t.technique findings ++ [u] := by
  simp [ofTechnique, h]

theorem ofTechnique_concat_of_ne (findings : List (Tag α)) (h : u.technique ≠ t.technique) :
    ofTechnique t.technique (findings ++ [u]) = ofTechnique t.technique findings := by
  simp [ofTechnique, h]

/-- One tag for each technique among the findings, joined from the findings of the
technique. -/
structure Merged (findings merged : List (Tag α)) : Prop where
  techniques : FirstOccurrences (findings.map Tag.technique) (merged.map Tag.technique)
  joined : ∀ t ∈ merged, Joined (ofTechnique t.technique findings) t

/-- A finding of a new technique. -/
theorem Merged.add (h : Merged findings merged) (hnew : u.technique ∉ merged.map Tag.technique) :
    Merged (findings ++ [u]) (merged ++ [u]) := by
  have hfound : u.technique ∉ findings.map Tag.technique := fun hmem => hnew ((h.techniques.mem_iff _).2 hmem)
  refine ⟨?_, fun t ht => ?_⟩
  · rw [List.map_append, List.map_append]
    exact h.techniques.concat_of_not_mem hfound
  · rcases List.mem_append.1 ht with ht | ht
    · have hne : u.technique ≠ t.technique := fun he => hnew (he ▸ List.mem_map_of_mem ht)
      rw [ofTechnique_concat_of_ne findings hne]
      exact h.joined t ht
    · obtain rfl := List.mem_singleton.1 ht
      have hnone : ofTechnique t.technique findings = [] := by
        rw [ofTechnique, List.filter_eq_nil_iff]
        intro w hw he
        exact hfound (of_decide_eq_true he ▸ List.mem_map_of_mem hw)
      rw [ofTechnique_concat_of_eq findings rfl, hnone]
      exact .single t

/-- A finding of a technique that has a tag. -/
theorem Merged.join {before after : List (Tag α)} (h : Merged findings (before ++ t :: after))
    (htechnique : t.technique = u.technique) (hv : t.join u = .ok v) :
    Merged (findings ++ [u]) (before ++ v :: after) := by
  obtain ⟨hsame, -⟩ := make_eq_ok hv
  have hmap : (before ++ v :: after).map Tag.technique = (before ++ t :: after).map Tag.technique := by
    simp [hsame]
  refine ⟨?_, fun w hw => ?_⟩
  · rw [hmap, List.map_append]
    refine h.techniques.concat_of_mem ((h.techniques.mem_iff _).1 ?_)
    rw [← htechnique]
    exact List.mem_map_of_mem (by simp)
  · by_cases hwv : w = v
    · subst hwv
      rw [ofTechnique_concat_of_eq findings (hsame.trans htechnique).symm, hsame]
      exact (h.joined t (by simp)).concat hv
    · -- another tag has another technique
      have hmem : w ∈ before ++ t :: after := by
        simp only [List.mem_append, List.mem_cons, hwv, false_or] at hw
        rcases hw with hw | hw <;> simp [hw]
      have hne : u.technique ≠ w.technique := by
        have hnodup := h.techniques.nodup
        rw [List.map_append, List.map_cons, List.nodup_middle, List.nodup_cons, ← List.map_append] at hnodup
        intro he
        refine hnodup.1 (htechnique ▸ he ▸ List.mem_map_of_mem ?_)
        simpa [hwv] using hw
      rw [ofTechnique_concat_of_ne findings hne]
      exact h.joined w hmem

theorem Merged.step (h : Merged findings merged) (hstep : mergeInto u merged = .ok merged') :
    Merged (findings ++ [u]) merged' := by
  rcases mergeInto_cases hstep with ⟨hnew, rfl⟩ | ⟨before, t, after, v, rfl, htechnique, hv, rfl⟩
  · exact h.add hnew
  · exact h.join htechnique hv

theorem merge_spec (h : merge findings = .ok tags) : ∃ merged, Merged findings merged ∧ tags = byLevel merged := by
  obtain ⟨merged, hmerged, h⟩ := Chains.bind_eq_ok_iff.1 h
  cases h
  have hinit : Merged ([] : List (Tag α)) [] := ⟨.nil, by simp⟩
  exact ⟨merged, Chains.foldlM_invariant (P := Merged) (fun _ _ _ _ hm hstep => hm.step hstep) hinit hmerged, rfl⟩

/-- The level of a merged tag is the highest of its technique's findings. -/
theorem Merged.isGreatest_level (h : Merged findings merged) (ht : t ∈ merged) :
    IsGreatest {level | ∃ u ∈ findings, u.technique = t.technique ∧ u.level = level} t.level := by
  have hjoined := h.joined t ht
  constructor
  · obtain ⟨u, hu, hlevel⟩ := hjoined.exists_level_eq
    obtain ⟨hu, htechnique⟩ := List.mem_filter.1 hu
    exact ⟨u, hu, of_decide_eq_true htechnique, hlevel.symm⟩
  · rintro _ ⟨u, hu, htechnique, rfl⟩
    exact hjoined.level_le u (List.mem_filter.2 ⟨hu, decide_eq_true htechnique⟩)

/-! ## Order -/

theorem mem_byLevel : t ∈ byLevel tags ↔ t ∈ tags := List.mem_mergeSort

theorem Merged.nodup_byLevel (h : Merged findings merged) : ((byLevel merged).map Tag.technique).Nodup :=
  ((List.mergeSort_perm merged _).map Tag.technique).nodup_iff.2 h.techniques.nodup

/-- The techniques of the merged tags are those of the findings. -/
theorem Merged.mem_map_byLevel_iff (h : Merged findings merged) (technique : Technique) :
    technique ∈ (byLevel merged).map Tag.technique ↔ technique ∈ findings.map Tag.technique :=
  ((List.mergeSort_perm merged _).map Tag.technique).mem_iff.trans (h.techniques.mem_iff technique)

theorem level_trans (t u v : Tag α) (htu : decide (u.level ≤ t.level) = true) (huv : decide (v.level ≤ u.level) = true) :
    decide (v.level ≤ t.level) = true := by
  rw [decide_eq_true_iff] at *
  exact le_trans huv htu

theorem level_total (t u : Tag α) : (decide (u.level ≤ t.level) || decide (t.level ≤ u.level)) = true := by
  simpa using le_total u.level t.level

/-- Sorting leaves the tags of a level in their order. -/
theorem filter_level_byLevel (tags : List (Tag α)) (level : Level) :
    (byLevel tags).filter (·.level = level) = tags.filter (·.level = level) := by
  have hsame : (tags.filter (·.level = level)).Pairwise fun t u => decide (u.level ≤ t.level) = true := by
    refine List.pairwise_of_forall_mem_list fun t ht u hu => ?_
    rw [of_decide_eq_true (List.mem_filter.1 ht).2, of_decide_eq_true (List.mem_filter.1 hu).2]
    exact decide_eq_true le_rfl
  have hsub : (tags.filter (·.level = level)).Sublist (byLevel tags) :=
    List.sublist_mergeSort level_trans level_total hsame List.filter_sublist
  -- the tags of the level are among the sorted ones, which have no more of them
  have hkept := hsub.filter (·.level = level)
  simp only [List.filter_filter, Bool.and_self] at hkept
  exact (hkept.eq_of_length ((List.mergeSort_perm tags _).filter _).length_eq.symm).symm

/-- Tags in any order are sorted by level, and within a level by that order. -/
theorem pairwise_byLevel {R : Tag α → Tag α → Prop} (h : tags.Pairwise R) :
    (byLevel tags).Pairwise fun t u => u.level < t.level ∨ t.level = u.level ∧ R t u := by
  rw [List.pairwise_iff_forall_sublist]
  intro t u hsub
  have hle : u.level ≤ t.level := by
    have hsorted := List.pairwise_mergeSort level_trans level_total tags
    simpa using List.pairwise_iff_forall_sublist.1 hsorted hsub
  rcases lt_or_eq_of_le hle with hlt | heq
  · exact .inl hlt
  · refine .inr ⟨heq.symm, ?_⟩
    have hlevel := hsub.filter (·.level = t.level)
    rw [filter_level_byLevel] at hlevel
    have hpair : [t, u].Sublist tags := by
      simpa [heq] using hlevel.trans List.filter_sublist
    exact List.pairwise_iff_forall_sublist.1 h hpair

/-- Merged tags stand by level, and within a level in the order of the first findings. -/
theorem Merged.pairwise_byLevel (h : Merged findings merged) :
    (byLevel merged).Pairwise fun t u => u.level < t.level ∨ t.level = u.level ∧
      (findings.map Tag.technique).idxOf t.technique < (findings.map Tag.technique).idxOf u.technique := by
  have horder := h.techniques.order
  rw [List.pairwise_map] at horder
  exact Tag.pairwise_byLevel horder

end Tag

/-! ## Classification -/

/-- The tag that a detection becomes, up to its confidence. -/
def Detection.Becomes (x : Detection α) (t : Tag α) : Prop :=
  t.technique = x.technique ∧ (t.level.val : Int) = x.level ∧ t.evidence = x.evidence

theorem Detection.becomes_of_tag {x : Detection α} {t : Tag α} (h : x.tag = .ok t) : x.Becomes t := by
  unfold tag at h
  split at h
  · cases h
  · next level hlevel =>
    obtain ⟨htechnique, hl, hevidence, -⟩ := Tag.make_eq_ok h
    refine ⟨htechnique, ?_, hevidence⟩
    unfold Level.ofInt? at hlevel
    split at hlevel
    · next hrange =>
      cases hlevel
      rw [hl]
      exact Int.toNat_of_nonneg hrange.1
    · cases hlevel

/-- The detections of a technique have the evidence of the tags that they become. -/
theorem flatMap_evidence_ofTechnique {detections : List (Detection α)} {findings : List (Tag α)}
    (h : List.Forall₂ Detection.Becomes detections findings) (technique : Technique) :
    (Tag.ofTechnique technique findings).flatMap Tag.evidence =
      (Detection.ofTechnique technique detections).flatMap Detection.evidence := by
  unfold Tag.ofTechnique Detection.ofTechnique
  induction h with
  | nil => rfl
  | cons hbecomes _ ih =>
    obtain ⟨htechnique, -, hevidence⟩ := hbecomes
    simp only [List.filter_cons, htechnique]
    split
    · rw [List.flatMap_cons, List.flatMap_cons, hevidence, ih]
    · exact ih

theorem map_technique_of_becomes {detections : List (Detection α)} {findings : List (Tag α)}
    (h : List.Forall₂ Detection.Becomes detections findings) :
    findings.map Tag.technique = detections.map Detection.technique := by
  induction h with
  | nil => rfl
  | cons hbecomes _ ih => rw [List.map_cons, List.map_cons, hbecomes.1, ih]

/-- The tags stand for the detections: each technique that was detected has its tag,
with the level of the detections if they share one, and with their evidence. -/
structure Classified (detections : List (Detection α)) (tags : List (Tag α)) : Prop where
  technique_iff : ∀ technique, (∃ t ∈ tags, t.technique = technique) ↔ ∃ x ∈ detections, x.technique = technique
  level_eq : ∀ t ∈ tags, ∀ level : Int,
    (∀ x ∈ detections, x.technique = t.technique → x.level = level) → (t.level.val : Int) = level
  evidence : ∀ t ∈ tags,
    FirstOccurrences ((Detection.ofTechnique t.technique detections).flatMap Detection.evidence) t.evidence

/-- The evidence for a technique is that of its detections. -/
theorem Classified.evidence_iff {detections : List (Detection α)} {tags : List (Tag α)} (h : Classified detections tags)
    {technique : Technique} {e : String} :
    (∃ t ∈ tags, t.technique = technique ∧ e ∈ t.evidence) ↔
      ∃ x ∈ detections, x.technique = technique ∧ e ∈ x.evidence := by
  constructor
  · rintro ⟨t, ht, rfl, he⟩
    obtain ⟨x, hx, he⟩ := List.mem_flatMap.1 (((h.evidence t ht).mem_iff e).1 he)
    obtain ⟨hx, htechnique⟩ := Detection.mem_ofTechnique.1 hx
    exact ⟨x, hx, htechnique, he⟩
  · rintro ⟨x, hx, htechnique, he⟩
    obtain ⟨t, ht, rfl⟩ := (h.technique_iff technique).2 ⟨x, hx, htechnique⟩
    refine ⟨t, ht, rfl, ((h.evidence t ht).mem_iff e).2 ?_⟩
    exact List.mem_flatMap.2 ⟨x, Detection.mem_ofTechnique.2 ⟨hx, htechnique⟩, he⟩

theorem Classified.of_merged {detections : List (Detection α)} {findings merged : List (Tag α)}
    (hone : ∀ x ∈ detections, ∃ e, x.evidence = [e]) (hbecomes : List.Forall₂ Detection.Becomes detections findings)
    (hmerged : Tag.Merged findings merged) : Classified detections (Tag.byLevel merged) := by
  have hfrom : ∀ u ∈ findings, ∃ x ∈ detections, x.Becomes u := fun _ => Chains.exists_of_mem_results hbecomes
  -- sorting by level changes neither which tags there are nor what they hold
  refine ⟨fun technique => ?_, fun t ht level hall => ?_, fun t ht => ?_⟩
  · have hiff := hmerged.mem_map_byLevel_iff technique
    rwa [map_technique_of_becomes hbecomes, List.mem_map, List.mem_map] at hiff
  · obtain ⟨u, hu, hlevel⟩ := (hmerged.joined t (Tag.mem_byLevel.1 ht)).exists_level_eq
    obtain ⟨hu, htechnique⟩ := List.mem_filter.1 hu
    obtain ⟨x, hx, hsame, hx', -⟩ := hfrom u hu
    rw [hlevel, hx']
    exact hall x hx (hsame.symm.trans (of_decide_eq_true htechnique))
  · rw [← flatMap_evidence_ofTechnique hbecomes]
    refine (hmerged.joined t (Tag.mem_byLevel.1 ht)).firstOccurrences fun u hu => ?_
    obtain ⟨x, hx, -, -, hevidence⟩ := hfrom u (List.mem_of_mem_filter hu)
    obtain ⟨e, he⟩ := hone x hx
    rw [hevidence, he]
    exact List.nodup_singleton e

/-- The tags of a diff are what its detections become, merged. -/
theorem merged_of_classify {registry : Registry} {d : Diff} {tags : List (Tag α)} (h : classify registry d = .ok tags) :
    ∃ findings merged, List.Forall₂ Detection.Becomes (detectAll registry d) findings ∧ Tag.Merged findings merged ∧
      tags = Tag.byLevel merged := by
  obtain ⟨findings, hfindings, hmerge⟩ := Chains.bind_eq_ok_iff.1 h
  obtain ⟨merged, hmerged, htags⟩ := Tag.merge_spec hmerge
  have hbecomes := (Chains.forall₂_of_mapM hfindings).imp fun _ _ => Detection.becomes_of_tag
  exact ⟨findings, merged, hbecomes, hmerged, htags⟩

theorem classified_of_classify {registry : Registry} {d : Diff} {tags : List (Tag α)}
    (h : classify registry d = .ok tags) : Classified (detectAll registry d) tags := by
  obtain ⟨findings, merged, hbecomes, hmerged, rfl⟩ := merged_of_classify h
  exact .of_merged (fun _ => exists_evidence_of_mem_detectAll) hbecomes hmerged

end RefactorAudit
