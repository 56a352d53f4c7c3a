import RefactorAudit.Proofs.Refactoring.Rename

/-!
# Tags report the rules that fire

`Fired` says what makes a rule fire, without regard to how detection goes about it;
`firings` lists what fires in the order in which it is detected. Detection finds just
that (`map_verdict_detectAll`), and merging leaves one tag for each technique
(`exists_tag_iff_fired`), with the highest level that fires for it
(`isGreatest_level_of_classify`). The highest levels come first, and within a level what
fired first (`pairwise_of_classify`).
-/

namespace RefactorAudit

open Scalar

/-! ## What fires -/

/-- A rule for the technique, with this level, fires in the diff. A summary that
mentions imports or dependencies counts without a rule. -/
inductive Fired (registry : Registry) (d : Diff) : Technique → Int → Prop where
  | addedKind {s : TechniqueRules} {r : Rule} {n : Node} : s ∈ registry → r ∈ s.rules → n ∈ d.added →
      r.condition = .added → r.kind = some n.kind → Fired registry d s.technique s.level
  | removedKind {s : TechniqueRules} {r : Rule} {n : Node} : s ∈ registry → r ∈ s.rules → n ∈ d.removed →
      r.condition = .removed → r.kind = some n.kind → Fired registry d s.technique s.level
  | addedText {s : TechniqueRules} {r : Rule} {n : Node} {word : String} : s ∈ registry → r ∈ s.rules → n ∈ d.added →
      r.condition = .added → r.text = some word → n.metadata.nameText ≠ "" ∨ n.metadata.imports ≠ [] →
      Text.occursIn (Text.lower word) (Text.lower n.text) = true → Fired registry d s.technique s.level
  | rename {s : TechniqueRules} {r : Rule} {c : ModifiedNode} {reason : Reason} {label : String} : s ∈ registry →
      r ∈ s.rules → c ∈ d.modified → r.condition = .renamed → reason ∈ c.reasons → reason.HasLabel label →
      Text.occursIn "name" (Text.lower label) = true ∨ Text.occursIn "identifier" (Text.lower label) = true →
      Fired registry d s.technique s.level
  | fileText {s : TechniqueRules} {r : Rule} {f : FileChange} {word : String} : s ∈ registry → r ∈ s.rules →
      f ∈ d.files → r.text = some word → Text.lower ("\n".intercalate f.addedLines) ≠ "" →
      Text.occursIn (Text.lower word) (Text.lower ("\n".intercalate f.addedLines)) = true →
      Fired registry d s.technique s.level
  | summary {f : FileChange} : f ∈ d.files →
      Text.occursIn "import" (Text.lower f.summary) = true ∨ Text.occursIn "dependency" (Text.lower f.summary) = true →
      Fired registry d .moveModularize 2

namespace Rule

def firesOnAdded (r : Rule) (n : Node) : Bool :=
  r.condition = .added && (r.wantsKind n.kind || n.metadata.isInformative && r.findsText (Text.lower n.text))

def firesOnRemoved (r : Rule) (n : Node) : Bool := r.condition = .removed && r.wantsKind n.kind

def firesOnModified (r : Rule) (c : ModifiedNode) : Bool := r.condition = .renamed && c.isRenamed

def firesOnFile (r : Rule) (f : FileChange) : Bool := f.addedText != "" && r.findsText f.addedText

theorem wantsKind_iff {r : Rule} {kind : String} : r.wantsKind kind = true ↔ r.kind = some kind := by
  simp [wantsKind]

theorem findsText_iff {r : Rule} {lowered : String} : r.findsText lowered = true ↔
    ∃ word, r.text = some word ∧ Text.occursIn (Text.lower word) lowered = true := by
  simp [findsText, Option.any_eq_true]

theorem firesOnAdded_iff {r : Rule} {n : Node} : r.firesOnAdded n = true ↔
    r.condition = .added ∧ (r.kind = some n.kind ∨ (n.metadata.nameText ≠ "" ∨ n.metadata.imports ≠ []) ∧
      ∃ word, r.text = some word ∧ Text.occursIn (Text.lower word) (Text.lower n.text) = true) := by
  have hinformative : n.metadata.isInformative = true ↔ n.metadata.nameText ≠ "" ∨ n.metadata.imports ≠ [] := by
    simp [Metadata.isInformative, Metadata.isNamed]
  simp only [firesOnAdded, Bool.and_eq_true, Bool.or_eq_true, decide_eq_true_eq, wantsKind_iff, findsText_iff, hinformative]

theorem firesOnRemoved_iff {r : Rule} {n : Node} :
    r.firesOnRemoved n = true ↔ r.condition = .removed ∧ r.kind = some n.kind := by
  simp only [firesOnRemoved, Bool.and_eq_true, decide_eq_true_eq, wantsKind_iff]

theorem firesOnModified_iff {r : Rule} {c : ModifiedNode} : r.firesOnModified c = true ↔
    r.condition = .renamed ∧ ∃ reason ∈ c.reasons, ∃ label, reason.HasLabel label ∧
      (Text.occursIn "name" (Text.lower label) = true ∨ Text.occursIn "identifier" (Text.lower label) = true) := by
  have hrenamed : c.isRenamed = true ↔ ∃ reason ∈ c.reasons, reason.isAboutName = true := List.any_eq_true
  simp only [firesOnModified, Bool.and_eq_true, decide_eq_true_eq, hrenamed, Reason.isAboutName_iff]

theorem firesOnFile_iff {r : Rule} {f : FileChange} : r.firesOnFile f = true ↔
    f.addedText ≠ "" ∧ ∃ word, r.text = some word ∧ Text.occursIn (Text.lower word) f.addedText = true := by
  simp only [firesOnFile, Bool.and_eq_true, bne_iff_ne, findsText_iff]

end Rule

/-- Technique and level of each rule that passes the test, in the order of the registry. -/
def Registry.firing (registry : Registry) (test : Rule → Bool) : List (Technique × Int) :=
  registry.flatMap fun s => (s.rules.filter test).map fun _ => (s.technique, s.level)

/-- What fires in a diff, in the order of detection: the added nodes come first, then
the removed ones, the modified pairs and the files. -/
def firings (registry : Registry) (d : Diff) : List (Technique × Int) :=
  d.added.flatMap (fun n => registry.firing (·.firesOnAdded n)) ++
    d.removed.flatMap (fun n => registry.firing (·.firesOnRemoved n)) ++
    d.modified.flatMap (fun c => registry.firing (·.firesOnModified c)) ++
    d.files.flatMap fun f =>
      registry.firing (·.firesOnFile f) ++ if f.mentionsImports then [(.moveModularize, 2)] else []

variable {registry : Registry} {d : Diff} {technique : Technique} {level : Int}

theorem Registry.mem_firing {test : Rule → Bool} : (technique, level) ∈ registry.firing test ↔
    ∃ s ∈ registry, ∃ r ∈ s.rules, test r = true ∧ s.technique = technique ∧ s.level = level := by
  simp only [firing, List.mem_flatMap, List.mem_map, List.mem_filter, Prod.mk.injEq, and_assoc]

/-- The list holds all that fires and nothing else. -/
theorem mem_firings_iff : (technique, level) ∈ firings registry d ↔ Fired registry d technique level := by
  simp only [firings, List.mem_append, List.mem_flatMap, Registry.mem_firing, Rule.firesOnAdded_iff,
    Rule.firesOnRemoved_iff, Rule.firesOnModified_iff, Rule.firesOnFile_iff]
  constructor
  · rintro (((⟨n, hn, s, hs, r, hr, ⟨hcondition, hkind | ⟨hinformative, word, htext, hoccurs⟩⟩, rfl, rfl⟩ |
      ⟨n, hn, s, hs, r, hr, ⟨hcondition, hkind⟩, rfl, rfl⟩) |
      ⟨c, hc, s, hs, r, hr, ⟨hcondition, reason, hreason, label, hlabel, hname⟩, rfl, rfl⟩) |
      ⟨f, hf, ⟨s, hs, r, hr, ⟨hne, word, htext, hoccurs⟩, rfl, rfl⟩ | hsummary⟩)
    · exact .addedKind hs hr hn hcondition hkind
    · exact .addedText hs hr hn hcondition htext hinformative hoccurs
    · exact .removedKind hs hr hn hcondition hkind
    · exact .rename hs hr hc hcondition hreason hlabel hname
    · exact .fileText hs hr hf htext hne hoccurs
    · split at hsummary
      · next hmentions =>
        obtain ⟨rfl, rfl⟩ := Prod.mk.inj (List.mem_singleton.1 hsummary)
        exact .summary hf (by simpa [FileChange.mentionsImports] using hmentions)
      · cases hsummary
  · intro h
    cases h with
    | addedKind hs hr hn hcondition hkind =>
      exact .inl (.inl (.inl ⟨_, hn, _, hs, _, hr, ⟨hcondition, .inl hkind⟩, rfl, rfl⟩))
    | removedKind hs hr hn hcondition hkind =>
      exact .inl (.inl (.inr ⟨_, hn, _, hs, _, hr, ⟨hcondition, hkind⟩, rfl, rfl⟩))
    | addedText hs hr hn hcondition htext hinformative hoccurs =>
      exact .inl (.inl (.inl ⟨_, hn, _, hs, _, hr, ⟨hcondition, .inr ⟨hinformative, _, htext, hoccurs⟩⟩, rfl, rfl⟩))
    | rename hs hr hc hcondition hreason hlabel hname =>
      exact .inl (.inr ⟨_, hc, _, hs, _, hr, ⟨hcondition, _, hreason, _, hlabel, hname⟩, rfl, rfl⟩)
    | fileText hs hr hf htext hne hoccurs =>
      exact .inr ⟨_, hf, .inl ⟨_, hs, _, hr, ⟨hne, _, htext, hoccurs⟩, rfl, rfl⟩⟩
    | @summary f hf hmentions =>
      have himports : f.mentionsImports = true := by simpa [FileChange.mentionsImports] using hmentions
      refine .inr ⟨f, hf, .inr ?_⟩
      rw [if_pos himports]
      exact List.mem_singleton_self _

/-! ## What is detected -/

variable {α : Type}

/-- Technique and level of a detection. -/
def Detection.verdict (x : Detection α) : Technique × Int := (x.technique, x.level)

theorem map_verdict_filterMap {rules : List Rule} {detect : Rule → Option (Detection α)} {test : Rule → Bool}
    {v : Technique × Int} (h : ∀ r, (detect r).map Detection.verdict = if test r then some v else none) :
    (rules.filterMap detect).map Detection.verdict = (rules.filter test).map fun _ => v := by
  rw [List.map_filterMap]
  induction rules with
  | nil => rfl
  | cons r rest ih =>
    rw [List.filterMap_cons, List.filter_cons, h, ih]
    cases test r <;> rfl

variable [Scalar α]

theorem map_verdict_detectByRule (s : TechniqueRules) (condition : Condition) (n : Node) (lowered? : Option String)
    (r : Rule) :
    (detectByRule s condition n lowered? r : Option (Detection α)).map Detection.verdict =
      if r.condition = condition && (r.wantsKind n.kind || lowered?.any r.findsText) then some (s.technique, s.level)
      else none := by
  unfold detectByRule
  by_cases hcondition : r.condition = condition
  · cases hkind : r.wantsKind n.kind with
    | true => simp [hcondition, Detection.verdict]
    | false => cases hword : lowered?.any r.findsText <;> simp [hcondition, Detection.verdict]
  · simp [hcondition]

theorem map_verdict_detectNode_added (registry : Registry) (n : Node) :
    (detectNode registry n .added : List (Detection α)).map Detection.verdict = registry.firing (·.firesOnAdded n) := by
  rw [detectNode, List.map_flatMap, Registry.firing]
  refine List.flatMap_congr fun s _ => map_verdict_filterMap fun r => ?_
  rw [map_verdict_detectByRule, Rule.firesOnAdded]
  cases n.metadata.isInformative <;> rfl

theorem map_verdict_detectNode_removed (registry : Registry) (n : Node) :
    (detectNode registry n .removed : List (Detection α)).map Detection.verdict =
      registry.firing (·.firesOnRemoved n) := by
  rw [detectNode, List.map_flatMap, Registry.firing]
  refine List.flatMap_congr fun s _ => map_verdict_filterMap fun r => ?_
  -- rules for words do not look at nodes that went
  have hnone : (if n.metadata.isInformative && Condition.removed == .added then some (Text.lower n.text) else none).any
      r.findsText = false := by
    cases n.metadata.isInformative <;> rfl
  rw [map_verdict_detectByRule, hnone, Bool.or_false, Rule.firesOnRemoved]

theorem map_verdict_detectModified (registry : Registry) (c : ModifiedNode) :
    (detectModified registry c : List (Detection α)).map Detection.verdict = registry.firing (·.firesOnModified c) := by
  unfold detectModified Registry.firing Rule.firesOnModified
  cases c.isRenamed with
  | true =>
    simp only [if_true, List.map_flatMap, List.map_map, Bool.and_true]
    rfl
  | false => simp

theorem map_verdict_detectFile (registry : Registry) (f : FileChange) :
    (detectFile registry f : List (Detection α)).map Detection.verdict =
      registry.firing (·.firesOnFile f) ++ if f.mentionsImports then [(.moveModularize, 2)] else [] := by
  unfold detectFile Registry.firing Rule.firesOnFile
  simp only [List.map_append, bne]
  refine congrArg₂ (· ++ ·) ?_ ?_
  · cases f.addedText == "" with
    | true => simp
    | false =>
      simp only [Bool.false_eq_true, if_false, List.map_flatMap, List.map_map, Bool.not_false, Bool.true_and]
      rfl
  · split <;> rfl

/-- Detection finds what fires, in this order. -/
theorem map_verdict_detectAll (registry : Registry) (d : Diff) :
    (detectAll registry d : List (Detection α)).map Detection.verdict = firings registry d := by
  simp only [detectAll, firings, List.map_append, List.map_flatMap, map_verdict_detectNode_added,
    map_verdict_detectNode_removed, map_verdict_detectModified, map_verdict_detectFile]

/-! ## What is reported -/

/-- The place of a technique's first firing. -/
def firstFiring (registry : Registry) (d : Diff) (technique : Technique) : Nat :=
  ((firings registry d).map Prod.fst).idxOf technique

theorem map_technique_detectAll (registry : Registry) (d : Diff) :
    (detectAll registry d : List (Detection α)).map Detection.technique = (firings registry d).map Prod.fst := by
  rw [← map_verdict_detectAll (α := α), List.map_map]
  rfl

theorem exists_detection_iff : (∃ x ∈ (detectAll registry d : List (Detection α)), x.technique = technique ∧ x.level = level) ↔
    Fired registry d technique level := by
  rw [← mem_firings_iff, ← map_verdict_detectAll (α := α), List.mem_map]
  simp only [Detection.verdict, Prod.mk.injEq]

section Tags

variable {tags : List (Tag α)} (h : classify registry d = .ok tags)
include h

theorem exists_tag_iff_fired : (∃ t ∈ tags, t.technique = technique) ↔ ∃ level, Fired registry d technique level := by
  rw [(classified_of_classify h).technique_iff]
  constructor
  · rintro ⟨x, hx, htechnique⟩
    exact ⟨x.level, exists_detection_iff.1 ⟨x, hx, htechnique, rfl⟩⟩
  · rintro ⟨level, hfired⟩
    obtain ⟨x, hx, htechnique, -⟩ := (exists_detection_iff (α := α)).2 hfired
    exact ⟨x, hx, htechnique⟩

/-- A tag has the highest level that fires for its technique. -/
theorem isGreatest_level_of_classify {t : Tag α} (ht : t ∈ tags) :
    IsGreatest {level | Fired registry d t.technique level} (t.level.val : Int) := by
  obtain ⟨findings, merged, hbecomes, hmerged, rfl⟩ := merged_of_classify h
  obtain ⟨⟨u, hu, htechnique, hlevel⟩, hupper⟩ := hmerged.isGreatest_level (Tag.mem_byLevel.1 ht)
  constructor
  · obtain ⟨x, hx, hsame, hx', -⟩ := Chains.exists_of_mem_results hbecomes hu
    exact exists_detection_iff.1 ⟨x, hx, hsame.symm.trans htechnique, by rw [← hx', hlevel]⟩
  · intro level hfired
    obtain ⟨x, hx, htechnique', rfl⟩ := (exists_detection_iff (α := α)).2 hfired
    obtain ⟨w, hw, hsame, hx', -⟩ := Chains.exists_of_mem_results hbecomes.flip hx
    rw [← hx']
    exact_mod_cast hupper ⟨w, hw, hsame.trans htechnique', rfl⟩

theorem nodup_technique_of_classify : (tags.map Tag.technique).Nodup := by
  obtain ⟨findings, merged, -, hmerged, rfl⟩ := merged_of_classify h
  exact hmerged.nodup_byLevel

theorem pairwise_of_classify : tags.Pairwise fun t u => u.level < t.level ∨
    t.level = u.level ∧ firstFiring registry d t.technique < firstFiring registry d u.technique := by
  obtain ⟨findings, merged, hbecomes, hmerged, rfl⟩ := merged_of_classify h
  have horder := hmerged.pairwise_byLevel
  rwa [map_technique_of_becomes hbecomes, map_technique_detectAll] at horder

end Tags

/-- For every diff and every registry with levels from 0 to 4, the tags report exactly
what fires: a technique has a tag if a rule for it fires, its level is the highest that
fires, and tags stand by level, those of one level in the order of their first firing.
Exact numbers rule out that there is no classification. -/
theorem classify_reports_fired (registry : Registry) (hregistry : registry.InRange) (d : Diff) :
    (∀ [Exact α], ∃ tags : List (Tag α), classify registry d = .ok tags) ∧
    ∀ tags : List (Tag α), classify registry d = .ok tags →
      (∀ technique, (∃ t ∈ tags, t.technique = technique) ↔ ∃ level, Fired registry d technique level) ∧
      (∀ t ∈ tags, IsGreatest {level | Fired registry d t.technique level} (t.level.val : Int)) ∧
      (tags.map Tag.technique).Nodup ∧
      tags.Pairwise fun t u => u.level < t.level ∨
        t.level = u.level ∧ firstFiring registry d t.technique < firstFiring registry d u.technique := by
  refine ⟨classify_total hregistry d, fun tags htags => ⟨fun technique => exists_tag_iff_fired htags, ?_, ?_, ?_⟩⟩
  · intro t ht
    exact isGreatest_level_of_classify htags ht
  · exact nodup_technique_of_classify htags
  · exact pairwise_of_classify htags

/-- A technique with two sets of rules, a rule for a kind and a word, a rule for renames
and a rule whose condition nothing meets. -/
def mixedRules : Registry := [
  ⟨.testing, 1, [⟨.added, some "call", some "JEST"⟩]⟩,
  ⟨.layering, 3, [⟨.removed, some "class", some "dao"⟩]⟩,
  ⟨.renameSymbol, 4, [⟨.renamed, none, none⟩]⟩,
  ⟨.testing, 3, [⟨.other "moved", none, some "Mocha"⟩]⟩]

/-- A diff in which every rule of `mixedRules` fires, and the summary. Of the two modified
pairs only one has a label that speaks of a name. -/
def mixedDiff : Diff :=
  let node (kind text : String) (name : Option String) : Node :=
    ⟨0, kind, text, ⟨⟨0, 0⟩, ⟨0, 1⟩⟩, ⟨name, [], []⟩, none, []⟩
  ⟨[node "function" "jest.fn()" (some "f")], [node "class" "" none],
    [⟨node "call" "f" none, node "name" "f" none, [.kind "call" "name"]⟩,
      ⟨node "call" "f" none, node "call" "g" none, [.content, .stated "New IDENTIFIER: g"]⟩],
    [⟨"main", "@@ -0,0 +1 @@\n+run MOCHA\n", "1 imports added", 0, 1, 0, 0⟩], .zero⟩

theorem classify_reports_fired_mixed : mixedRules.InRange ∧
    ∃ tags : List (Tag ℚ), classify mixedRules mixedDiff = .ok tags ∧
      (∃ t ∈ tags, t.technique = .testing ∧ (t.level.val : Int) = 3) ∧
      ∃ t ∈ tags, t.technique = .renameSymbol ∧ (t.level.val : Int) = 4 := by
  have hrange : mixedRules.InRange := by
    unfold Registry.InRange
    decide
  have hfirings : firings mixedRules mixedDiff =
      [(.testing, 1), (.layering, 3), (.renameSymbol, 4), (.testing, 3), (.moveModularize, 2)] := by
    decide +kernel
  obtain ⟨htotal, hspec⟩ := classify_reports_fired (α := ℚ) mixedRules hrange mixedDiff
  obtain ⟨tags, htags⟩ := htotal
  obtain ⟨hiff, hlevel, -⟩ := hspec tags htags
  -- a technique's tag has the highest of its levels in the list
  have htag : ∀ technique level, (technique, level) ∈ firings mixedRules mixedDiff →
      (∀ other, (technique, other) ∈ firings mixedRules mixedDiff → other ≤ level) →
      ∃ t ∈ tags, t.technique = technique ∧ (t.level.val : Int) = level := by
    intro technique level hmem hmax
    obtain ⟨t, ht, rfl⟩ := (hiff technique).2 ⟨level, mem_firings_iff.1 hmem⟩
    refine ⟨t, ht, rfl, (hlevel t ht).unique ⟨mem_firings_iff.1 hmem, fun other hfired => ?_⟩⟩
    exact hmax other (mem_firings_iff.2 hfired)
  rw [hfirings] at htag
  refine ⟨hrange, tags, htags, htag .testing 3 (by decide) ?_, htag .renameSymbol 4 (by decide) ?_⟩
  · intro other hother
    simp at hother
    omega
  · intro other hother
    simp at hother
    omega

end RefactorAudit
