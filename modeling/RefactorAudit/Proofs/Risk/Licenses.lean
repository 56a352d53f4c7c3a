import RefactorAudit.Proofs.Risk.Flag
import RefactorAudit.Proofs.Spelling

/-!
# Mentions of a license

The short name of a license counts where a word can start: `mentions` counts the places
where its letters stand and no word character stands before them. A match takes a
version behind the name, but no character of a version and no other letter of the name
is one that a name starts with. So a match never hides the next one, and matches and
mentions are as many (`count_licenseMark`). A name inside of another one, as in `AGPL`,
is no mention.
-/

namespace RefactorAudit

/-! ## Letters -/

theorem isUpper_iff (c : Char) : c.isUpper = true ↔ 65 ≤ c.toNat ∧ c.toNat ≤ 90 := by
  change decide ('A'.val ≤ c.val ∧ c.val ≤ 'Z'.val) = true ↔ _
  simp [UInt32.le_iff_toNat_le, ← Char.toNat_val]

theorem isLower_iff (c : Char) : c.isLower = true ↔ 97 ≤ c.toNat ∧ c.toNat ≤ 122 := by
  change (decide ('a'.val ≤ c.val) && decide (c.val ≤ 'z'.val)) = true ↔ _
  simp [UInt32.le_iff_toNat_le, ← Char.toNat_val]

theorem isWord_of_letter {c : Char} (h : c.isUpper = true ∨ c.isLower = true) : Text.isWord c = true := by
  have hascii : c.toNat < 0x80 := by
    rw [isUpper_iff, isLower_iff] at h
    omega
  have halpha : c.isAlpha = true := Bool.or_eq_true_iff.2 h
  simp [Text.isWord, hascii, Char.isAlphanum, halpha]

/-- A lower-case letter only stands for word characters. -/
theorem isWord_of_isLower_foldCase {c : Char} (h : (foldCase c).isLower = true) : Text.isWord c = true := by
  have hspecial : Text.isWord '\u017f' = true ∧ Text.isWord '\u212a' = true ∧ Text.isWord '\u0130' = true ∧
      Text.isWord '\u0131' = true := by decide +kernel
  unfold foldCase at h
  split at h
  · simp_all
  split at h
  · simp_all
  split at h
  · next hc =>
    rcases (by simpa using hc : c = '\u0130' ∨ c = '\u0131') with rfl | rfl
    · exact hspecial.2.2.1
    · exact hspecial.2.2.2
  · unfold Char.toLower at h
    split at h
    · next hupper =>
      refine isWord_of_letter (.inl ((isUpper_iff c).2 ?_))
      exact ⟨UInt32.le_iff_toNat_le.1 hupper.1, UInt32.le_iff_toNat_le.1 hupper.2⟩
    · exact isWord_of_letter (.inr h)

theorem foldCase_of_digit {c : Char} (hlow : '0' ≤ c) (hhigh : c ≤ '9') : foldCase c = c := by
  have hbounds : 48 ≤ c.toNat ∧ c.toNat ≤ 57 := ⟨UInt32.le_iff_toNat_le.1 hlow, UInt32.le_iff_toNat_le.1 hhigh⟩
  have hother : ∀ d : Char, 57 < d.toNat → c ≠ d := by
    rintro d hd rfl
    omega
  have hlower : c.toLower = c := by
    unfold Char.toLower
    rw [dif_neg]
    rintro ⟨hupper, -⟩
    have : 65 ≤ c.toNat := UInt32.le_iff_toNat_le.1 hupper
    omega
  simp [foldCase, hlower, hother '\u017f' (by decide), hother '\u212a' (by decide), hother '\u0130' (by decide),
    hother '\u0131' (by decide)]

namespace Risk

open Pattern

/-! ## Short names -/

/-- The short name of a license as a word, with a version or without. -/
def licenseMark (name : String) : Pattern := .wordEdge :: caseless name ++ licenseVersion

/-- The letters of the name stand behind the place, letter case aside, and no word
character stands before it. -/
def mentionedAt (name : String) (before : Option Char) (ahead : List Char) : Bool :=
  (ahead.take name.toList.length).map foldCase == name.toList.map foldCase && !before.any Text.isWord

/-- How often the source mentions the name. -/
def mentions (name source : String) : Nat := placesFrom (mentionedAt name) none source.toList

theorem licenseVersion_takes_nil (before : Option Char) (rest : List Char) : licenseVersion.Takes before [] rest := by
  have hnone : ∀ (cls : CharClass) (before : Option Char) (rest : List Char), (atMostOne cls).Takes before [] rest := by
    intro cls before rest
    exact (takes_atMostOne_iff ..).2 (.inl rfl)
  exact ⟨[], [], rfl, hnone _ _ _, [], [], rfl, hnone _ _ _, [], [], rfl, hnone _ _ _, rfl⟩

/-- No letter but `v` stands in a version. -/
theorem foldCase_ne_of_licenseVersion {before : Option Char} {version rest : List Char} {letter d : Char}
    (h : licenseVersion.Takes before version rest) (hletter : letter.isLower = true) (hv : letter ≠ 'v')
    (hd : d ∈ version) : foldCase d ≠ letter := by
  obtain ⟨first, tail, rfl, hfirst, second, tail, rfl, hsecond, third, tail, rfl, hthird, rfl⟩ := h
  rw [joint, takes_atMostOne_iff] at hfirst
  rw [takes_atMostOne_iff] at hsecond hthird
  rintro rfl
  rw [List.append_nil, List.mem_append, List.mem_append] at hd
  rcases hd with hd | hd | hd
  · rcases hfirst with rfl | ⟨c, hc, rfl⟩
    · cases hd
    · obtain rfl := List.mem_singleton.1 hd
      rcases (by simpa [CharClass.has] using hc : d = '_' ∨ d = '-') with rfl | rfl
      · exact absurd hletter (by decide)
      · exact absurd hletter (by decide)
  · rcases hsecond with rfl | ⟨c, hc, rfl⟩
    · cases hd
    · obtain rfl := List.mem_singleton.1 hd
      exact hv (eq_of_beq hc)
  · rcases hthird with rfl | ⟨c, hc, rfl⟩
    · cases hd
    · obtain rfl := List.mem_singleton.1 hd
      obtain ⟨hlow, hhigh⟩ : '0' ≤ d ∧ d ≤ '9' := by simpa [CharClass.has] using hc
      rw [foldCase_of_digit hlow hhigh] at hletter
      have hbound : d.toNat ≤ 57 := UInt32.le_iff_toNat_le.1 hhigh
      have hletters := ((isLower_iff d).1 hletter).1
      omega

theorem takes_licenseMark_iff (name : String) (before : Option Char) (taken rest : List Char) :
    (licenseMark name).Takes before taken rest ↔ ∃ letters version, taken = letters ++ version ∧
      SameLetters letters name ∧ before.any Text.isWord ≠ (taken ++ rest).head?.any Text.isWord ∧
      licenseVersion.Takes (lastChar before letters) version rest := by
  simp only [licenseMark, takes_append, Takes, Piece.Takes, takes_caseless_iff]
  constructor
  · rintro ⟨-, version, rfl, ⟨-, letters, rfl, ⟨rfl, hedge⟩, hletters⟩, hversion⟩
    rw [← List.append_assoc] at hedge
    exact ⟨letters, version, rfl, hletters, hedge, hversion⟩
  · rintro ⟨letters, version, rfl, hletters, hedge, hversion⟩
    rw [List.append_assoc] at hedge
    exact ⟨letters, version, rfl, ⟨[], letters, rfl, ⟨rfl, hedge⟩, hletters⟩, hversion⟩

/-- The name starts with the letter, and there is no other one like it in the name or in
a version. -/
structure OpensOnly (letter : Char) (name : String) : Prop where
  isLower : letter.isLower = true
  ne_v : letter ≠ 'v'
  others : ∃ others, name.toList.map foldCase = letter :: others ∧ letter ∉ others

variable {letter : Char} {name : String} {before : Option Char} {letters : List Char}

theorem OpensOnly.exists_cons (h : OpensOnly letter name) (hsame : SameLetters letters name) :
    ∃ c others, letters = c :: others ∧ foldCase c = letter ∧ ∀ d ∈ others, foldCase d ≠ letter := by
  obtain ⟨others, hname, hnot⟩ := h.others
  rw [SameLetters, hname] at hsame
  cases letters with
  | nil => simp at hsame
  | cons c cs =>
    obtain ⟨hc, rfl⟩ : foldCase c = letter ∧ cs.map foldCase = others := by simpa using hsame
    refine ⟨c, cs, rfl, hc, ?_⟩
    rintro d hd rfl
    exact hnot (List.mem_map_of_mem hd)

/-- The letter is only found where a match starts. -/
theorem OpensOnly.takes_cons (h : OpensOnly letter name) {c : Char} {taken rest : List Char}
    (htakes : (licenseMark name).Takes before (c :: taken) rest) :
    foldCase c = letter ∧ ∀ d ∈ taken, foldCase d ≠ letter := by
  obtain ⟨letters, version, hsplit, hsame, -, hversion⟩ := (takes_licenseMark_iff ..).1 htakes
  obtain ⟨x, others, rfl, hx, hothers⟩ := h.exists_cons hsame
  obtain ⟨rfl, rfl⟩ : c = x ∧ taken = others ++ version := by simpa using hsplit
  refine ⟨hx, fun d hd => ?_⟩
  rcases List.mem_append.1 hd with hd | hd
  · exact hothers d hd
  · exact foldCase_ne_of_licenseVersion hversion h.isLower h.ne_v hd

theorem OpensOnly.consumes (h : OpensOnly letter name) : (licenseMark name).Consumes := by
  rintro before taken rest htakes rfl
  obtain ⟨letters, version, hsplit, hsame, -⟩ := (takes_licenseMark_iff ..).1 htakes
  obtain ⟨c, others, rfl, -⟩ := h.exists_cons hsame
  simp at hsplit

theorem OpensOnly.isSome_match? (h : OpensOnly letter name) (before : Option Char) (cs : List Char) :
    ((licenseMark name).match? ⟨before, cs, 0⟩).isSome = mentionedAt name before cs := by
  rw [Bool.eq_iff_iff, isSome_match?_iff, mentionedAt, Bool.and_eq_true, beq_iff_eq, Bool.not_eq_true']
  constructor
  · rintro ⟨taken, rest, hsplit, htakes⟩
    obtain ⟨letters, version, rfl, hsame, hedge, -⟩ := (takes_licenseMark_iff ..).1 htakes
    obtain ⟨c, others, rfl, hc, -⟩ := h.exists_cons hsame
    obtain rfl : cs = c :: others ++ version ++ rest := hsplit
    have hlength : (c :: others).length = name.toList.length := by simpa using congrArg List.length hsame
    have hword : Text.isWord c = true := isWord_of_isLower_foldCase (hc ▸ h.isLower)
    refine ⟨?_, by simpa [hword] using hedge⟩
    rw [← hlength, List.append_assoc, List.take_left]
    exact hsame
  · rintro ⟨hsame, hbefore⟩
    obtain ⟨c, others, hletters, hc, -⟩ := h.exists_cons hsame
    have hword : Text.isWord c = true := isWord_of_isLower_foldCase (hc ▸ h.isLower)
    refine ⟨cs.take name.toList.length, cs.drop name.toList.length, (List.take_append_drop ..).symm, ?_⟩
    refine (takes_licenseMark_iff ..).2 ⟨_, [], (List.append_nil _).symm, hsame, ?_, licenseVersion_takes_nil _ _⟩
    rw [hletters]
    simp [hbefore, hword]

/-- Matches of a short name are its mentions. -/
theorem OpensOnly.count_licenseMark (h : OpensOnly letter name) (source : String) :
    (licenseMark name).count source = mentions name source := by
  have hopens : ∀ before c taken rest, (licenseMark name).Takes before (c :: taken) rest →
      (foldCase c == letter) = true ∧ ∀ d ∈ taken, (foldCase d == letter) = false := by
    intro before c taken rest htakes
    obtain ⟨hc, hothers⟩ := h.takes_cons htakes
    exact ⟨beq_iff_eq.2 hc, fun d hd => beq_eq_false_iff_ne.2 (hothers d hd)⟩
  rw [Pattern.count, countFrom_eq_placesFrom h.consumes _ hopens 0 none _ (by simp), mentions]
  congr 1
  funext before cs
  exact h.isSome_match? before cs

/-! ## The flags of the GPL -/

theorem opensOnly_gpl : OpensOnly 'g' "gpl" := ⟨by decide, by decide, ['p', 'l'], by decide, by decide⟩

def gplMentions (source : String) : Nat := mentions "gpl" source

/-- The license by its full name, with `_`, a space, `-` or nothing between two words. -/
def gnuName : Pattern := joined ['_', ' ', '-'] ["gnu", "general", "public", "license"]

theorem gpl_patterns : gpl.patterns = [licenseMark "gpl", gnuName] := by
  simp [gpl, licenseMark, gnuName, joined, publicLicense, gap]

theorem count_gnuName_pos_iff (source : String) :
    0 < gnuName.count source ↔ SpelledIn ['_', ' ', '-'] ["gnu", "general", "public", "license"] source := by
  have hone : Piece.one (.anyCase 'g') ∈ gnuName := by simp [gnuName, joined, caseless]
  rw [count_pos_iff (consumes_of_one hone), gnuName, standsIn_joined_iff]

/-- A flag that warns of the GPL. -/
def Flag.IsGpl (f : Flag) : Prop :=
  ∃ n : Nat, f.description = s!"GPL license may require source code disclosure ({n} occurrences)"

/-- All signatures but that of the GPL. -/
def otherSignatures : List Signature :=
  security ++ [agpl, copyleft, proprietary] ++ compatibility ++ performance ++ maintainability

theorem exists_of_mem_findings {options : ScanOptions} {source : String} {f : Flag} (h : f ∈ findings options source) :
    ∃ s, (s = gpl ∨ s ∈ otherSignatures) ∧ ∃ p ∈ s.patterns, s.flag? p source = some f := by
  unfold findings at h
  split at h
  · have hfamily : f ∈ scanFamily (security ++ licenses ++ compatibility ++ (performance ++ maintainability)) source := by
      simp only [scanFamily, List.flatMap_append, List.mem_append] at h ⊢
      rcases h with h | h
      · exact .inl h
      · split at h
        · exact .inr (List.mem_append.1 h)
        · cases h
    obtain ⟨s, hs, p, hp, hflag⟩ := (mem_scanFamily_iff ..).1 hfamily
    refine ⟨s, ?_, p, hp, hflag⟩
    simp only [licenses, otherSignatures, List.mem_append, List.mem_cons] at hs ⊢
    grind
  · cases h

theorem head?_describe {s : Signature} (h : s.finding ≠ "") (n : Nat) :
    (s.describe n).toList.head? = s.finding.toList.head? := by
  have hne : s.finding.toList ≠ [] := fun hnil => h (String.toList_eq_nil_iff.1 hnil)
  obtain ⟨c, cs, hfinding⟩ := List.exists_cons_of_ne_nil hne
  change (s.finding ++ " (" ++ toString n ++ " occurrences)").toList.head? = _
  simp [hfinding]

/-- Only the signature of the GPL warns of it. -/
theorem not_isGpl_of_mem_otherSignatures {s : Signature} (hs : s ∈ otherSignatures) {p : Pattern} {source : String}
    {f : Flag} (hflag : s.flag? p source = some f) : ¬f.IsGpl := by
  rintro ⟨n, hdescription⟩
  have hfindings : ∀ s ∈ otherSignatures, s.finding ≠ "" ∧ s.finding.toList.head? ≠ some 'G' := by decide +kernel
  obtain ⟨-, rfl⟩ := (flag?_eq_some_iff ..).1 hflag
  have hsame : s.describe (p.count source) = gpl.describe n := hdescription
  apply (hfindings s hs).2
  rw [← head?_describe (hfindings s hs).1 (p.count source), hsame, head?_describe (by decide)]
  decide

theorem mentioned_of_isGpl {options : ScanOptions} {source : String} {f : Flag} (hf : f ∈ findings options source)
    (hgpl : f.IsGpl) :
    0 < gplMentions source ∨ SpelledIn ['_', ' ', '-'] ["gnu", "general", "public", "license"] source := by
  obtain ⟨s, rfl | hs, p, hp, hflag⟩ := exists_of_mem_findings hf
  · obtain ⟨⟨hcount, -⟩, -⟩ := (flag?_eq_some_iff ..).1 hflag
    rw [gpl_patterns, List.mem_cons, List.mem_singleton] at hp
    rcases hp with rfl | rfl
    · rw [opensOnly_gpl.count_licenseMark] at hcount
      exact .inl hcount
    · exact .inr ((count_gnuName_pos_iff source).1 hcount)
  · exact absurd hgpl (not_isGpl_of_mem_otherSignatures hs hflag)

/-- A text in which all places with the letters `gpl` belong to `agpl` does not mention
the GPL. -/
theorem gplMentions_eq_zero {source : String}
    (h : ∀ i < source.toList.length, ((source.toList.drop i).take 3).map foldCase = ['g', 'p', 'l'] →
      (source.toList.take i).getLast?.map foldCase = some 'a') : gplMentions source = 0 := by
  rw [gplMentions, mentions, placesFrom, List.countP_eq_zero]
  intro i hi hmentioned
  rw [mentionedAt, Bool.and_eq_true, beq_iff_eq, Bool.not_eq_true', lastChar_none] at hmentioned
  obtain ⟨c, hlast, hc⟩ := Option.map_eq_some_iff.1 (h i (List.mem_range.1 hi) hmentioned.1)
  have hword : Text.isWord c = true := isWord_of_isLower_foldCase (by rw [hc]; decide)
  rw [hlast, Option.any_some, hword] at hmentioned
  cases hmentioned.2

/-- The first pattern of the GPL raises a flag with the number of mentions, exactly if
there is one: `gpl` in any letter case, where no word character stands before it. It
stands first among the flags for licenses. Where `gpl` only stands in `agpl`, and the
license is not spelled out, no scan warns of the GPL. -/
theorem gpl_flag_counts_mentions (source : String) :
    scanFamily licenses source = (gpl.flag? (licenseMark "gpl") source).toList ++
      (gpl.flag? gnuName source).toList ++ scanFamily [agpl, copyleft, proprietary] source ∧
    (∀ f, gpl.flag? (licenseMark "gpl") source = some f ↔ 1 ≤ gplMentions source ∧
      f = ⟨.license, .high, s!"GPL license may require source code disclosure ({gplMentions source} occurrences)",
        licenseSuggestion⟩) ∧
    (gpl.flag? (licenseMark "gpl") source = none ↔ gplMentions source = 0) ∧
    ((∀ i < source.toList.length, ((source.toList.drop i).take 3).map foldCase = ['g', 'p', 'l'] →
        (source.toList.take i).getLast?.map foldCase = some 'a') →
      ¬SpelledIn ['_', ' ', '-'] ["gnu", "general", "public", "license"] source →
      (∀ f ∈ scanFamily licenses source, ¬f.IsGpl) ∧ ∀ options, ∀ f ∈ scan options source, ¬f.IsGpl) := by
  have hcount : (licenseMark "gpl").count source = gplMentions source := opensOnly_gpl.count_licenseMark source
  refine ⟨?_, ?_, ?_, ?_⟩
  · rw [scanFamily, licenses, List.flatMap_cons, gpl_patterns, ← scanFamily, List.filterMap_cons, List.filterMap_cons]
    cases gpl.flag? (licenseMark "gpl") source <;> cases gpl.flag? gnuName source <;> rfl
  · intro f
    rw [flag?_eq_some_iff, hcount]
    exact and_congr_left fun _ => and_self_iff
  · rw [Signature.flag?, hcount]
    split
    · next h => simp [Nat.ne_of_gt h.1]
    · next h => exact iff_of_true rfl (Nat.eq_zero_of_not_pos fun hpos => h ⟨hpos, hpos⟩)
  · intro hinside hspelled
    have hnone : ∀ options, ∀ f ∈ findings options source, ¬f.IsGpl := by
      intro options f hf hgpl
      rcases mentioned_of_isGpl hf hgpl with hmentioned | hgnu
      · rw [gplMentions_eq_zero hinside] at hmentioned
        cases hmentioned
      · exact hspelled hgnu
    refine ⟨fun f hf => hnone ⟨true, false⟩ f ?_, fun options f hf => hnone options f ?_⟩
    · simp [findings, hf]
    · exact (keepsFirst_dedup _).sublist.subset hf

/-- Two mentions next to each other, and two names that go on in front; in the second
text the letters only stand in other names. -/
theorem gpl_flag_counts_mentions_adjacent :
    gplMentions "GPL-gplv2 xgpl AGPL" = 2 ∧
    gpl.flag? (licenseMark "gpl") "GPL-gplv2 xgpl AGPL" =
      some ⟨.license, .high, "GPL license may require source code disclosure (2 occurrences)", licenseSuggestion⟩ ∧
    gplMentions "AGPL-3.0, agplv2" = 0 ∧ ∀ f ∈ scan ⟨true, true⟩ "AGPL-3.0, agplv2", ¬f.IsGpl := by
  have htwo : gplMentions "GPL-gplv2 xgpl AGPL" = 2 := by decide +kernel
  have hinside : ∀ i < "AGPL-3.0, agplv2".toList.length,
      (("AGPL-3.0, agplv2".toList.drop i).take 3).map foldCase = ['g', 'p', 'l'] →
        ("AGPL-3.0, agplv2".toList.take i).getLast?.map foldCase = some 'a' := by decide +kernel
  have hspelled : ¬SpelledIn ['_', ' ', '-'] ["gnu", "general", "public", "license"] "AGPL-3.0, agplv2" := by
    rw [← count_gnuName_pos_iff]
    decide +kernel
  obtain ⟨-, hflag, -, -⟩ := gpl_flag_counts_mentions "GPL-gplv2 xgpl AGPL"
  obtain ⟨-, -, -, hnone⟩ := gpl_flag_counts_mentions "AGPL-3.0, agplv2"
  refine ⟨htwo, (hflag _).2 ⟨by rw [htwo]; decide, by rw [htwo]; rfl⟩, gplMentions_eq_zero hinside, ?_⟩
  exact (hnone hinside hspelled).2 ⟨true, true⟩

end Risk

end RefactorAudit
