import RefactorAudit.Proofs.Text.Plain
import RefactorAudit.Refactoring.Detect

/-!
# What a summary says about imports

A summary is a text, and whether imports changed is found by searching it for words.
The search is right for all counts (`occursIn_import_iff`). A count of imports that is
told brings its word into the text. If none is told, no `p` is in the text, and the
word needs one. The other word that is searched for is never there, since no summary
has a `y` (`mentionsImports_eq`).
-/

namespace RefactorAudit

/-- How many imports the nodes have together. -/
def importCount (nodes : List Node) : Nat := (nodes.map (·.metadata.imports.length)).foldr (· + ·) 0

theorem importCount_eq_zero_iff {nodes : List Node} : importCount nodes = 0 ↔ ∀ n ∈ nodes, n.metadata.imports = [] := by
  unfold importCount
  induction nodes with
  | nil => simp
  | cons n rest ih => simp [ih]

namespace Summary

variable {added removed : List Node} {modified : List ModifiedNode}

/-- The counts that a summary tells where they are not 0. -/
def parts (added removed : List Node) (modified : List ModifiedNode) : List (Nat × String) :=
  [(added.length, "nodes added"), (removed.length, "nodes removed"), (modified.length, "nodes modified"),
    (importCount added, "imports added"), (importCount removed, "imports removed")]

def nodeWords : List String := ["nodes added", "nodes removed", "nodes modified"]

def importWords : List String := ["imports added", "imports removed"]

def told (parts : List (Nat × String)) : List (Nat × String) := parts.filter (·.1 != 0)

def tell (p : Nat × String) : String := s!"{p.1} {p.2}"

theorem structuralSummary_eq : structuralSummary added removed modified =
    if (told (parts added removed modified)).isEmpty then "No structural changes"
    else ", ".intercalate ((told (parts added removed modified)).map tell) := rfl

theorem mem_told {ps : List (Nat × String)} {p : Nat × String} : p ∈ told ps ↔ p ∈ ps ∧ p.1 ≠ 0 := by
  simp [told]

theorem word_mem {p : Nat × String} (hp : p ∈ parts added removed modified) : p.2 ∈ nodeWords ∨ p.2 ∈ importWords := by
  simp only [parts, List.mem_cons, List.not_mem_nil, or_false] at hp
  rcases hp with rfl | rfl | rfl | rfl | rfl <;> simp [nodeWords, importWords]

theorem exists_importWord_iff : (∃ p ∈ told (parts added removed modified), p.2 ∈ importWords) ↔
    importCount added ≠ 0 ∨ importCount removed ≠ 0 := by
  constructor
  · rintro ⟨p, hp, hword⟩
    obtain ⟨hp, hne⟩ := mem_told.1 hp
    simp only [parts, List.mem_cons, List.not_mem_nil, or_false] at hp
    rcases hp with rfl | rfl | rfl | rfl | rfl
    · simp [importWords] at hword
    · simp [importWords] at hword
    · simp [importWords] at hword
    · exact .inl hne
    · exact .inr hne
  · rintro (hne | hne)
    · exact ⟨(importCount added, "imports added"), mem_told.2 ⟨by simp [parts], hne⟩, by simp [importWords]⟩
    · exact ⟨(importCount removed, "imports removed"), mem_told.2 ⟨by simp [parts], hne⟩, by simp [importWords]⟩

/-! ## The characters of a summary -/

theorem toList_tell (p : Nat × String) : (tell p).toList = p.1.repr.toList ++ ' ' :: p.2.toList := by
  change (p.1.repr ++ " " ++ p.2).toList = _
  simp

/-- Whatever holds of digits, of the separators and of the words that are told holds
of the whole summary. -/
theorem forall_mem_tell {P : Char → Prop} (hdigit : ∀ c : Char, c.isDigit = true → P c) (hblank : P ' ') (hcomma : P ',')
    {ps : List (Nat × String)} (hwords : ∀ p ∈ ps, ∀ c ∈ p.2.toList, P c) :
    ∀ c ∈ (", ".intercalate (ps.map tell)).toList, P c := by
  refine Text.forall_mem_intercalate (by simp [hblank, hcomma]) fun x hx => ?_
  obtain ⟨p, hp, rfl⟩ := List.mem_map.1 hx
  rw [toList_tell, Nat.toList_repr]
  intro c hc
  rcases List.mem_append.1 hc with hc | hc
  · exact hdigit c (Nat.isDigit_of_mem_toDigits (by decide) (by decide) hc)
  · rcases List.mem_cons.1 hc with rfl | hc
    · exact hblank
    · exact hwords p hp c hc

theorem isPlain_of_mem_told : ∀ p ∈ told (parts added removed modified), ∀ c ∈ p.2.toList, Text.IsPlain c := by
  have hplain : ∀ w ∈ nodeWords ++ importWords, w.toList.all (Text.IsPlain ·) = true := by decide
  intro p hp c hc
  have hall := hplain p.2 (List.mem_append.2 (word_mem (mem_told.1 hp).1))
  exact of_decide_eq_true (List.all_eq_true.1 hall c hc)

theorem lower_told : Text.lower (", ".intercalate ((told (parts added removed modified)).map tell)) =
    ", ".intercalate ((told (parts added removed modified)).map tell) :=
  Text.lower_eq_self (forall_mem_tell (fun _ => Text.isPlain_of_isDigit) (by decide) (by decide) isPlain_of_mem_told)

/-! ## The words of a summary -/

/-- A word that is told stands in the summary. -/
theorem occursIn_of_told {ps : List (Nat × String)} {p : Nat × String} (hp : p ∈ ps) {word : String}
    (hword : word.toList <:+: p.2.toList) : Text.occursIn word (", ".intercalate (ps.map tell)) = true := by
  have hpart : p.2.toList <:+: (tell p).toList := by
    rw [toList_tell, List.append_cons]
    exact (List.suffix_append _ _).isInfix
  exact Text.occursIn_iff.2 ((hword.trans hpart).trans (Text.infix_intercalate (List.mem_map_of_mem hp)))

/-- A word with a character that is neither a digit nor told is not in the summary. -/
theorem not_occursIn_of_told {c : Char} (hc : c.isDigit = false ∧ c ≠ ' ' ∧ c ≠ ',') {ps : List (Nat × String)}
    (h : ∀ p ∈ ps, c ∉ p.2.toList) {word : String} (hword : c ∈ word.toList) :
    Text.occursIn word (", ".intercalate (ps.map tell)) = false := by
  obtain ⟨hdigit, hblank, hcomma⟩ := hc
  have hdigits : ∀ x : Char, x.isDigit = true → x ≠ c := by
    rintro x hx rfl
    rw [hdigit] at hx
    cases hx
  have hwords : ∀ p ∈ ps, ∀ x ∈ p.2.toList, x ≠ c := by
    rintro p hp x hx rfl
    exact h p hp hx
  exact Text.occursIn_eq_false hword fun hc => forall_mem_tell hdigits hblank.symm hcomma.symm hwords c hc rfl

/-- The summary of a change has the word exactly if nodes with imports came or went. -/
theorem occursIn_import_iff : Text.occursIn "import" (structuralSummary added removed modified) = true ↔
    importCount added ≠ 0 ∨ importCount removed ≠ 0 := by
  rw [structuralSummary_eq, ← exists_importWord_iff]
  split
  · next hempty =>
    rw [List.isEmpty_iff.1 hempty]
    simp only [List.not_mem_nil, false_and, exists_false, iff_false]
    decide
  · constructor
    · -- if no count of imports is told, the words left have no `p`
      intro hoccurs
      refine Classical.byContradiction fun hnone => ?_
      have hwords : ∀ w ∈ nodeWords, 'p' ∉ w.toList := by decide
      have hnodes : ∀ p ∈ told (parts added removed modified), p.2 ∈ nodeWords := by
        intro p hp
        refine (word_mem (mem_told.1 hp).1).resolve_right fun himport => ?_
        exact hnone ⟨p, hp, himport⟩
      rw [not_occursIn_of_told (by decide) (fun p hp => hwords p.2 (hnodes p hp)) (by decide)] at hoccurs
      cases hoccurs
    · rintro ⟨p, hp, himport⟩
      have hwithin : ∀ w ∈ importWords, "import".toList <:+: w.toList := by decide
      exact occursIn_of_told hp (hwithin p.2 himport)

theorem mentionsImports_eq {f : FileChange} (h : f.summary = structuralSummary added removed modified) :
    f.mentionsImports = Text.occursIn "import" f.summary := by
  rw [FileChange.mentionsImports, h, structuralSummary_eq]
  split
  · decide +kernel
  · have hwords : ∀ w ∈ nodeWords ++ importWords, 'y' ∉ w.toList := by decide
    have htold : ∀ p ∈ told (parts added removed modified), 'y' ∉ p.2.toList := fun p hp =>
      hwords p.2 (List.mem_append.2 (word_mem (mem_told.1 hp).1))
    have hnone : Text.occursIn "dependency" (", ".intercalate ((told (parts added removed modified)).map tell)) = false :=
      not_occursIn_of_told (by decide) htold (by decide)
    rw [lower_told, hnone, Bool.or_false]

end Summary

end RefactorAudit
