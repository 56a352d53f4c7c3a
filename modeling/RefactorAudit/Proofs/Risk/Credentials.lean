import RefactorAudit.Proofs.Risk.Flag
import RefactorAudit.Proofs.Spelling

/-!
# Credentials are found wherever they stand

A credential in a source is a name for it, `=`, and a string literal that is not empty.
The pattern of its name stands there whatever comes before and behind, so the pattern
is counted at least once: an earlier match may swallow the credential, but then it
counts itself. Dropping duplicates keeps a flag of the same description.
-/

namespace RefactorAudit.Risk

open Pattern

/-- The names of credentials by their words. -/
def credentialNames : List (List String) :=
  [["password"], ["secret"], ["token"], ["api", "key"], ["access", "key"], ["private", "key"]]

/-- A credential as it is written: its name, letter case aside and with `_`, `-` or
nothing between two words, and its value in quotes of either sort. -/
structure Credential where
  words : List String
  words_mem : words ∈ credentialNames
  name : String
  name_spells : Spells ['_', '-'] words name.toList
  spaceBefore : String
  spaceBefore_blank : ∀ c ∈ spaceBefore.toList, Text.isBlank c = true
  spaceAfter : String
  spaceAfter_blank : ∀ c ∈ spaceAfter.toList, Text.isBlank c = true
  opening : Char
  opening_mem : opening ∈ ['"', '\'']
  value : String
  value_ne_empty : value ≠ ""
  value_unquoted : ∀ c ∈ value.toList, c ∉ ['"', '\'']
  closing : Char
  closing_mem : closing ∈ ['"', '\'']

namespace Credential

/-- The text after the name. -/
def assignment (c : Credential) : String :=
  c.spaceBefore ++ "=" ++ c.spaceAfter ++ c.opening.toString ++ c.value ++ c.closing.toString

def text (c : Credential) : String := c.name ++ c.assignment

theorem takes_assigned (c : Credential) (before : Option Char) (rest : List Char) :
    assigned.Takes before c.assignment.toList rest := by
  have hsplit : c.assignment.toList = c.spaceBefore.toList ++ (['='] ++ (c.spaceAfter.toList ++ ([c.opening] ++
      (c.value.toList ++ ([c.closing] ++ []))))) := by
    simp [assignment]
  have hquote : ∀ q ∈ ['"', '\''], (CharClass.among quotes).has q = true := by
    intro q hq
    simpa [CharClass.has, quotes] using hq
  have hvalue : c.value.toList ≠ [] := by
    intro h
    exact c.value_ne_empty (String.toList_eq_nil_iff.1 h)
  rw [hsplit]
  refine ⟨_, _, rfl, ?before, _, _, rfl, ?equals, _, _, rfl, ?after, _, _, rfl, ?opening, _, _, rfl, ?value, _, _, rfl,
    ?closing, rfl⟩
  case before => exact ⟨Nat.zero_le _, withinLimit_none _, c.spaceBefore_blank⟩
  case equals => exact ⟨'=', rfl, rfl⟩
  case after => exact ⟨Nat.zero_le _, withinLimit_none _, c.spaceAfter_blank⟩
  case opening => exact ⟨c.opening, hquote _ c.opening_mem, rfl⟩
  case value =>
    refine ⟨List.length_pos_iff.2 hvalue, withinLimit_none _, ?_⟩
    intro d hd
    simpa [CharClass.has, quotes] using c.value_unquoted d hd
  case closing => exact ⟨c.closing, hquote _ c.closing_mem, rfl⟩

/-- The pattern that looks for the credential. -/
def pattern (c : Credential) : Pattern := joined ['_', '-'] c.words ++ assigned

theorem pattern_mem_secrets (c : Credential) : c.pattern ∈ secrets.patterns := by
  obtain ⟨words, hwords⟩ := c
  simp only [credentialNames, List.mem_cons, List.not_mem_nil, or_false] at hwords
  rcases hwords with rfl | rfl | rfl | rfl | rfl | rfl <;> simp [pattern, secrets, joined, joint]

theorem standsIn (c : Credential) (pre post : String) : c.pattern.StandsIn none (pre ++ c.text ++ post).toList := by
  refine ⟨pre.toList, c.text.toList, post.toList, by simp, ?_⟩
  rw [pattern, takes_append]
  refine ⟨c.name.toList, c.assignment.toList, by simp [text], ?_, c.takes_assigned _ _⟩
  exact (takes_joined_iff ..).2 c.name_spells

theorem count_pos (c : Credential) (pre post : String) : 0 < c.pattern.count (pre ++ c.text ++ post) := by
  have hone : Piece.one (.only '=') ∈ c.pattern := by simp [pattern, assigned]
  exact (count_pos_iff (consumes_of_one hone) _).2 (c.standsIn pre post)

end Credential

/-- A scan with the security families on reports a credential, whatever stands around
it in the source. -/
theorem scan_reports_credential (c : Credential) (pre post : String) (quality : Bool) :
    ∃ n, 1 ≤ n ∧ ∃ f ∈ scan ⟨true, quality⟩ (pre ++ c.text ++ post), f.kind = .security ∧ f.severity = .high ∧
      f.description = s!"Potential secret exposure detected ({n} occurrences)" := by
  have hcount := c.count_pos pre post
  generalize pre ++ c.text ++ post = source at hcount ⊢
  have hflag := (flag?_eq_some_iff secrets c.pattern source _).2 ⟨⟨hcount, hcount⟩, rfl⟩
  have hfound := (mem_scanFamily_iff security source _).2
    ⟨secrets, List.mem_cons_self, c.pattern, c.pattern_mem_secrets, hflag⟩
  -- duplicates of a flag agree in all that is said about it here
  obtain ⟨g, hg, hkey⟩ := (keepsFirst_dedup (findings ⟨true, quality⟩ source)).complete _ (by
    simp only [findings, if_true, List.mem_append]
    exact .inl (.inl (.inl hfound)))
  refine ⟨c.pattern.count source, hcount, g, hg, ?_⟩
  simp only [Flag.key, Prod.mk.injEq] at hkey
  exact hkey

/-- A key whose name mixes letter cases. -/
def mixedCaseKey : Credential where
  words := ["api", "key"]
  words_mem := by decide
  name := "ApI-KEY"
  name_spells := ⟨['A', 'p', 'I'], ['-'], ['K', 'E', 'Y'], rfl, rfl, .inr ⟨'-', by decide, rfl⟩, rfl⟩
  spaceBefore := " "
  spaceBefore_blank := List.all_eq_true.1 (by decide)
  spaceAfter := "\t\n"
  spaceAfter_blank := List.all_eq_true.1 (by decide)
  opening := '"'
  opening_mem := by decide
  value := "x y"
  value_ne_empty := by decide
  value_unquoted := by simp
  closing := '\''
  closing_mem := by decide

/-- An open literal in front takes the key as its value up to the first quote. -/
theorem scan_reports_credential_swallowed :
    ∃ n, 1 ≤ n ∧ ∃ f ∈ scan ⟨true, false⟩ "api_key='ApI-KEY =\t\n\"x y''", f.kind = .security ∧ f.severity = .high ∧
      f.description = s!"Potential secret exposure detected ({n} occurrences)" :=
  scan_reports_credential mixedCaseKey "api_key='" "'" false

end RefactorAudit.Risk
