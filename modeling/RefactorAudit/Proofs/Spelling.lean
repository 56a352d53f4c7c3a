import RefactorAudit.Proofs.Pattern

/-!
# Words, letter case aside

`Spells` says what it is to write some words one after the other, in any letter case
and with a separator or nothing between two of them. The patterns made of caseless
words take just that (`takes_joined_iff`), whatever stands around it.
-/

namespace RefactorAudit

/-- The characters are those of the word, letter case aside. -/
def SameLetters (cs : List Char) (word : String) : Prop := cs.map foldCase = word.toList.map foldCase

/-- The characters are the words, letter case aside, with one of the separators or
nothing between a word and the next. -/
def Spells (separators : List Char) : List String → List Char → Prop
  | [], cs => cs = []
  | [word], cs => SameLetters cs word
  | word :: next :: words, cs => ∃ first separator others, cs = first ++ separator ++ others ∧
      SameLetters first word ∧ (separator = [] ∨ ∃ c ∈ separators, separator = [c]) ∧
      Spells separators (next :: words) others

/-- The words are written somewhere in the text. -/
def SpelledIn (separators : List Char) (words : List String) (s : String) : Prop :=
  ∃ pre cs post, s.toList = pre ++ cs ++ post ∧ Spells separators words cs

namespace Pattern

variable {before : Option Char} {taken rest : List Char}

theorem takes_caseless_iff (word : String) (before : Option Char) (taken rest : List Char) :
    (caseless word).Takes before taken rest ↔ SameLetters taken word := by
  unfold caseless SameLetters
  induction word.toList generalizing before taken with
  | nil => simp [Takes]
  | cons c cs ih =>
    simp only [List.map_cons, Takes, Piece.Takes, CharClass.has, beq_iff_eq, ih]
    constructor
    · rintro ⟨-, second, rfl, ⟨x, hx, rfl⟩, hsecond⟩
      simp [hx, hsecond]
    · intro h
      cases taken with
      | nil => simp at h
      | cons x taken =>
        obtain ⟨hx, htaken⟩ : foldCase x = foldCase c ∧ taken.map foldCase = cs.map foldCase := by simpa using h
        exact ⟨[x], taken, rfl, ⟨x, hx, rfl⟩, htaken⟩

theorem takes_atMostOne_iff (cls : CharClass) (before : Option Char) (taken rest : List Char) :
    (atMostOne cls).Takes before taken rest ↔ taken = [] ∨ ∃ c, cls.has c = true ∧ taken = [c] := by
  unfold atMostOne
  simp only [Piece.Takes, Nat.zero_le, true_and]
  constructor
  · rintro ⟨hmost, hall⟩
    have hlength : taken.length ≤ 1 := hmost 1 rfl
    rcases Nat.le_one_iff_eq_zero_or_eq_one.1 hlength with hzero | hone
    · exact .inl (List.length_eq_zero_iff.1 hzero)
    · obtain ⟨c, rfl⟩ := List.length_eq_one_iff.1 hone
      exact .inr ⟨c, hall c List.mem_cons_self, rfl⟩
  · rintro (rfl | ⟨c, hc, rfl⟩)
    · exact ⟨fun _ _ => Nat.zero_le _, by simp⟩
    · refine ⟨fun m hm => ?_, by simpa using hc⟩
      cases hm
      exact Nat.le_refl 1

/-- The words one after the other. -/
def joined (separators : List Char) : List String → Pattern
  | [] => []
  | [word] => caseless word
  | word :: next :: words => caseless word ++ atMostOne (.among separators) :: joined separators (next :: words)

theorem takes_joined_iff (separators : List Char) (words : List String) (before : Option Char)
    (taken rest : List Char) : (joined separators words).Takes before taken rest ↔ Spells separators words taken := by
  induction words generalizing before taken with
  | nil => rfl
  | cons word words ih =>
    cases words with
    | nil => exact takes_caseless_iff word before taken rest
    | cons next words =>
      simp only [joined, Spells, takes_append, Takes, takes_caseless_iff, takes_atMostOne_iff, ih, CharClass.has,
        List.contains_iff_mem]
      constructor
      · rintro ⟨first, -, rfl, hfirst, separator, others, rfl, hseparator, hothers⟩
        exact ⟨first, separator, others, (List.append_assoc ..).symm, hfirst, hseparator, hothers⟩
      · rintro ⟨first, separator, others, rfl, hfirst, hseparator, hothers⟩
        exact ⟨first, separator ++ others, List.append_assoc .., hfirst, separator, others, rfl, hseparator, hothers⟩

theorem standsIn_joined_iff (separators : List Char) (words : List String) (s : String) :
    (joined separators words).StandsIn none s.toList ↔ SpelledIn separators words s := by
  simp only [StandsIn, takes_joined_iff, SpelledIn]

end Pattern

end RefactorAudit
