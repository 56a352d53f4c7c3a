import RefactorAudit.Text.Case
import RefactorAudit.Text.Search

/-!
# Plain texts and what stands in them

A text without capital letters and without anything beyond ASCII is its own lower-case
form (`lower_eq_self`). A search finds what is a contiguous part of the text
(`occursIn_iff`), so a character that a text lacks rules out all words that need it.
-/

namespace RefactorAudit.Text

/-! ## Lower case -/

/-- ASCII characters other than capital letters. -/
def IsPlain (c : Char) : Prop := c.toNat < 0x80 ∧ c.toLower = c

instance decidableIsPlain (c : Char) : Decidable (IsPlain c) :=
  inferInstanceAs (Decidable (c.toNat < 0x80 ∧ c.toLower = c))

theorem isPlain_of_isDigit {c : Char} (h : c.isDigit = true) : IsPlain c := by
  simp only [Char.isDigit, Bool.and_eq_true, decide_eq_true_eq, ge_iff_le, UInt32.le_iff_toNat_le] at h
  have hbounds : 48 ≤ c.toNat ∧ c.toNat ≤ 57 := h
  refine ⟨by omega, ?_⟩
  unfold Char.toLower
  rw [dif_neg]
  rintro ⟨hlow, -⟩
  have : 65 ≤ c.toNat := hlow
  omega

theorem lowerAt_of_isPlain {c : Char} (h : IsPlain c) (before after : List Char) : lowerAt before c after = [c] := by
  have hsigma : (c == 'Σ') = false := by
    rw [beq_eq_false_iff_ne]
    rintro rfl
    exact absurd h.1 (by decide)
  simp [lowerAt, hsigma, lowerChar, h.1, h.2]

theorem lowerFrom_of_isPlain {cs : List Char} (h : ∀ c ∈ cs, IsPlain c) (before done : List Char) :
    lowerFrom before done cs = done.reverse ++ cs := by
  induction cs generalizing before done with
  | nil => simp [lowerFrom]
  | cons c rest ih =>
    rw [lowerFrom, lowerAt_of_isPlain (h c List.mem_cons_self), ih fun x hx => h x (List.mem_cons_of_mem _ hx)]
    simp

theorem lower_eq_self {s : String} (h : ∀ c ∈ s.toList, IsPlain c) : lower s = s := by
  rw [lower, lowerFrom_of_isPlain h, List.reverse_nil, List.nil_append, String.ofList_toList]

/-! ## Search -/

theorem occursInList_iff {needle cs : List Char} : occursInList needle cs = true ↔ needle <:+: cs := by
  induction cs with
  | nil => rw [occursInList, List.isEmpty_iff, List.infix_nil]
  | cons c rest ih => rw [occursInList, Bool.or_eq_true, List.isPrefixOf_iff_prefix, ih, List.infix_cons_iff]

theorem occursIn_iff {needle s : String} : occursIn needle s = true ↔ needle.toList <:+: s.toList := occursInList_iff

theorem occursIn_eq_false {needle s : String} {c : Char} (hc : c ∈ needle.toList) (hs : c ∉ s.toList) :
    occursIn needle s = false := by
  rw [Bool.eq_false_iff]
  intro h
  exact hs ((occursIn_iff.1 h).subset hc)

/-! ## Texts put together -/

variable {sep x : String} {parts : List String}

theorem forall_mem_intercalate {P : Char → Prop} (hsep : ∀ c ∈ sep.toList, P c)
    (hparts : ∀ x ∈ parts, ∀ c ∈ x.toList, P c) : ∀ c ∈ (sep.intercalate parts).toList, P c := by
  induction parts with
  | nil => simp
  | cons x rest ih =>
    have hx := hparts x List.mem_cons_self
    have hrest := ih fun y hy => hparts y (List.mem_cons_of_mem _ hy)
    cases rest with
    | nil => simpa using hx
    | cons y rest =>
      rw [String.intercalate_cons_cons, String.toList_append, String.toList_append]
      intro c hc
      simp only [List.mem_append] at hc
      rcases hc with (hc | hc) | hc
      · exact hx c hc
      · exact hsep c hc
      · exact hrest c hc

theorem infix_intercalate (hx : x ∈ parts) : x.toList <:+: (sep.intercalate parts).toList := by
  induction parts with
  | nil => cases hx
  | cons y rest ih =>
    cases rest with
    | nil =>
      obtain rfl := List.mem_singleton.1 hx
      simp
    | cons z rest =>
      rw [String.intercalate_cons_cons, String.toList_append, String.toList_append]
      rcases List.mem_cons.1 hx with rfl | hx
      · rw [List.append_assoc]
        exact (List.prefix_append _ _).isInfix
      · exact (ih hx).trans (List.suffix_append _ _).isInfix

end RefactorAudit.Text
