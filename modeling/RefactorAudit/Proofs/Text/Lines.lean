import RefactorAudit.Text.Lines

/-!
# Lines and what they are joined to

No line of a text holds a line boundary (`unbroken_of_mem_lines`). Such lines, each
ended by a line feed, are the lines of the text that they make up (`lines_join`), so
nothing is split or merged on the way through a text.
-/

namespace RefactorAudit.Text

/-- The text has no line boundary. -/
def Unbroken (s : String) : Prop := ∀ c ∈ s.toList, isLineBreak c = false

instance decidableUnbroken (s : String) : Decidable (Unbroken s) :=
  List.decidableBAll (fun c => isLineBreak c = false) s.toList

theorem Unbroken.append {s t : String} (hs : Unbroken s) (ht : Unbroken t) : Unbroken (s ++ t) := by
  intro c hc
  rw [String.toList_append, List.mem_append] at hc
  rcases hc with hc | hc
  · exact hs c hc
  · exact ht c hc

theorem isLineBreak_of_isDigit {c : Char} (h : c.isDigit = true) : isLineBreak c = false := by
  rw [Bool.eq_false_iff]
  intro hbreak
  simp only [isLineBreak, Bool.or_eq_true, beq_iff_eq] at hbreak
  rcases hbreak with ((((((((rfl | rfl) | rfl) | rfl) | rfl) | rfl) | rfl) | rfl) | rfl) | rfl <;>
    exact absurd h (by decide)

theorem unbroken_repr (n : Nat) : Unbroken n.repr := by
  intro c hc
  rw [Nat.toList_repr] at hc
  exact isLineBreak_of_isDigit (Nat.isDigit_of_mem_toDigits (by decide) (by decide) hc)

/-! ## Lines are unbroken -/

theorem not_isLineBreak_of_mem_linesFrom {seen cs : List Char} (hseen : ∀ c ∈ seen, isLineBreak c = false) :
    ∀ line ∈ linesFrom seen cs, ∀ c ∈ line, isLineBreak c = false := by
  fun_induction linesFrom seen cs with
  | case1 seen hnone => simp
  | case2 seen hsome => simpa using hseen
  | case3 seen rest ih => simpa using ⟨hseen, ih (by simp)⟩
  | case4 seen c rest hpair hbreak ih => simpa using ⟨hseen, ih (by simp)⟩
  | case5 seen c rest hpair hbreak ih =>
    apply ih
    simpa using ⟨Bool.eq_false_iff.2 hbreak, hseen⟩

theorem unbroken_of_mem_lines {s line : String} (h : line ∈ lines s) : Unbroken line := by
  obtain ⟨cs, hcs, rfl⟩ := List.mem_map.1 h
  intro c hc
  rw [String.toList_ofList] at hc
  exact not_isLineBreak_of_mem_linesFrom (by simp) cs hcs c hc

/-! ## Lines put together -/

theorem linesFrom_cons {c : Char} (hc : c ≠ '\r') (seen rest : List Char) :
    linesFrom seen (c :: rest) =
      if isLineBreak c then seen.reverse :: linesFrom [] rest else linesFrom (c :: seen) rest := by
  rw [linesFrom.eq_def]
  split
  · next h => cases h
  · next h =>
    cases h
    exact absurd rfl hc
  · next h =>
    cases h
    rfl

theorem linesFrom_append {line : List Char} (h : ∀ c ∈ line, isLineBreak c = false) (seen rest : List Char) :
    linesFrom seen (line ++ '\n' :: rest) = (seen.reverse ++ line) :: linesFrom [] rest := by
  induction line generalizing seen with
  | nil => rw [List.nil_append, List.append_nil, linesFrom_cons (by decide), if_pos (by decide)]
  | cons c line ih =>
    simp only [List.mem_cons, forall_eq_or_imp] at h
    have hreturn : c ≠ '\r' := by
      rintro rfl
      exact absurd h.1 (by decide)
    rw [List.cons_append, linesFrom_cons hreturn, if_neg (by simp [h.1]), ih h.2]
    simp

/-- Unbroken lines, each ended by a line feed, are read back. -/
theorem lines_join {ls : List String} (h : ∀ line ∈ ls, Unbroken line) :
    lines (String.join (ls.map (· ++ "\n"))) = ls := by
  unfold lines
  induction ls with
  | nil => rfl
  | cons line ls ih =>
    simp only [List.mem_cons, forall_eq_or_imp] at h
    have hsplit : (String.join ((line :: ls).map (· ++ "\n"))).toList =
        line.toList ++ '\n' :: (String.join (ls.map (· ++ "\n"))).toList := by
      simp
    rw [hsplit, linesFrom_append h.1, List.map_cons, ih h.2]
    simp

end RefactorAudit.Text
