import RefactorAudit.Json.Reader

/-!
# Quoted texts read back

Between quotes every character has one escape (`escape_iff`), and reading takes it
back (`stringFrom_escapeChar`). A quoted text ends at its own closing quote, whatever
stands behind it: reading from the opening quote gives the text and what follows
(`stringFrom_escaped`). So quoted texts can be told apart even where more text follows
(`prefixFree_quoted`), and so can lists of them (`PrefixFree.array`).
-/

namespace RefactorAudit.Json

open Reader

/-! ## Escapes -/

/-- What stands behind the backslash of a short escape, and the character that the
escape is for. -/
def shortEscapes : List (Char × Char) :=
  [('"', '"'), ('\\', '\\'), ('n', '\n'), ('r', '\r'), ('t', '\t'), ('b', '\x08'), ('f', '\x0c')]

/-- Printable ASCII. -/
def IsPrintable (c : Char) : Prop := 0x20 ≤ c.toNat ∧ c.toNat < 0x7F

instance decidableIsPrintable (c : Char) : Decidable (IsPrintable c) :=
  inferInstanceAs (Decidable (0x20 ≤ c.toNat ∧ c.toNat < 0x7F))

/-- A hexadecimal digit, its letters small. -/
def hexDigit (d : Fin 16) : Char :=
  ['0', '1', '2', '3', '4', '5', '6', '7', '8', '9', 'a', 'b', 'c', 'd', 'e', 'f'].get d

/-- A UTF-16 unit, written by its four digits. -/
def UnitText (u : Nat) (cs : List Char) : Prop :=
  ∃ a b c d : Fin 16, u = 4096 * a.val + 256 * b.val + 16 * c.val + d.val ∧
    cs = ['\\', 'u', hexDigit a, hexDigit b, hexDigit c, hexDigit d]

/-- How a character stands between quotes: by its short escape, as it is, by one unit,
or by the two units of a surrogate pair. -/
inductive Escape (c : Char) : List Char → Prop
  | short {e : Char} (h : (e, c) ∈ shortEscapes) : Escape c ['\\', e]
  | plain (hprintable : IsPrintable c) (hquote : c ≠ '"') (hbackslash : c ≠ '\\') : Escape c [c]
  | unit {cs : List Char} (hshort : ∀ e, (e, c) ∉ shortEscapes) (hother : ¬IsPrintable c)
      (h : UnitText c.toNat cs) : Escape c cs
  | surrogates {high low : Nat} {cs ds : List Char} (hhigh : 0xD800 ≤ high ∧ high < 0xDC00)
      (hlow : 0xDC00 ≤ low ∧ low < 0xE000) (hc : c.toNat = 0x10000 + (high - 0xD800) * 0x400 + (low - 0xDC00))
      (h : UnitText high cs) (h' : UnitText low ds) : Escape c (cs ++ ds)

/-- What is checked on the table holds of every short escape. -/
theorem of_mem_shortEscapes {P : Char → Char → Prop} [∀ e c, Decidable (P e c)]
    (hall : (shortEscapes.all fun p => decide (P p.1 p.2)) = true) {e c : Char} (h : (e, c) ∈ shortEscapes) :
    P e c :=
  of_decide_eq_true (List.all_eq_true.1 hall (e, c) h)

/-- Of the characters with a short escape only the quote and the backslash are printable. -/
theorem toNat_of_mem_shortEscapes {e c : Char} (h : (e, c) ∈ shortEscapes) :
    c.toNat < 0x7F ∧ (c = '"' ∨ c = '\\' ∨ c.toNat < 0x20) :=
  of_mem_shortEscapes (P := fun _ c => c.toNat < 0x7F ∧ (c = '"' ∨ c = '\\' ∨ c.toNat < 0x20)) (by decide) h

theorem hexDigit_eq_digitChar : ∀ d : Fin 16, hexDigit d = Nat.digitChar d.val := by decide

theorem unitText_iff {u : Nat} (hu : u < 0x10000) {cs : List Char} : UnitText u cs ↔ unitEscape u = cs := by
  constructor
  · rintro ⟨a, b, c, d, rfl, rfl⟩
    have ha : (4096 * a.val + 256 * b.val + 16 * c.val + d.val) / 4096 % 16 = a.val := by omega
    have hb : (4096 * a.val + 256 * b.val + 16 * c.val + d.val) / 256 % 16 = b.val := by omega
    have hc : (4096 * a.val + 256 * b.val + 16 * c.val + d.val) / 16 % 16 = c.val := by omega
    have hd : (4096 * a.val + 256 * b.val + 16 * c.val + d.val) % 16 = d.val := by omega
    simp only [unitEscape, ha, hb, hc, hd, hexDigit_eq_digitChar, List.map_cons, List.map_nil]
  · rintro rfl
    refine ⟨⟨u / 4096 % 16, by omega⟩, ⟨u / 256 % 16, by omega⟩, ⟨u / 16 % 16, by omega⟩, ⟨u % 16, by omega⟩, ?_, ?_⟩
    · change u = 4096 * (u / 4096 % 16) + 256 * (u / 256 % 16) + 16 * (u / 16 % 16) + u % 16
      omega
    · simp only [unitEscape, hexDigit_eq_digitChar, List.map_cons, List.map_nil]

theorem escapeChar_of_short {e c : Char} (h : (e, c) ∈ shortEscapes) : escapeChar c = ['\\', e] :=
  of_mem_shortEscapes (P := fun e c => escapeChar c = ['\\', e]) (by decide) h

/-- What is written for a character without a short escape. -/
theorem escapeChar_of_not_short {c : Char} (h : ∀ e, (e, c) ∉ shortEscapes) :
    escapeChar c = if c.toNat < 0x20 then unitEscape c.toNat else if c.toNat < 0x7F then [c]
      else if c.toNat < 0x10000 then unitEscape c.toNat
      else unitEscape (0xD800 + (c.toNat - 0x10000) / 0x400) ++ unitEscape (0xDC00 + (c.toNat - 0x10000) % 0x400) := by
  obtain ⟨hquote, hbackslash, hn, hr, ht, hb, hf⟩ :
      c ≠ '"' ∧ c ≠ '\\' ∧ c ≠ '\n' ∧ c ≠ '\r' ∧ c ≠ '\t' ∧ c ≠ '\x08' ∧ c ≠ '\x0c' := by
    simpa [shortEscapes, forall_and] using h
  simp only [escapeChar, hquote, hbackslash, hn, hr, ht, hb, hf, if_false]

theorem escape_escapeChar (c : Char) : Escape c (escapeChar c) := by
  have hscalar : c.toNat < 0xD800 ∨ 0xDFFF < c.toNat ∧ c.toNat < 0x110000 := c.valid
  by_cases hshort : ∃ e, (e, c) ∈ shortEscapes
  · obtain ⟨e, he⟩ := hshort
    rw [escapeChar_of_short he]
    exact .short he
  · have hnone : ∀ e, (e, c) ∉ shortEscapes := fun e he => hshort ⟨e, he⟩
    rw [escapeChar_of_not_short hnone]
    by_cases hlow : c.toNat < 0x20
    · rw [if_pos hlow]
      exact .unit hnone (fun hprintable => Nat.not_le_of_lt hlow hprintable.1) ((unitText_iff (by omega)).2 rfl)
    rw [if_neg hlow]
    by_cases hplain : c.toNat < 0x7F
    · rw [if_pos hplain]
      refine .plain ⟨by omega, hplain⟩ ?_ ?_
      · rintro rfl
        exact hnone '"' (by decide)
      · rintro rfl
        exact hnone '\\' (by decide)
    rw [if_neg hplain]
    by_cases hunit : c.toNat < 0x10000
    · rw [if_pos hunit]
      exact .unit hnone (fun hprintable => hplain hprintable.2) ((unitText_iff hunit).2 rfl)
    · rw [if_neg hunit]
      exact .surrogates ⟨by omega, by omega⟩ ⟨by omega, by omega⟩ (by omega) ((unitText_iff (by omega)).2 rfl)
        ((unitText_iff (by omega)).2 rfl)

/-- A character is written in one way only. -/
theorem Escape.escapeChar_eq {c : Char} {cs : List Char} (h : Escape c cs) : escapeChar c = cs := by
  cases h with
  | short h => exact escapeChar_of_short h
  | plain hprintable hquote hbackslash =>
    obtain ⟨hge, hlt⟩ := hprintable
    have hnone : ∀ e, (e, c) ∉ shortEscapes := fun e he => by
      rcases (toNat_of_mem_shortEscapes he).2 with hc | hc | hc
      · exact hquote hc
      · exact hbackslash hc
      · omega
    rw [escapeChar_of_not_short hnone, if_neg (by omega), if_pos hlt]
  | unit hshort hother h =>
    -- four digits reach no further than a unit
    have hunit : c.toNat < 0x10000 := by
      obtain ⟨_, _, _, _, hc, -⟩ := h
      omega
    rw [escapeChar_of_not_short hshort]
    by_cases hlow : c.toNat < 0x20
    · rw [if_pos hlow]
      exact (unitText_iff hunit).1 h
    · have hhigh : ¬c.toNat < 0x7F := fun hlt => hother ⟨by omega, hlt⟩
      rw [if_neg hlow, if_neg hhigh, if_pos hunit]
      exact (unitText_iff hunit).1 h
  | @surrogates high low cs ds hhigh hlow hc h h' =>
    have hnone : ∀ e, (e, c) ∉ shortEscapes := fun e he => by
      have hlt := (toNat_of_mem_shortEscapes he).1
      omega
    have hhighUnit : 0xD800 + (c.toNat - 0x10000) / 0x400 = high := by omega
    have hlowUnit : 0xDC00 + (c.toNat - 0x10000) % 0x400 = low := by omega
    rw [escapeChar_of_not_short hnone, if_neg (by omega), if_neg (by omega), if_neg (by omega), hhighUnit, hlowUnit,
      (unitText_iff (by omega)).1 h, (unitText_iff (by omega)).1 h']

theorem escape_iff (c : Char) (cs : List Char) : Escape c cs ↔ escapeChar c = cs :=
  ⟨Escape.escapeChar_eq, fun h => h ▸ escape_escapeChar c⟩

/-! ## Reading escapes -/

theorem hexValue?_hexDigit : ∀ d : Fin 16, hexValue? (hexDigit d) = some d.val := by decide

theorem unit?_hexDigits (a b c d : Fin 16) :
    unit? (hexDigit a) (hexDigit b) (hexDigit c) (hexDigit d) =
      some (4096 * a.val + 256 * b.val + 16 * c.val + d.val) := by
  simp only [unit?, hexValue?_hexDigit, Option.pure_def, Option.bind_eq_bind, Option.bind_some, Option.some.injEq]
  omega

variable (seen rest : List Char)

theorem stringFrom_shortEscape {e c : Char} (h : (e, c) ∈ shortEscapes) :
    stringFrom seen ('\\' :: e :: rest) = stringFrom (c :: seen) rest := by
  simp only [shortEscapes, List.mem_cons, Prod.mk.injEq, List.not_mem_nil, or_false] at h
  rcases h with ⟨rfl, rfl⟩ | ⟨rfl, rfl⟩ | ⟨rfl, rfl⟩ | ⟨rfl, rfl⟩ | ⟨rfl, rfl⟩ | ⟨rfl, rfl⟩ | ⟨rfl, rfl⟩ <;>
    exact stringFrom.eq_5 _ _ _ (by simp) (by simp)

/-- A unit that opens no surrogate pair is a character of its own. -/
theorem stringFrom_unit {u : Nat} {cs : List Char} (h : UnitText u cs) (hsingle : u < 0xD800 ∨ 0xDC00 ≤ u) :
    stringFrom seen (cs ++ rest) = stringFrom (Char.ofNat u :: seen) rest := by
  have hnopair : ¬(0xD800 ≤ u ∧ u < 0xDC00) := by omega
  obtain ⟨a, b, c, d, hu, rfl⟩ := h
  simp only [List.cons_append, List.nil_append]
  -- the reader looks ahead for a second unit, and must not take it
  by_cases hnext : ∃ e f g h after, rest = '\\' :: 'u' :: e :: f :: g :: h :: after
  · obtain ⟨e, f, g, h, after, rfl⟩ := hnext
    rw [stringFrom.eq_3, unit?_hexDigits, ← hu]
    simp only [Option.bind_eq_bind, Option.bind_some, hnopair, if_false]
  · rw [stringFrom.eq_4 _ _ _ _ _ _ (fun e f g h after he => hnext ⟨e, f, g, h, after, he⟩), unit?_hexDigits, ← hu]
    rfl

theorem stringFrom_surrogates {high low : Nat} {cs ds : List Char} (hhigh : 0xD800 ≤ high ∧ high < 0xDC00)
    (h : UnitText high cs) (h' : UnitText low ds) :
    stringFrom seen (cs ++ ds ++ rest) =
      stringFrom (Char.ofNat (0x10000 + (high - 0xD800) * 0x400 + (low - 0xDC00)) :: seen) rest := by
  obtain ⟨_, _, _, _, hu, rfl⟩ := h
  obtain ⟨_, _, _, _, hv, rfl⟩ := h'
  simp only [List.cons_append, List.nil_append]
  rw [stringFrom.eq_3, unit?_hexDigits, unit?_hexDigits, ← hu, ← hv]
  simp only [Option.bind_eq_bind, Option.bind_some, hhigh, and_self, if_true]

theorem stringFrom_escapeChar (c : Char) :
    stringFrom seen (escapeChar c ++ rest) = stringFrom (c :: seen) rest := by
  have hscalar : c.toNat < 0xD800 ∨ 0xDFFF < c.toNat ∧ c.toNat < 0x110000 := c.valid
  generalize hcs : escapeChar c = cs
  cases (escape_iff c cs).2 hcs with
  | short h => exact stringFrom_shortEscape seen rest h
  | plain hprintable hquote hbackslash => simp [stringFrom, hbackslash]
  | unit hshort hother h => rw [stringFrom_unit seen rest h (by omega), Char.ofNat_toNat]
  | surrogates hhigh hlow hc h h' => rw [stringFrom_surrogates seen rest hhigh h h', ← hc, Char.ofNat_toNat]

/-- Reading an escaped text gives it back, and stops at the quote behind it. -/
theorem stringFrom_escaped (cs : List Char) :
    stringFrom seen (cs.flatMap escapeChar ++ '"' :: rest) = some (String.ofList (seen.reverse ++ cs), rest) := by
  induction cs generalizing seen with
  | nil => simp [stringFrom]
  | cons c cs ih =>
    rw [List.flatMap_cons, List.append_assoc, stringFrom_escapeChar, ih]
    simp

/-! ## Texts that end where they end -/

/-- The text of a value can be told from what follows it, and determines the value. -/
def PrefixFree {α : Type} (write : α → List Char) : Prop :=
  ∀ a b rest rest', write a ++ rest = write b ++ rest' → a = b ∧ rest = rest'

theorem prefixFree_quoted : PrefixFree quoted := by
  intro s t rest rest' h
  simp only [quoted, List.cons_append, List.append_assoc, List.nil_append, List.cons.injEq, true_and] at h
  have hread := congrArg (stringFrom []) h
  rw [stringFrom_escaped, stringFrom_escaped] at hread
  simpa using hread

theorem quoted_eq_cons (s : String) : ∃ cs, quoted s = '"' :: cs := ⟨_, rfl⟩

section Array

variable {α : Type} {write : α → List Char}

theorem intercalate_map_cons (sep : List Char) (x : α) (xs : List α) :
    sep.intercalate ((x :: xs).map write) = write x ++ xs.flatMap fun y => sep ++ write y := by
  induction xs generalizing x with
  | nil => simp [List.intercalate]
  | cons y ys ih =>
    have hstep : sep.intercalate ((x :: y :: ys).map write) = write x ++ sep ++ sep.intercalate ((y :: ys).map write) := by
      simp [List.intercalate]
    rw [hstep, ih, List.flatMap_cons]
    simp

/-- Items behind commas up to a closing bracket. -/
theorem PrefixFree.items (h : PrefixFree write) (xs ys : List α) {rest rest' : List Char}
    (heq : (xs.flatMap fun x => [',', ' '] ++ write x) ++ ']' :: rest =
      (ys.flatMap fun y => [',', ' '] ++ write y) ++ ']' :: rest') : xs = ys ∧ rest = rest' := by
  induction xs generalizing ys with
  | nil =>
    cases ys with
    | nil => simpa using heq
    | cons y ys => simp at heq
  | cons x xs ih =>
    cases ys with
    | nil => simp at heq
    | cons y ys =>
      simp only [List.flatMap_cons, List.append_assoc, List.cons_append, List.nil_append, List.cons.injEq,
        true_and] at heq
      obtain ⟨rfl, hrest⟩ := h _ _ _ _ heq
      obtain ⟨rfl, rfl⟩ := ih ys hrest
      exact ⟨rfl, rfl⟩

/-- Items between brackets; an item that opens like the closing bracket would be
taken for an empty list. -/
theorem PrefixFree.array (h : PrefixFree write) (hopen : ∀ a, ∃ cs, write a = '"' :: cs) :
    PrefixFree fun xs : List α => '[' :: [',', ' '].intercalate (xs.map write) ++ [']'] := by
  intro xs ys rest rest' heq
  cases xs with
  | nil =>
    cases ys with
    | nil => simpa [List.intercalate] using heq
    | cons y ys =>
      obtain ⟨cs, hy⟩ := hopen y
      simp only [intercalate_map_cons, hy] at heq
      simp [List.intercalate] at heq
  | cons x xs =>
    cases ys with
    | nil =>
      obtain ⟨cs, hx⟩ := hopen x
      simp only [intercalate_map_cons, hx] at heq
      simp [List.intercalate] at heq
    | cons y ys =>
      simp only [intercalate_map_cons, List.cons_append, List.append_assoc, List.nil_append, List.cons.injEq,
        true_and] at heq
      obtain ⟨rfl, hitems⟩ := h _ _ _ _ heq
      obtain ⟨rfl, rfl⟩ := h.items xs ys hitems
      exact ⟨rfl, rfl⟩

end Array

end RefactorAudit.Json
