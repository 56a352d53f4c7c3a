import RefactorAudit.Pattern

/-!
# What a pattern takes

`Pattern.Takes` says which characters a pattern may take at a place of a text, without
saying in which order the matcher tries them. The matcher finds a match exactly where
there is something to take (`isSome_match?_iff`), because what a piece leaves is tried
in full. From this follows what counting says about a text: a pattern that takes at
least one character is counted at all exactly if it stands somewhere
(`count_pos_iff`), and where no match can open inside another one, it is counted at
each place where it stands (`countFrom_eq_placesFrom`).
-/

namespace RefactorAudit

/-! ## Places -/

/-- The character right before the place that is reached over some characters. -/
def lastChar (before : Option Char) : List Char → Option Char
  | [] => before
  | c :: rest => lastChar (some c) rest

theorem lastChar_append (before : Option Char) (xs ys : List Char) :
    lastChar before (xs ++ ys) = lastChar (lastChar before xs) ys := by
  induction xs generalizing before with
  | nil => rfl
  | cons c xs ih => exact ih (some c)

theorem lastChar_none (xs : List Char) : lastChar none xs = xs.getLast? := by
  have hsome : ∀ (ys : List Char) (c : Char), lastChar (some c) ys = (c :: ys).getLast? := by
    intro ys
    induction ys with
    | nil => intro c; rfl
    | cons d ys ih => intro c; simpa [lastChar] using ih d
  cases xs with
  | nil => rfl
  | cons c xs => exact hsome xs c

/-- The cursor after some of the characters ahead, with the others still ahead. -/
def Cursor.past (cur : Cursor) (taken rest : List Char) : Cursor :=
  ⟨lastChar cur.before taken, rest, cur.moved + taken.length⟩

/-! ## Pieces -/

/-- The limit, if there is one, is not exceeded. -/
def WithinLimit (most : Option Nat) (n : Nat) : Prop := ∀ m, most = some m → n ≤ m

/-- `piece.Takes before taken rest`: between `before` and `rest` the piece may take the
characters. -/
def Piece.Takes (before : Option Char) (taken rest : List Char) : Piece → Prop
  | .one cls => ∃ c, cls.has c = true ∧ taken = [c]
  | .run cls least most => least ≤ taken.length ∧ WithinLimit most taken.length ∧ ∀ c ∈ taken, cls.has c = true
  | .choice texts => ∃ text ∈ texts, taken = text.toList
  | .wordEdge => taken = [] ∧ before.any Text.isWord ≠ rest.head?.any Text.isWord
  | .lineEnd => taken = [] ∧ rest.head?.all (· == '\n') = true

theorem withinLimit_none (n : Nat) : WithinLimit none n := by
  intro m hm
  cases hm

theorem withinLimit_succ (most : Option Nat) (n : Nat) :
    WithinLimit most (n + 1) ↔ most ≠ some 0 ∧ WithinLimit (most.map (· - 1)) n := by
  cases most with
  | none => simp [WithinLimit]
  | some m =>
    simp only [WithinLimit, Option.some.injEq, Option.map_some, ne_eq]
    constructor
    · intro h
      have := h m rfl
      refine ⟨by omega, ?_⟩
      rintro k rfl
      omega
    · rintro ⟨hm, h⟩ k rfl
      have := h _ rfl
      omega

namespace Cursor

theorem getElem?_walk_zero (cls : CharClass) (most : Option Nat) (before : Option Char) (moved : Nat) (cs : List Char) :
    (walk cls most before moved cs)[0]? = some ⟨before, cs, moved⟩ := by
  cases cs <;> rfl

/-- The cursors of a walk by the number of characters walked over. -/
theorem getElem?_walk (cls : CharClass) (most : Option Nat) (before : Option Char) (moved : Nat) (cs : List Char)
    (k : Nat) (cur : Cursor) :
    (walk cls most before moved cs)[k]? = some cur ↔
      WithinLimit most k ∧ ∃ taken rest, cs = taken ++ rest ∧ taken.length = k ∧ (∀ c ∈ taken, cls.has c = true) ∧
        cur = ⟨lastChar before taken, rest, moved + k⟩ := by
  induction k generalizing most before moved cs with
  | zero =>
    rw [getElem?_walk_zero]
    constructor
    · intro h
      cases h
      exact ⟨fun _ _ => Nat.zero_le _, [], cs, rfl, rfl, by simp, rfl⟩
    · rintro ⟨-, taken, rest, rfl, hlength, -, rfl⟩
      rw [List.length_eq_zero_iff.1 hlength]
      rfl
  | succ k ih =>
    -- a walk of one more character needs a first one that is of the class
    have hcons : ∀ taken rest, cs = taken ++ rest → taken.length = k + 1 →
        ∃ c cs' taken', cs = c :: cs' ∧ taken = c :: taken' ∧ cs' = taken' ++ rest ∧ taken'.length = k := by
      rintro (_ | ⟨c, taken'⟩) rest rfl hlength
      · simp at hlength
      · exact ⟨c, _, taken', rfl, rfl, rfl, by simpa using hlength⟩
    cases cs with
    | nil =>
      simp only [walk, List.getElem?_cons_succ, List.getElem?_nil, reduceCtorEq, false_iff, not_and]
      rintro - ⟨taken, rest, hsplit, hlength, -⟩
      obtain ⟨c, cs', taken', hcs, -⟩ := hcons taken rest hsplit hlength
      cases hcs
    | cons c cs =>
      rw [walk, List.getElem?_cons_succ, withinLimit_succ]
      by_cases hstep : most ≠ some 0 ∧ cls.has c = true
      · rw [if_pos (by simpa using hstep), ih]
        constructor
        · rintro ⟨hmost, taken, rest, rfl, rfl, hall, rfl⟩
          refine ⟨⟨hstep.1, hmost⟩, c :: taken, rest, rfl, rfl, ?_, ?_⟩
          · simpa [hstep.2] using hall
          · simp only [lastChar, Nat.add_assoc, Nat.add_comm 1]
        · rintro ⟨⟨-, hmost⟩, taken, rest, hsplit, hlength, hall, rfl⟩
          obtain ⟨d, cs', taken', hcs, rfl, rfl, rfl⟩ := hcons taken rest hsplit hlength
          cases hcs
          refine ⟨hmost, taken', rest, rfl, rfl, fun e he => hall e (List.mem_cons_of_mem _ he), ?_⟩
          simp only [lastChar, Nat.add_assoc, Nat.add_comm 1]
      · rw [if_neg (by simpa using hstep), List.getElem?_nil]
        simp only [reduceCtorEq, false_iff, not_and]
        rintro ⟨hmost, -⟩ ⟨taken, rest, hsplit, hlength, hall, -⟩
        obtain ⟨d, cs', taken', hcs, rfl, -, -⟩ := hcons taken rest hsplit hlength
        cases hcs
        exact hstep ⟨hmost, hall c List.mem_cons_self⟩

theorem after?_eq_some_iff (cur cur' : Cursor) (text : List Char) :
    cur.after? text = some cur' ↔ ∃ rest, cur.ahead = text ++ rest ∧ cur' = cur.past text rest := by
  induction text generalizing cur with
  | nil =>
    obtain ⟨before, ahead, moved⟩ := cur
    simp [after?, past, lastChar, eq_comm]
  | cons c text ih =>
    obtain ⟨before, ahead, moved⟩ := cur
    cases ahead with
    | nil => simp [after?]
    | cons x xs =>
      simp only [after?, beq_iff_eq]
      split
      · next hx =>
        subst hx
        rw [ih]
        simp [past, lastChar, Nat.add_comm, Nat.add_left_comm]
      · next hx => simp [hx]

end Cursor

/-- A piece ends where the characters end that it may take. -/
theorem Piece.mem_ends (piece : Piece) (cur cur' : Cursor) :
    cur' ∈ piece.ends cur ↔
      ∃ taken rest, cur.ahead = taken ++ rest ∧ piece.Takes cur.before taken rest ∧ cur' = cur.past taken rest := by
  obtain ⟨before, ahead, moved⟩ := cur
  -- what looks at the place only takes nothing
  have hstay : ∀ (P : List Char → Prop), (∃ taken rest, ahead = taken ++ rest ∧ (taken = [] ∧ P rest) ∧
      cur' = Cursor.past ⟨before, ahead, moved⟩ taken rest) ↔ P ahead ∧ cur' = ⟨before, ahead, moved⟩ := by
    intro P
    constructor
    · rintro ⟨taken, rest, rfl, ⟨rfl, hP⟩, rfl⟩
      exact ⟨hP, rfl⟩
    · rintro ⟨hP, rfl⟩
      exact ⟨[], ahead, rfl, ⟨rfl, hP⟩, rfl⟩
  cases piece with
  | one cls =>
    simp only [Takes]
    cases ahead with
    | nil => simp [ends]
    | cons x xs =>
      constructor
      · intro h
        simp only [ends] at h
        split at h
        · next hx =>
          rw [List.mem_singleton] at h
          exact ⟨[x], xs, rfl, ⟨x, hx, rfl⟩, h⟩
        · simp at h
      · rintro ⟨taken, rest, hsplit, ⟨c, hc, rfl⟩, rfl⟩
        obtain ⟨rfl, rfl⟩ : x = c ∧ xs = rest := by simpa using hsplit
        simp only [ends, hc, if_true]
        exact List.mem_singleton.2 rfl
  | run cls least most =>
    rw [ends, List.mem_reverse, List.mem_iff_getElem?]
    simp only [List.getElem?_drop, Cursor.getElem?_walk, Takes]
    constructor
    · rintro ⟨i, hmost, taken, rest, hsplit, hlength, hall, rfl⟩
      rw [← hlength] at hmost
      exact ⟨taken, rest, hsplit, ⟨by omega, hmost, hall⟩, by rw [Cursor.past, hlength]⟩
    · rintro ⟨taken, rest, hsplit, ⟨hleast, hmost, hall⟩, rfl⟩
      have hlength : least + (taken.length - least) = taken.length := by omega
      exact ⟨taken.length - least, by rwa [hlength], taken, rest, hsplit, hlength.symm, hall, by rw [Cursor.past, hlength]⟩
  | choice texts =>
    simp only [ends, List.mem_filterMap, Cursor.after?_eq_some_iff, Takes]
    constructor
    · rintro ⟨text, htext, rest, hahead, rfl⟩
      exact ⟨text.toList, rest, hahead, ⟨text, htext, rfl⟩, rfl⟩
    · rintro ⟨taken, rest, hahead, ⟨text, htext, rfl⟩, rfl⟩
      exact ⟨text, htext, rest, hahead, rfl⟩
  | wordEdge =>
    simp only [Takes, hstay fun rest => before.any Text.isWord ≠ rest.head?.any Text.isWord, ends, bne_iff_ne]
    split <;> simp_all
  | lineEnd =>
    simp only [Takes, hstay fun rest => rest.head?.all (· == '\n') = true, ends]
    split <;> simp_all

namespace Pattern

/-! ## Patterns -/

/-- `p.Takes before taken rest`: the pieces may take the characters one after the other. -/
def Takes : Pattern → Option Char → List Char → List Char → Prop
  | [], _, taken, _ => taken = []
  | piece :: p, before, taken, rest =>
    ∃ first second, taken = first ++ second ∧ piece.Takes before first (second ++ rest) ∧
      Takes p (lastChar before first) second rest

variable {p q : Pattern} {before : Option Char} {taken rest : List Char}

theorem takes_append (p q : Pattern) (before : Option Char) (taken rest : List Char) :
    Takes (p ++ q) before taken rest ↔ ∃ first second, taken = first ++ second ∧
      p.Takes before first (second ++ rest) ∧ q.Takes (lastChar before first) second rest := by
  induction p generalizing before taken with
  | nil =>
    constructor
    · intro h
      exact ⟨[], taken, rfl, rfl, h⟩
    · rintro ⟨-, second, rfl, rfl, h⟩
      exact h
  | cons piece p ih =>
    simp only [List.cons_append, Takes, ih]
    constructor
    · rintro ⟨first, -, rfl, hpiece, second, third, rfl, hp, hq⟩
      refine ⟨first ++ second, third, (List.append_assoc ..).symm, ⟨first, second, rfl, ?_, hp⟩, ?_⟩
      · rwa [← List.append_assoc]
      · rwa [lastChar_append]
    · rintro ⟨-, third, rfl, ⟨first, second, rfl, hpiece, hp⟩, hq⟩
      refine ⟨first, second ++ third, List.append_assoc .., ?_, second, third, rfl, hp, ?_⟩
      · rwa [List.append_assoc]
      · rwa [← lastChar_append]

/-- The end of a match is the end of characters that the pattern may take. -/
theorem exists_of_match? {cur cur' : Cursor} (h : p.match? cur = some cur') :
    ∃ taken rest, cur.ahead = taken ++ rest ∧ p.Takes cur.before taken rest ∧ cur' = cur.past taken rest := by
  induction p generalizing cur with
  | nil =>
    obtain rfl : cur = cur' := Option.some.inj h
    exact ⟨[], cur.ahead, rfl, rfl, rfl⟩
  | cons piece p ih =>
    rw [match?] at h
    obtain ⟨mid, hmid, hrest⟩ := List.exists_of_findSome?_eq_some h
    obtain ⟨first, ahead, hsplit, hpiece, rfl⟩ := (piece.mem_ends cur mid).1 hmid
    obtain ⟨second, rest, rfl, hp, rfl⟩ := ih hrest
    refine ⟨first ++ second, rest, by rw [hsplit, List.append_assoc], ⟨first, second, rfl, hpiece, hp⟩, ?_⟩
    simp only [Cursor.past, lastChar_append, List.length_append, Nat.add_assoc]

/-- Whatever a pattern may take, the matcher does not miss all of it. -/
theorem isSome_match?_of_takes (cur : Cursor) (hsplit : cur.ahead = taken ++ rest)
    (h : p.Takes cur.before taken rest) : (p.match? cur).isSome = true := by
  induction p generalizing cur taken with
  | nil => rfl
  | cons piece p ih =>
    obtain ⟨first, second, rfl, hpiece, hp⟩ := h
    rw [match?, List.findSome?_isSome_iff]
    refine ⟨cur.past first (second ++ rest), ?_, ih _ rfl hp⟩
    exact (piece.mem_ends _ _).2 ⟨first, second ++ rest, by rw [hsplit, List.append_assoc], hpiece, rfl⟩

theorem isSome_match?_iff (p : Pattern) (cur : Cursor) :
    (p.match? cur).isSome = true ↔ ∃ taken rest, cur.ahead = taken ++ rest ∧ p.Takes cur.before taken rest := by
  constructor
  · intro h
    obtain ⟨cur', hcur'⟩ := Option.isSome_iff_exists.1 h
    obtain ⟨taken, rest, hsplit, htakes, -⟩ := exists_of_match? hcur'
    exact ⟨taken, rest, hsplit, htakes⟩
  · rintro ⟨taken, rest, hsplit, htakes⟩
    exact isSome_match?_of_takes cur hsplit htakes

/-! ## Counting -/

/-- The pattern takes at least one character. -/
def Consumes (p : Pattern) : Prop := ∀ before taken rest, p.Takes before taken rest → taken ≠ []

theorem consumes_of_one {cls : CharClass} (h : Piece.one cls ∈ p) : p.Consumes := by
  induction p with
  | nil => simp at h
  | cons piece p ih =>
    rintro before - rest ⟨first, second, rfl, hpiece, hp⟩
    rcases List.mem_cons.1 h with rfl | h
    · obtain ⟨c, -, rfl⟩ := hpiece
      simp
    · simp [ih h _ _ _ hp]

theorem countFrom_of_match {c : Char} {cs : List Char} (hp : p.Consumes)
    (h : (p.match? ⟨before, c :: cs, 0⟩).isSome = true) :
    ∃ taken rest, cs = taken ++ rest ∧ p.Takes before (c :: taken) rest ∧
      p.countFrom 0 before (c :: cs) = p.countFrom taken.length (some c) cs + 1 := by
  obtain ⟨cur, hcur⟩ := Option.isSome_iff_exists.1 h
  obtain ⟨taken, rest, hsplit, htakes, rfl⟩ := exists_of_match? hcur
  cases taken with
  | nil => exact absurd rfl (hp _ _ _ htakes)
  | cons d taken =>
    obtain ⟨rfl, rfl⟩ : c = d ∧ cs = taken ++ rest := by simpa using hsplit
    refine ⟨taken, rest, rfl, htakes, ?_⟩
    rw [countFrom, hcur]
    simp [Cursor.past]

theorem countFrom_of_no_match {c : Char} {cs : List Char} (h : (p.match? ⟨before, c :: cs, 0⟩).isSome = false) :
    p.countFrom 0 before (c :: cs) = p.countFrom 0 (some c) cs := by
  have hnone : p.match? ⟨before, c :: cs, 0⟩ = none := by simpa using h
  rw [countFrom, hnone]

/-- The pattern stands somewhere in the characters. -/
def StandsIn (p : Pattern) (before : Option Char) (cs : List Char) : Prop :=
  ∃ pre taken rest, cs = pre ++ taken ++ rest ∧ p.Takes (lastChar before pre) taken rest

theorem StandsIn.cons {c : Char} {cs : List Char} (h : p.StandsIn (some c) cs) : p.StandsIn before (c :: cs) := by
  obtain ⟨pre, taken, rest, rfl, htakes⟩ := h
  exact ⟨c :: pre, taken, rest, rfl, htakes⟩

theorem standsIn_of_countFrom_pos (hp : p.Consumes) {skip : Nat} {cs : List Char}
    (h : 0 < p.countFrom skip before cs) : p.StandsIn before cs := by
  induction cs generalizing skip before with
  | nil => simp [countFrom] at h
  | cons c cs ih =>
    cases skip with
    | succ skip =>
      rw [countFrom] at h
      exact (ih h).cons
    | zero =>
      cases hmatch : (p.match? ⟨before, c :: cs, 0⟩).isSome with
      | true =>
        obtain ⟨taken, rest, rfl, htakes, -⟩ := countFrom_of_match hp hmatch
        exact ⟨[], c :: taken, rest, rfl, htakes⟩
      | false =>
        rw [countFrom_of_no_match hmatch] at h
        exact (ih h).cons

/-- Up to the first match nothing is skipped, so a place where the pattern stands is
looked at, unless there is a match before it. -/
theorem countFrom_pos (hp : p.Consumes) {cs : List Char} (h : p.StandsIn before cs) : 0 < p.countFrom 0 before cs := by
  induction cs generalizing before with
  | nil =>
    obtain ⟨pre, taken, rest, hsplit, htakes⟩ := h
    have hnil : taken = [] := by simp_all
    exact absurd hnil (hp _ _ _ htakes)
  | cons c cs ih =>
    cases hmatch : (p.match? ⟨before, c :: cs, 0⟩).isSome with
    | true =>
      obtain ⟨taken, rest, -, -, hcount⟩ := countFrom_of_match hp hmatch
      omega
    | false =>
      rw [countFrom_of_no_match hmatch]
      apply ih
      obtain ⟨pre, taken, rest, hsplit, htakes⟩ := h
      cases pre with
      | nil =>
        -- the pattern stands right here, and the matcher would have found it
        have hfound := isSome_match?_of_takes ⟨before, c :: cs, 0⟩ hsplit htakes
        simp [hmatch] at hfound
      | cons d pre =>
        obtain ⟨rfl, rfl⟩ : c = d ∧ cs = pre ++ taken ++ rest := by simpa using hsplit
        exact ⟨pre, taken, rest, rfl, htakes⟩

theorem count_pos_iff (hp : p.Consumes) (s : String) : 0 < p.count s ↔ p.StandsIn none s.toList :=
  ⟨standsIn_of_countFrom_pos hp, countFrom_pos hp⟩

/-! ## Places -/

/-- In how many places of the characters something holds of what stands before and
after the place. -/
def placesFrom (holds : Option Char → List Char → Bool) (before : Option Char) (cs : List Char) : Nat :=
  (List.range cs.length).countP fun i => holds (lastChar before (cs.take i)) (cs.drop i)

theorem placesFrom_cons (holds : Option Char → List Char → Bool) (before : Option Char) (c : Char) (cs : List Char) :
    placesFrom holds before (c :: cs) =
      placesFrom holds (some c) cs + if holds before (c :: cs) then 1 else 0 := by
  rw [placesFrom, List.length_cons, List.range_succ_eq_map, List.countP_cons, List.countP_map]
  rfl

/-- Where only the first character of a match is one that can open a match, no match
hides another one: each place counts where the pattern stands. -/
theorem countFrom_eq_placesFrom (hp : p.Consumes) (opens : Char → Bool)
    (hopens : ∀ before c taken rest, p.Takes before (c :: taken) rest → opens c = true ∧ ∀ d ∈ taken, opens d = false)
    (skip : Nat) (before : Option Char) (cs : List Char) (hskip : ∀ d ∈ cs.take skip, opens d = false) :
    p.countFrom skip before cs = placesFrom (fun before cs => (p.match? ⟨before, cs, 0⟩).isSome) before cs := by
  induction cs generalizing skip before with
  | nil => simp [countFrom, placesFrom]
  | cons c cs ih =>
    rw [placesFrom_cons]
    cases hmatch : (p.match? ⟨before, c :: cs, 0⟩).isSome with
    | true =>
      obtain ⟨taken, rest, rfl, htakes, hcount⟩ := countFrom_of_match hp hmatch
      obtain ⟨hfirst, hothers⟩ := hopens _ _ _ _ htakes
      cases skip with
      | succ skip =>
        rw [hskip c (by simp)] at hfirst
        cases hfirst
      | zero =>
        rw [hcount, ih taken.length (some c) (by simpa using hothers)]
        simp
    | false =>
      cases skip with
      | succ skip =>
        rw [countFrom, ih skip (some c) (fun d hd => hskip d (by simp [hd]))]
        simp
      | zero =>
        rw [countFrom_of_no_match hmatch, ih 0 (some c) (by simp)]
        simp

end Pattern

end RefactorAudit
