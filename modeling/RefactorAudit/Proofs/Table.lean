import RefactorAudit.Table

/-!
# What a table holds

One equation for each change of a table: the changed key has its new value or none,
and all other keys what they had.
-/

namespace RefactorAudit.Table

variable {κ α : Type} [DecidableEq κ]

theorem lookup_cons (k x : κ) (a : α) (es : List (κ × α)) :
    ((k, a) :: es).lookup x = if x = k then some a else es.lookup x := by
  by_cases hx : x = k
  · rw [if_pos hx, hx, List.lookup_cons_self]
  · rw [if_neg hx, List.lookup_cons, beq_eq_false_iff_ne.2 hx]

theorem lookup_setEntry (k x : κ) (a : α) (es : List (κ × α)) :
    (setEntry k a es).lookup x = if x = k then some a else es.lookup x := by
  induction es with
  | nil => exact lookup_cons k x a []
  | cons e es ih =>
    obtain ⟨k', a'⟩ := e
    by_cases hk : k' = k
    · rw [setEntry, if_pos hk, lookup_cons, lookup_cons, hk]
      split <;> rfl
    · rw [setEntry, if_neg hk, lookup_cons, lookup_cons, ih]
      grind

theorem lookup_filter_ne (k x : κ) (es : List (κ × α)) :
    (es.filter (·.1 ≠ k)).lookup x = if x = k then none else es.lookup x := by
  induction es with
  | nil => simp
  | cons e es ih =>
    obtain ⟨k', a'⟩ := e
    rw [lookup_cons]
    by_cases hk : k' = k
    · rw [List.filter_cons_of_neg (by simpa using hk), ih]
      grind
    · rw [List.filter_cons_of_pos (by simpa using hk), lookup_cons, ih]
      grind

@[simp] theorem get?_empty (x : κ) : (empty : Table κ α).get? x = none := rfl

@[simp] theorem get?_set (t : Table κ α) (k x : κ) (a : α) : (t.set k a).get? x = if x = k then some a else t.get? x :=
  lookup_setEntry k x a t.entries

@[simp] theorem get?_erase (t : Table κ α) (k x : κ) : (t.erase k).get? x = if x = k then none else t.get? x :=
  lookup_filter_ne k x t.entries

theorem lookup_eq_none {k : κ} {es : List (κ × α)} (h : k ∉ es.map Prod.fst) : es.lookup k = none := by
  rw [List.lookup_eq_none_iff]
  intro e he
  have hne : k ≠ e.1 := fun heq => h (heq ▸ List.mem_map_of_mem he)
  simpa using hne

theorem not_mem_keys {t : Table κ α} {k : κ} (h : t.contains k = false) : k ∉ t.entries.map Prod.fst := by
  intro hmem
  have hcontains : t.contains k = true := List.contains_iff_mem.2 hmem
  rw [hcontains] at h
  cases h

theorem get?_eq_none {t : Table κ α} {k : κ} (h : t.contains k = false) : t.get? k = none :=
  lookup_eq_none (not_mem_keys h)

theorem exists_get? {t : Table κ α} {k : κ} (h : t.contains k = true) : ∃ a, t.get? k = some a := by
  rw [← Option.isSome_iff_exists, get?, List.lookup_isSome_iff]
  obtain ⟨e, he, rfl⟩ := List.mem_map.1 (List.contains_iff_mem.1 h)
  exact ⟨e, he, beq_self_eq_true _⟩

theorem contains_iff_get? {t : Table κ α} {k : κ} : t.contains k = true ↔ t.get? k ≠ none := by
  cases hcontains : t.contains k with
  | false => simp [get?_eq_none hcontains]
  | true =>
    obtain ⟨a, ha⟩ := exists_get? hcontains
    simp [ha]

theorem setEntry_of_not_mem {k : κ} (a : α) {es : List (κ × α)} (h : k ∉ es.map Prod.fst) :
    setEntry k a es = es ++ [(k, a)] := by
  induction es with
  | nil => rfl
  | cons e es ih =>
    obtain ⟨k', a'⟩ := e
    simp only [List.map_cons, List.mem_cons, not_or] at h
    rw [setEntry, if_neg (Ne.symm h.1), ih h.2, List.cons_append]

/-- A new key comes behind the others. -/
theorem entries_set_of_new {t : Table κ α} {k : κ} (h : t.contains k = false) (a : α) :
    (t.set k a).entries = t.entries ++ [(k, a)] :=
  setEntry_of_not_mem a (not_mem_keys h)

end RefactorAudit.Table
