/-!
# Ordered tables

A table holds each key once, in the order in which the keys came first. Setting a
key again changes its value and keeps its place.
-/

namespace RefactorAudit

structure Table (κ α : Type) where
  entries : List (κ × α)
  keys_nodup : (entries.map Prod.fst).Nodup

namespace Table

variable {κ α : Type} [DecidableEq κ]

theorem nodup_keys_nil (κ α : Type) : (([] : List (κ × α)).map Prod.fst).Nodup := .nil

def empty : Table κ α := ⟨[], nodup_keys_nil κ α⟩

instance : Inhabited (Table κ α) := ⟨empty⟩

def keys (t : Table κ α) : List κ := t.entries.map Prod.fst

def get? (t : Table κ α) (k : κ) : Option α := t.entries.lookup k

def contains (t : Table κ α) (k : κ) : Bool := t.keys.contains k

/-- The entries with the value of `k` replaced, or `k` added at the end. -/
def setEntry (k : κ) (a : α) : List (κ × α) → List (κ × α)
  | [] => [(k, a)]
  | (k', a') :: rest => if k' = k then (k, a) :: rest else (k', a') :: setEntry k a rest

theorem mem_keys_setEntry {k x : κ} {a : α} {es : List (κ × α)} :
    x ∈ (setEntry k a es).map Prod.fst ↔ x = k ∨ x ∈ es.map Prod.fst := by
  induction es with
  | nil => simp [setEntry]
  | cons e es ih =>
    obtain ⟨k', a'⟩ := e
    by_cases h : k' = k
    · simp [setEntry, h]
    · simp only [setEntry, h, if_false, List.map_cons, List.mem_cons, ih]
      grind

theorem nodup_setEntry {k : κ} {a : α} {es : List (κ × α)} (h : (es.map Prod.fst).Nodup) :
    ((setEntry k a es).map Prod.fst).Nodup := by
  induction es with
  | nil => simp [setEntry]
  | cons e es ih =>
    obtain ⟨k', a'⟩ := e
    simp only [List.map_cons, List.nodup_cons] at h
    by_cases hk : k' = k
    · subst hk
      simpa [setEntry] using h
    · simp only [setEntry, hk, if_false, List.map_cons, List.nodup_cons]
      exact ⟨fun hm => (mem_keys_setEntry.1 hm).elim hk h.1, ih h.2⟩

def set (t : Table κ α) (k : κ) (a : α) : Table κ α := ⟨setEntry k a t.entries, nodup_setEntry t.keys_nodup⟩

/-- The table without the key. -/
def erase (t : Table κ α) (k : κ) : Table κ α :=
  ⟨t.entries.filter (·.1 ≠ k), t.keys_nodup.sublist (List.filter_sublist.map _)⟩

/-- The table that setting the pairs one after the other gives. -/
def ofList (pairs : List (κ × α)) : Table κ α := pairs.foldl (fun t p => t.set p.1 p.2) empty

end Table

end RefactorAudit
