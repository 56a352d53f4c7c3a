import RefactorAudit.Proofs.Pairing.Correspondence
import RefactorAudit.Proofs.Pairing.Operations
import RefactorAudit.Proofs.Table

/-!
# A correspondence in two tables

A correspondence can be kept in two tables, from sources to targets and back. They are
changed one after the other, and a question is answered from one of them alone. Each
table undoes the other in every run (`TwoWay.linked_run`), so the answers are those of
the pairs that were added with success (`TwoWay.Linked.shows`), and the same that a
`Correspondence` gives (`TwoWay.perform_agrees`). A pair that is refused leaves both
tables as they were (`TwoWay.perform_of_refused`), also where only one of its sides is
taken.
-/

namespace RefactorAudit

open Correspondence

/-- A table of targets and a table of sources. -/
structure TwoWay (α β : Type) where
  forward : Table α β
  backward : Table β α

namespace TwoWay

variable {α β : Type} [DecidableEq α] [DecidableEq β]

def empty : TwoWay α β := ⟨.empty, .empty⟩

/-- Puts the pair into one table, then into the other. A taken source is reported before
a taken target. -/
def add (a : α) (b : β) : EStateM (Taken α β) (TwoWay α β) Unit := do
  if (← get).forward.contains a then throw (.source a)
  if (← get).backward.contains b then throw (.target b)
  modify fun s => { s with forward := s.forward.set a b }
  modify fun s => { s with backward := s.backward.set b a }

def target? (s : TwoWay α β) (a : α) : Option β := s.forward.get? a

def source? (s : TwoWay α β) (b : β) : Option α := s.backward.get? b

def isSource (s : TwoWay α β) (a : α) : Bool := s.forward.contains a

def isTarget (s : TwoWay α β) (b : β) : Bool := s.backward.contains b

def pairs (s : TwoWay α β) : List (α × β) := s.forward.entries

def sources (s : TwoWay α β) : List α := s.forward.keys

def size (s : TwoWay α β) : Nat := s.forward.entries.length

/-- The answer to an operation, and the tables after it. -/
def perform (s : TwoWay α β) : Operation α β → Answer α β × TwoWay α β
  | .add a b =>
    match (add a b).run s with
    | .ok _ s' => (.added, s')
    | .error why s' => (.refused why, s')
  | .target a => (.target (s.target? a), s)
  | .source b => (.source (s.source? b), s)
  | .isSource a => (.truth (s.isSource a), s)
  | .isTarget b => (.truth (s.isTarget b), s)
  | .pairs => (.pairs s.pairs, s)
  | .sources => (.sources s.sources, s)
  | .size => (.size s.size, s)

/-- The answers to operations on empty tables, and the tables after them. -/
def run (ops : List (Operation α β)) : List (Answer α β) × TwoWay α β := Operation.run perform empty ops

variable {s : TwoWay α β} {a : α} {b : β}

/-! ## What an addition does -/

theorem perform_add_of_source (ha : s.isSource a = true) : s.perform (.add a b) = (.refused (.source a), s) := by
  rw [isSource] at ha
  simp [perform, add, ha]

theorem perform_add_of_target (ha : s.isSource a = false) (hb : s.isTarget b = true) :
    s.perform (.add a b) = (.refused (.target b), s) := by
  rw [isSource] at ha
  rw [isTarget] at hb
  simp [perform, add, ha, hb]

theorem perform_add_of_free (ha : s.isSource a = false) (hb : s.isTarget b = false) :
    s.perform (.add a b) = (.added, ⟨s.forward.set a b, s.backward.set b a⟩) := by
  rw [isSource] at ha
  rw [isTarget] at hb
  simp [perform, add, ha, hb]

/-- A pair is refused for its source, or else for its target, or it is added. -/
theorem cases_add (s : TwoWay α β) (a : α) (b : β) :
    s.isSource a = true ∨ s.isSource a = false ∧ s.isTarget b = true ∨ s.isSource a = false ∧ s.isTarget b = false := by
  cases s.isSource a <;> cases s.isTarget b <;> simp

/-- What is refused changes neither table. -/
theorem perform_of_refused {why : Taken α β} (h : (s.perform (.add a b)).1 = .refused why) :
    s.perform (.add a b) = (.refused why, s) := by
  rcases s.cases_add a b with ha | ⟨ha, hb⟩ | ⟨ha, hb⟩
  · rw [perform_add_of_source ha] at h ⊢
    exact Prod.ext h rfl
  · rw [perform_add_of_target ha hb] at h ⊢
    exact Prod.ext h rfl
  · rw [perform_add_of_free ha hb] at h
    cases h

/-! ## The tables undo each other -/

def Linked (s : TwoWay α β) : Prop := ∀ a b, s.forward.get? a = some b ↔ s.backward.get? b = some a

theorem linked_empty : (empty : TwoWay α β).Linked := fun a b => by simp [empty]

/-- Putting a pair of free sides into both tables keeps them linked. -/
theorem Linked.set (h : s.Linked) (ha : s.isSource a = false) (hb : s.isTarget b = false) :
    Linked ⟨s.forward.set a b, s.backward.set b a⟩ := by
  have hnoTarget : s.forward.get? a = none := Table.get?_eq_none ha
  have hnoSource : s.backward.get? b = none := Table.get?_eq_none hb
  intro x y
  rw [Table.get?_set, Table.get?_set]
  by_cases hx : x = a
  · by_cases hy : y = b
    · simp [hx, hy]
    · have hother : s.backward.get? y ≠ some a := by
        rw [Ne, ← h a y, hnoTarget]
        exact nofun
      simp [hx, hy, hother, Ne.symm hy]
  · by_cases hy : y = b
    · have hother : s.forward.get? x ≠ some b := by
        rw [Ne, h x b, hnoSource]
        exact nofun
      simp [hx, hy, hother, Ne.symm hx]
    · rw [if_neg hx, if_neg hy]
      exact h x y

theorem linked_perform (s : TwoWay α β) (op : Operation α β) (h : s.Linked) : (s.perform op).2.Linked := by
  cases op with
  | add a b =>
    rcases s.cases_add a b with ha | ⟨ha, hb⟩ | ⟨ha, hb⟩
    · rwa [perform_add_of_source ha]
    · rwa [perform_add_of_target ha hb]
    · rw [perform_add_of_free ha hb]
      exact h.set ha hb
  | _ => exact h

theorem linked_run (ops : List (Operation α β)) : (run ops).2.Linked :=
  Operation.run_keeps linked_perform linked_empty ops

/-! ## The pairs of a run -/

/-- An operation adds its pair, if it is an addition that succeeds, and no other. -/
theorem pairs_perform (s : TwoWay α β) (op : Operation α β) :
    (s.perform op).2.pairs = s.pairs ++ addedPairs [op] [(s.perform op).1] := by
  cases op with
  | add a b =>
    rcases s.cases_add a b with ha | ⟨ha, hb⟩ | ⟨ha, hb⟩
    · rw [perform_add_of_source ha]
      exact (List.append_nil _).symm
    · rw [perform_add_of_target ha hb]
      exact (List.append_nil _).symm
    · rw [perform_add_of_free ha hb]
      exact Table.entries_set_of_new ha b
  | _ =>
    -- to ask changes nothing
    exact (List.append_nil _).symm

theorem pairs_run_from (s : TwoWay α β) (ops : List (Operation α β)) :
    (Operation.run perform s ops).2.pairs = s.pairs ++ addedPairs ops (Operation.run perform s ops).1 := by
  induction ops generalizing s with
  | nil => exact (List.append_nil _).symm
  | cons op ops ih => rw [Operation.run, ih, pairs_perform, List.append_assoc, ← addedPairs_cons]

/-! ## What is seen -/

/-- All that can be seen of two tables to which these pairs were added. -/
structure Shows [ToString α] [ToString β] (s : TwoWay α β) (added : List (α × β)) : Prop where
  pairs : s.pairs = added
  sources : s.sources = added.map Prod.fst
  size : s.size = added.length
  target_iff : ∀ a b, s.target? a = some b ↔ (a, b) ∈ added
  source_iff : ∀ a b, s.source? b = some a ↔ (a, b) ∈ added
  isSource_iff : ∀ a, s.isSource a = true ↔ s.target? a ≠ none
  isTarget_iff : ∀ b, s.isTarget b = true ↔ s.source? b ≠ none
  refuses_iff : ∀ a b, (∃ why, (s.perform (.add a b)).1 = .refused why) ↔
    a ∈ added.map Prod.fst ∨ b ∈ added.map Prod.snd
  /-- A taken source is named, also where the target is taken too. -/
  names_source : ∀ a b, a ∈ added.map Prod.fst → ∃ why, (s.perform (.add a b)).1 = .refused why ∧
    why.message = "Legacy node " ++ toString a ++ " is already mapped"
  names_target : ∀ a b, a ∉ added.map Prod.fst → b ∈ added.map Prod.snd →
    ∃ why, (s.perform (.add a b)).1 = .refused why ∧
      why.message = "Refactored node " ++ toString b ++ " is already a mapping target"

omit [DecidableEq β] in
theorem target?_eq_some_iff : s.target? a = some b ↔ (a, b) ∈ s.pairs :=
  lookup_eq_some_iff_mem s.forward.keys_nodup

omit [DecidableEq β] in
theorem isSource_iff_mem : s.isSource a = true ↔ a ∈ s.pairs.map Prod.fst := List.contains_iff_mem

theorem Linked.source?_eq_some_iff (h : s.Linked) : s.source? b = some a ↔ (a, b) ∈ s.pairs :=
  (h a b).symm.trans target?_eq_some_iff

/-- The keys of `backward` are the targets that `forward` holds. -/
theorem Linked.isTarget_iff_mem (h : s.Linked) : s.isTarget b = true ↔ b ∈ s.pairs.map Prod.snd := by
  rw [isTarget, Table.contains_iff_get?, Option.ne_none_iff_exists', List.mem_map]
  constructor
  · rintro ⟨a, ha⟩
    exact ⟨(a, b), h.source?_eq_some_iff.1 ha, rfl⟩
  · rintro ⟨⟨a, b⟩, hpair, rfl⟩
    exact ⟨a, h.source?_eq_some_iff.2 hpair⟩

theorem Linked.shows [ToString α] [ToString β] (h : s.Linked) : s.Shows s.pairs where
  pairs := rfl
  sources := rfl
  size := rfl
  target_iff _ _ := target?_eq_some_iff
  source_iff _ _ := h.source?_eq_some_iff
  isSource_iff _ := Table.contains_iff_get?
  isTarget_iff _ := Table.contains_iff_get?
  refuses_iff a b := by
    rw [← isSource_iff_mem, ← h.isTarget_iff_mem]
    rcases s.cases_add a b with ha | ⟨ha, hb⟩ | ⟨ha, hb⟩
    · simp [perform_add_of_source ha, ha]
    · simp [perform_add_of_target ha hb, hb]
    · simp [perform_add_of_free ha hb, ha, hb]
  names_source a b ha := by
    rw [perform_add_of_source (isSource_iff_mem.2 ha)]
    exact ⟨_, rfl, rfl⟩
  names_target a b ha hb := by
    rw [← isSource_iff_mem, Bool.not_eq_true] at ha
    rw [perform_add_of_target ha (h.isTarget_iff_mem.2 hb)]
    exact ⟨_, rfl, rfl⟩

/-! ## The same answers as a correspondence -/

/-- The tables hold the pairs of the correspondence. -/
def Holds (s : TwoWay α β) (m : Correspondence α β) : Prop := s.Linked ∧ s.pairs = m.pairs

variable {m : Correspondence α β}

theorem Holds.isSource_eq (h : s.Holds m) (a : α) : s.isSource a = m.isSource a := by
  rw [Bool.eq_iff_iff, isSource_iff_mem, Correspondence.isSource_iff, h.2]
  exact Iff.rfl

theorem Holds.isTarget_eq (h : s.Holds m) (b : β) : s.isTarget b = m.isTarget b := by
  rw [Bool.eq_iff_iff, h.1.isTarget_iff_mem, Correspondence.isTarget_iff, h.2]
  exact Iff.rfl

theorem Holds.source?_eq (h : s.Holds m) (b : β) : s.source? b = m.source? b := by
  refine Option.ext fun a => ?_
  rw [h.1.source?_eq_some_iff, Correspondence.source?_eq_some_iff, h.2]

theorem Holds.target?_eq (h : s.Holds m) (a : α) : s.target? a = m.target? a := by
  refine Option.ext fun b => ?_
  rw [target?_eq_some_iff, Correspondence.target?_eq_some_iff, h.2]

theorem perform_agrees (s : TwoWay α β) (m : Correspondence α β) (op : Operation α β) (h : s.Holds m) :
    (s.perform op).1 = (m.perform op).1 ∧ (s.perform op).2.Holds (m.perform op).2 := by
  cases op with
  | add a b =>
    have hsource : s.isSource a = true ↔ a ∈ m.sources := by rw [h.isSource_eq, Correspondence.isSource_iff]
    have htarget : s.isTarget b = true ↔ b ∈ m.targets := by rw [h.isTarget_eq, Correspondence.isTarget_iff]
    rcases s.cases_add a b with ha | ⟨ha, hb⟩ | ⟨ha, hb⟩
    · rw [perform_add_of_source ha, Correspondence.perform, add_of_mem_sources (hsource.1 ha)]
      exact ⟨rfl, h⟩
    · have hfree : a ∉ m.sources := by rw [← hsource, ha]; exact nofun
      rw [perform_add_of_target ha hb, Correspondence.perform, add_of_mem_targets hfree (htarget.1 hb)]
      exact ⟨rfl, h⟩
    · have hfree : a ∉ m.sources := by rw [← hsource, ha]; exact nofun
      have hfree' : b ∉ m.targets := by rw [← htarget, hb]; exact nofun
      obtain ⟨m', hm', hpairs⟩ := m.add_ok hfree hfree'
      rw [perform_add_of_free ha hb, Correspondence.perform, hm']
      refine ⟨rfl, h.1.set ha hb, ?_⟩
      rw [hpairs, ← h.2]
      exact Table.entries_set_of_new ha b
  | target a => exact ⟨congrArg Answer.target (h.target?_eq a), h⟩
  | source b => exact ⟨congrArg Answer.source (h.source?_eq b), h⟩
  | isSource a => exact ⟨congrArg Answer.truth (h.isSource_eq a), h⟩
  | isTarget b => exact ⟨congrArg Answer.truth (h.isTarget_eq b), h⟩
  | pairs => exact ⟨congrArg Answer.pairs h.2, h⟩
  | sources => exact ⟨congrArg (fun items : List (α × β) => Answer.sources (items.map Prod.fst)) h.2, h⟩
  | size => exact ⟨congrArg (fun items : List (α × β) => Answer.size items.length) h.2, h⟩

theorem holds_empty : (empty : TwoWay α β).Holds Correspondence.empty := ⟨linked_empty, rfl⟩

/-! ## Runs -/

/-- After a refused pair all goes on as if it had not been tried. -/
theorem run_of_refused {why : Taken α β} {ops : List (Operation α β)}
    (h : ((run ops).2.perform (.add a b)).1 = .refused why) (later : List (Operation α β)) :
    ∃ answers last, run (ops ++ later) = ((run ops).1 ++ answers, last) ∧
      run (ops ++ .add a b :: later) = ((run ops).1 ++ .refused why :: answers, last) := by
  refine ⟨_, _, Operation.run_append _ _ _, ?_⟩
  rw [run, Operation.run_append, Operation.run]
  rw [run] at h
  rw [perform_of_refused h]
  rfl

/-- However tables are used from empty on, they undo each other and show the pairs that
were added with success. A refused pair leaves no trace, and the answers are those of a
correspondence. -/
theorem run_shows [ToString α] [ToString β] (ops : List (Operation α β)) :
    (run ops).2.Linked ∧ (run ops).2.Shows (addedPairs ops (run ops).1) ∧
    (∀ a b why, ((run ops).2.perform (.add a b)).1 = .refused why →
      ((run ops).2.perform (.add a b)).2 = (run ops).2 ∧
      ∀ later, ∃ answers last, run (ops ++ later) = ((run ops).1 ++ answers, last) ∧
        run (ops ++ .add a b :: later) = ((run ops).1 ++ .refused why :: answers, last)) ∧
    (run ops).1 = (Operation.run Correspondence.perform .empty ops).1 ∧
    (run ops).2.pairs = (Operation.run Correspondence.perform .empty ops).2.pairs := by
  obtain ⟨hanswers, -, hpairs⟩ := Operation.run_agrees perform_agrees holds_empty ops
  have hadded : (run ops).2.pairs = addedPairs ops (run ops).1 := pairs_run_from empty ops
  refine ⟨linked_run ops, ?_, ?_, hanswers, hpairs⟩
  · rw [← hadded]
    exact (linked_run ops).shows
  · intro a b why hrefused
    rw [perform_of_refused hrefused]
    exact ⟨rfl, run_of_refused hrefused⟩

end TwoWay

end RefactorAudit
