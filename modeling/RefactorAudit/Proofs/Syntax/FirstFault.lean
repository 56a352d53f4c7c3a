import Mathlib.Logic.Function.Iterate
import RefactorAudit.Proofs.Syntax.Faults
import RefactorAudit.Proofs.Syntax.Flatten

/-!
# The first fault

The fault that is reported for a consistent tree is that of its first faulty node in
pre-order, although only marked children are looked into (`firstFault?_eq`): a child
without a mark has no faulty node below it. The search can be run as a loop over a stack
of nodes. A turn of the loop does not change what the search will come to
(`Search.outcome_turn`) and leaves less to do (`Search.effort_turn`), so the loop ends with
the fault of the tree (`Search.iterate_turn`).
-/

namespace RefactorAudit

theorem Grammars.parse_of_find? {g : Grammars} {language : String} {l : Language} (hl : g.find? language = some l)
    (grammar : Grammar) (source : String) :
    g.parse grammar language source =
      if (grammar l source).hasError then .error (.faulty language (grammar l source).fault)
      else .ok (l, grammar l source) := by
  simp only [parse, hl]

namespace Concrete

/-! ## Pre-order -/

theorem subtrees_eq (c : Concrete) : c.subtrees = c :: c.children.flatMap subtrees := by
  have hall : ∀ cs : List Concrete, subtreesOfAll cs = cs.flatMap subtrees := by
    intro cs
    induction cs with
    | nil => rfl
    | cons d rest ih => rw [subtreesOfAll, ih, List.flatMap_cons]
  cases c
  rw [subtrees, hall]

theorem within_of_mem_subtrees {c d : Concrete} (h : d ∈ c.subtrees) : Within d c := by
  rw [subtrees_eq, List.mem_cons, List.mem_flatMap] at h
  rcases h with rfl | ⟨e, he, hd⟩
  · exact .self
  · exact .inChild he (within_of_mem_subtrees hd)
termination_by c.size
decreasing_by exact size_lt_of_mem_children he

instance decidableIsFaulty (c : Concrete) : Decidable c.IsFaulty :=
  inferInstanceAs (Decidable (_ ∨ _))

/-- The first faulty node in pre-order, whatever the marks are. -/
def firstFaulty? (c : Concrete) : Option Concrete := c.subtrees.find? fun d => d.IsFaulty

theorem firstFaulty?_of_isFaulty {c : Concrete} (h : c.IsFaulty) : c.firstFaulty? = some c := by
  rw [firstFaulty?, subtrees_eq, List.find?_cons_of_pos (by simpa using h)]

theorem firstFaulty?_of_not_isFaulty {c : Concrete} (h : ¬c.IsFaulty) :
    c.firstFaulty? = c.children.findSome? firstFaulty? := by
  rw [firstFaulty?, subtrees_eq, List.find?_cons_of_neg (by simpa using h), List.find?_flatMap]
  rfl

/-! ## Marks -/

/-- The search looks into such nodes. -/
def isMarked (c : Concrete) : Bool := c.hasError || c.missing

/-- What is reported of a faulty node. -/
def described (c : Concrete) : Fault :=
  if c.kind = "ERROR" then .unexpected c.span.start else .missing c.kind c.span.start

theorem place?_described (c : Concrete) : c.described.place? = some c.span.start := by
  unfold described
  split <;> rfl

theorem detail_described (c : Concrete) :
    c.described.detail = if c.kind = "ERROR" then "unexpected syntax" else s!"missing '{c.kind}'" := by
  unfold described
  split <;> rfl

theorem firstFault?_of_isFaulty {c : Concrete} (h : c.IsFaulty) : c.firstFault? = some c.described := by
  obtain ⟨kind, text, span, named, missing, hasError, field, children⟩ := c
  rw [firstFault?, described]
  by_cases herror : kind = "ERROR"
  · simp [herror]
  · have hmissing : missing = true := h.resolve_left herror
    simp [herror, hmissing]

theorem firstFaultIn?_eq (cs : List Concrete) : firstFaultIn? cs = (cs.filter isMarked).findSome? firstFault? := by
  induction cs with
  | nil => rfl
  | cons c rest ih =>
    rw [firstFaultIn?, ih]
    cases hmark : c.isMarked with
    | false =>
      rw [List.filter_cons_of_neg (by simp [hmark])]
      exact if_neg (by simpa [isMarked] using hmark)
    | true =>
      rw [List.filter_cons_of_pos hmark, List.findSome?_cons, if_pos (by simpa [isMarked] using hmark)]
      cases c.firstFault? <;> rfl

theorem firstFault?_of_not_isFaulty {c : Concrete} (h : ¬c.IsFaulty) :
    c.firstFault? = (c.children.filter isMarked).findSome? firstFault? := by
  rw [← firstFaultIn?_eq]
  obtain ⟨kind, text, span, named, missing, hasError, field, children⟩ := c
  simp only [IsFaulty, not_or, Bool.not_eq_true] at h
  simp [firstFault?, h]

/-- Passing over a tree without a mark misses nothing. -/
theorem Consistent.firstFaulty?_eq_none {c : Concrete} (h : Consistent c) (hmark : c.isMarked = false) :
    c.firstFaulty? = none := by
  have hsound : ¬c.HasFault := by
    rw [← hasError_iff_hasFault h]
    intro herror
    simp [isMarked, herror] at hmark
  rw [firstFaulty?, List.find?_eq_none]
  intro d hd hfaulty
  exact hsound ⟨d, within_of_mem_subtrees hd, by simpa using hfaulty⟩

/-- Among siblings the marked ones are enough. -/
theorem findSome?_filter_isMarked {cs : List Concrete}
    (hmarked : ∀ c ∈ cs, c.isMarked = true → c.firstFault? = c.firstFaulty?.map described)
    (hunmarked : ∀ c ∈ cs, c.isMarked = false → c.firstFaulty? = none) :
    (cs.filter isMarked).findSome? firstFault? = (cs.findSome? firstFaulty?).map described := by
  induction cs with
  | nil => rfl
  | cons c rest ih =>
    rw [List.forall_mem_cons] at hmarked hunmarked
    have hrest := ih hmarked.2 hunmarked.2
    cases hmark : c.isMarked with
    | false =>
      rw [List.filter_cons_of_neg (by simp [hmark]), List.findSome?_cons, hunmarked.1 hmark]
      exact hrest
    | true =>
      rw [List.filter_cons_of_pos hmark, List.findSome?_cons, List.findSome?_cons, hmarked.1 hmark, hrest]
      cases c.firstFaulty? <;> rfl

theorem Consistent.firstFault?_eq {c : Concrete} (h : Consistent c) :
    c.firstFault? = c.firstFaulty?.map described := by
  by_cases hfaulty : c.IsFaulty
  · rw [firstFault?_of_isFaulty hfaulty, firstFaulty?_of_isFaulty hfaulty]
    rfl
  · rw [firstFault?_of_not_isFaulty hfaulty, firstFaulty?_of_not_isFaulty hfaulty]
    apply findSome?_filter_isMarked
    · intro e he _
      exact firstFault?_eq (h.child he)
    · intro e he hmark
      exact (h.child he).firstFaulty?_eq_none hmark
termination_by c.size
decreasing_by exact size_lt_of_mem_children he

/-! ## A search with a stack -/

theorem sizeAll_filter_le (p : Concrete → Bool) (cs : List Concrete) : sizeAll (cs.filter p) ≤ sizeAll cs := by
  induction cs with
  | nil => exact Nat.le_refl _
  | cons c rest ih =>
    rw [List.filter_cons]
    split <;> simp only [sizeAll] <;> omega

/-- A search has found a fault, or there are nodes to visit, the next one at the end. -/
inductive Search where
  | found (fault : Fault)
  | pending (stack : List Concrete)

namespace Search

/-- One turn takes the last node from the stack. If it is not faulty, its marked
children go there, the first one last. With an empty stack there is nothing to
report. -/
def turn : Search → Search
  | .found fault => .found fault
  | .pending stack =>
    match stack.getLast? with
    | none => .found .unlocated
    | some c =>
      if c.kind = "ERROR" then .found (.unexpected c.span.start)
      else if c.missing then .found (.missing c.kind c.span.start)
      else .pending (stack.dropLast ++ (c.children.filter isMarked).reverse)

/-- What the search comes to: the first fault in the nodes to visit. -/
def outcome : Search → Fault
  | .found fault => fault
  | .pending stack => (stack.reverse.findSome? firstFault?).getD .unlocated

/-- How many turns there are at most before the search has ended. -/
def effort : Search → Nat
  | .found _ => 0
  | .pending stack => sizeAll stack + 1

theorem turn_of_isFaulty (rest : List Concrete) {c : Concrete} (h : c.IsFaulty) :
    turn (.pending (rest ++ [c])) = .found c.described := by
  by_cases herror : c.kind = "ERROR"
  · simp [turn, described, herror]
  · have hmissing : c.missing = true := h.resolve_left herror
    simp [turn, described, herror, hmissing]

theorem turn_of_not_isFaulty (rest : List Concrete) {c : Concrete} (h : ¬c.IsFaulty) :
    turn (.pending (rest ++ [c])) = .pending (rest ++ (c.children.filter isMarked).reverse) := by
  simp only [IsFaulty, not_or, Bool.not_eq_true] at h
  simp [turn, h]

theorem outcome_turn (s : Search) : s.turn.outcome = s.outcome := by
  cases s with
  | found fault => rfl
  | pending stack =>
    rcases List.eq_nil_or_concat stack with rfl | ⟨rest, c, rfl⟩
    · rfl
    · rw [List.concat_eq_append]
      by_cases hfaulty : c.IsFaulty
      · simp [turn_of_isFaulty rest hfaulty, outcome, firstFault?_of_isFaulty hfaulty]
      · -- pushed in reverse order, the children are visited in their own one
        rw [turn_of_not_isFaulty rest hfaulty]
        simp only [outcome, List.reverse_append, List.reverse_reverse, List.findSome?_append, List.reverse_singleton,
          firstFault?_of_not_isFaulty hfaulty, List.findSome?_singleton]

theorem effort_turn (s : Search) : s.turn.effort ≤ s.effort - 1 := by
  cases s with
  | found fault => exact Nat.le_refl 0
  | pending stack =>
    rcases List.eq_nil_or_concat stack with rfl | ⟨rest, c, rfl⟩
    · exact Nat.le_refl 0
    · rw [List.concat_eq_append]
      by_cases hfaulty : c.IsFaulty
      · rw [turn_of_isFaulty rest hfaulty]
        exact Nat.zero_le _
      · rw [turn_of_not_isFaulty rest hfaulty]
        have hfewer := sizeAll_filter_le isMarked c.children
        simp only [effort, sizeAll_append, sizeAll_reverse, sizeAll, size_eq c]
        omega

theorem iterate_turn {s : Search} {turns : Nat} (h : s.effort ≤ turns) : turn^[turns] s = .found s.outcome := by
  induction turns generalizing s with
  | zero =>
    cases s with
    | found fault => rfl
    | pending stack => simp [effort] at h
  | succ turns ih =>
    have hturn := s.effort_turn
    rw [Function.iterate_succ_apply, ih (by omega), outcome_turn]

end Search

/-! ## Reports -/

theorem Consistent.exists_firstFaulty? {c : Concrete} (h : Consistent c) (hmark : c.hasError = true) :
    ∃ d, c.firstFaulty? = some d ∧ c.fault = d.described := by
  have hfound := h.firstFault?_ne_none hmark
  rw [h.firstFault?_eq, Ne, Option.map_eq_none_iff, ← Ne, Option.ne_none_iff_exists'] at hfound
  obtain ⟨d, hd⟩ := hfound
  refine ⟨d, hd, ?_⟩
  rw [fault, h.firstFault?_eq, hd]
  rfl

/-- The search through a consistent tree that is marked ends with the place and the kind
of the first faulty node in pre-order; a loop over a stack gets there in no more turns
than there are nodes, and one. Parsing a source fails with a place exactly if there is a
faulty node anywhere in its tree, and then with this fault. -/
theorem search_reports_first_fault (c : Concrete) (h : c.Consistent) :
    (c.hasError = true →
      ∃ d, c.subtrees.find? (fun e => e.IsFaulty) = some d ∧
        Search.turn^[c.size + 1] (.pending [c]) = .found c.fault ∧
        c.fault.place? = some d.span.start ∧
        c.fault.detail = if d.kind = "ERROR" then "unexpected syntax" else s!"missing '{d.kind}'") ∧
    ∀ (g : Grammars) (grammar : Grammar) (language source : String) (l : Language),
      g.find? language = some l → grammar l source = c →
      ((∃ f place, g.parse grammar language source = .error (.faulty language f) ∧ f.place? = some place) ↔
        c.HasFault) ∧
      (c.HasFault → g.parse grammar language source = .error (.faulty language c.fault)) := by
  constructor
  · intro hmark
    obtain ⟨d, hd, hfault⟩ := h.exists_firstFaulty? hmark
    refine ⟨d, hd, ?_, ?_, ?_⟩
    · rw [Search.iterate_turn (by simp [Search.effort, sizeAll])]
      simp [Search.outcome, fault]
    · rw [hfault, place?_described]
    · rw [hfault, detail_described]
  · rintro g grammar language source l hl rfl
    rw [← hasError_iff_hasFault h, Grammars.parse_of_find? hl]
    refine ⟨⟨?_, ?_⟩, fun hmark => if_pos hmark⟩
    · rintro ⟨f, place, hparse, -⟩
      by_contra hmark
      rw [if_neg hmark] at hparse
      cases hparse
    · intro hmark
      obtain ⟨d, -, hfault⟩ := h.exists_firstFaulty? hmark
      rw [if_pos hmark, hfault]
      exact ⟨_, _, rfl, place?_described d⟩

/-- A block in which a semicolon is missing, and behind it what cannot be read. -/
def unfinished : Concrete :=
  let node (kind : String) (row col : Nat) (missing hasError : Bool) (children : List Concrete) : Concrete :=
    ⟨kind, "", ⟨⟨row, col⟩, ⟨row, col⟩⟩, true, missing, hasError, none, children⟩
  node "program" 0 0 false true [
    node "comment" 0 0 false false [],
    node "block" 1 0 false true [node "call" 1 2 false false [], node ";" 1 5 true true []],
    node "ERROR" 2 0 false true [node "ERROR" 2 1 false true []]]

theorem consistent_unfinished : unfinished.Consistent := by
  simp [unfinished, consistent_mk]

theorem search_reports_first_fault_unfinished :
    unfinished.fault.place? = some ⟨1, 5⟩ ∧ unfinished.fault.detail = "missing ';'" ∧
    Search.turn^[8] (.pending [unfinished]) = .found unfinished.fault ∧
    Grammars.all.parse (fun _ _ => unfinished) "java" "" = .error (.faulty "java" unfinished.fault) := by
  obtain ⟨hsearch, hparse⟩ := search_reports_first_fault unfinished consistent_unfinished
  obtain ⟨d, hfirst, hturns, hplace, hdetail⟩ := hsearch rfl
  obtain rfl := Option.some.inj hfirst
  have hfault : unfinished.HasFault := (hasError_iff_hasFault consistent_unfinished).1 rfl
  exact ⟨hplace, hdetail, hturns, (hparse .all (fun _ _ => unfinished) "java" "" .java rfl rfl).2 hfault⟩

end Concrete

end RefactorAudit
