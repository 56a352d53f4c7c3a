import RefactorAudit.Syntax.Grammar

/-!
# Faults of a concrete tree

A tree is consistent if its marks say where its faulty nodes are. Then the mark of
the root, which is all that parsing looks at, says whether there is a faulty node
anywhere in the tree (`hasError_iff_hasFault`).
-/

namespace RefactorAudit

namespace Concrete

/-- `Within d c`: `d` is `c` or a node somewhere below it. -/
inductive Within (d : Concrete) : Concrete → Prop where
  | self : Within d d
  | inChild {c e : Concrete} : e ∈ c.children → Within d e → Within d c

/-- A part that could not be read, or a token that had to be invented. -/
def IsFaulty (c : Concrete) : Prop := c.kind = "ERROR" ∨ c.missing = true

/-- There is a faulty node in the tree. -/
def HasFault (c : Concrete) : Prop := ∃ d, Within d c ∧ d.IsFaulty

/-- Exactly those nodes are marked that are faulty or have a marked child. -/
def Consistent (c : Concrete) : Prop :=
  ∀ d, Within d c → (d.hasError = true ↔ d.IsFaulty ∨ ∃ e ∈ d.children, e.hasError = true)

theorem Consistent.child {c e : Concrete} (h : Consistent c) (he : e ∈ c.children) : Consistent e :=
  fun d hd => h d (.inChild he hd)

theorem consistent_mk {kind text : String} {span : Span} {named missing hasError : Bool} {field : Option String}
    {children : List Concrete} :
    Consistent ⟨kind, text, span, named, missing, hasError, field, children⟩ ↔
      (hasError = true ↔ (kind = "ERROR" ∨ missing = true) ∨ ∃ e ∈ children, e.hasError = true) ∧
        ∀ e ∈ children, Consistent e := by
  constructor
  · intro h
    exact ⟨h _ .self, fun e he => h.child he⟩
  · rintro ⟨hself, hchildren⟩ d hd
    cases hd with
    | self => exact hself
    | inChild he hd => exact hchildren _ he d hd

theorem HasFault.of_child {c e : Concrete} (he : e ∈ c.children) (h : HasFault e) : HasFault c := by
  obtain ⟨d, hd, hfaulty⟩ := h
  exact ⟨d, .inChild he hd, hfaulty⟩

/-- A mark leads down to a faulty node. -/
theorem Consistent.hasFault {c : Concrete} (h : Consistent c) (hmark : c.hasError = true) : HasFault c := by
  -- the mark comes from the node itself or from a smaller tree
  rcases (h c .self).1 hmark with hfaulty | ⟨e, he, hmark'⟩
  · exact ⟨c, .self, hfaulty⟩
  · exact .of_child he (hasFault (h.child he) hmark')
termination_by c.size
decreasing_by exact size_lt_of_mem_children he

/-- A faulty node marks all nodes above it. -/
theorem Consistent.hasError {c d : Concrete} (h : Consistent c) (hd : Within d c) (hfaulty : d.IsFaulty) :
    c.hasError = true := by
  induction hd with
  | self => exact (h d .self).2 (.inl hfaulty)
  | inChild he _ ih => exact (h _ .self).2 (.inr ⟨_, he, ih (h.child he)⟩)

theorem hasError_iff_hasFault {c : Concrete} (h : Consistent c) : c.hasError = true ↔ HasFault c := by
  constructor
  · exact h.hasFault
  · rintro ⟨d, hd, hfaulty⟩
    exact h.hasError hd hfaulty

/-! ## The fault that is reported -/

theorem mem_of_firstFaultIn? {cs : List Concrete} {f : Fault} (h : firstFaultIn? cs = some f) :
    ∃ e ∈ cs, e.firstFault? = some f := by
  induction cs with
  | nil => simp [firstFaultIn?] at h
  | cons c rest ih =>
    have hrest : firstFaultIn? rest = some f → ∃ e ∈ c :: rest, e.firstFault? = some f := by
      intro hrest
      obtain ⟨e, he, hf⟩ := ih hrest
      exact ⟨e, List.mem_cons_of_mem _ he, hf⟩
    rw [firstFaultIn?] at h
    split at h
    · split at h
      · next hf => exact ⟨c, List.mem_cons_self, hf.trans h⟩
      · exact hrest h
    · exact hrest h

theorem firstFaultIn?_eq_none_iff {cs : List Concrete} :
    firstFaultIn? cs = none ↔ ∀ e ∈ cs, (e.hasError || e.missing) = true → e.firstFault? = none := by
  induction cs with
  | nil => simp [firstFaultIn?]
  | cons c rest ih =>
    rw [firstFaultIn?, List.forall_mem_cons, ← ih]
    cases hmark : c.hasError || c.missing with
    | false => simp
    | true =>
      cases hf : c.firstFault? with
      | none => simp
      | some f => simp

/-- The first fault is that of the node itself or comes from a child. -/
theorem firstFault?_cases {c : Concrete} {f : Fault} (h : c.firstFault? = some f) :
    (c.IsFaulty ∧ f.place? = some c.span.start) ∨ ∃ e ∈ c.children, e.firstFault? = some f := by
  obtain ⟨kind, text, span, named, missing, hasError, field, children⟩ := c
  rw [firstFault?] at h
  split at h
  · next herror =>
    cases h
    exact .inl ⟨.inl (by simpa using herror), rfl⟩
  · split at h
    · next hmissing =>
      cases h
      exact .inl ⟨.inr hmissing, rfl⟩
    · exact .inr (mem_of_firstFaultIn? h)

/-- What is reported has the place of a faulty node. -/
theorem exists_of_firstFault? {c : Concrete} {f : Fault} (h : c.firstFault? = some f) :
    ∃ d, Within d c ∧ d.IsFaulty ∧ f.place? = some d.span.start := by
  rcases firstFault?_cases h with ⟨hfaulty, hplace⟩ | ⟨e, he, hf⟩
  · exact ⟨c, .self, hfaulty, hplace⟩
  · obtain ⟨d, hd, hfaulty, hplace⟩ := exists_of_firstFault? hf
    exact ⟨d, .inChild he hd, hfaulty, hplace⟩
termination_by c.size
decreasing_by exact size_lt_of_mem_children he

theorem firstFault?_eq_none_iff {c : Concrete} :
    c.firstFault? = none ↔
      ¬c.IsFaulty ∧ ∀ e ∈ c.children, (e.hasError || e.missing) = true → e.firstFault? = none := by
  rw [← firstFaultIn?_eq_none_iff]
  obtain ⟨kind, text, span, named, missing, hasError, field, children⟩ := c
  rw [firstFault?, IsFaulty]
  split
  · next herror => simp_all
  · next herror =>
    cases missing <;> simp_all

/-- The marks lead the search to a faulty node. -/
theorem Consistent.firstFault?_ne_none {c : Concrete} (h : Consistent c) (hmark : c.hasError = true) :
    c.firstFault? ≠ none := by
  rw [Ne, firstFault?_eq_none_iff]
  rintro ⟨hsound, hchildren⟩
  rcases (h c .self).1 hmark with hfaulty | ⟨e, he, hmark'⟩
  · exact hsound hfaulty
  · exact firstFault?_ne_none (h.child he) hmark' (hchildren e he (by simp [hmark']))
termination_by c.size
decreasing_by exact size_lt_of_mem_children he

/-- In a consistent tree the reported fault has a place exactly if there is one. -/
theorem place?_fault_eq_none_iff {c : Concrete} (h : Consistent c) : c.fault.place? = none ↔ ¬HasFault c := by
  cases hf : c.firstFault? with
  | none =>
    have hmark : ¬c.hasError = true := fun hmark => h.firstFault?_ne_none hmark hf
    rw [hasError_iff_hasFault h] at hmark
    simp [fault, hf, Fault.place?, hmark]
  | some f =>
    obtain ⟨d, hd, hfaulty, hplace⟩ := exists_of_firstFault? hf
    have hfault : HasFault c := ⟨d, hd, hfaulty⟩
    simp [fault, hf, hplace, hfault]

end Concrete

/-! ## Parsing -/

theorem Language.ofName?_name (l : Language) : Language.ofName? l.name = some l := by
  cases l <;> decide

theorem Language.ofName?_eq_none_iff (s : String) : Language.ofName? s = none ↔ s ∉ Language.all.map Language.name := by
  rw [ofName?, List.find?_eq_none]
  simp

namespace Grammars

/-- Every language has its grammar, so only a fault of the source stops parsing. -/
theorem syntaxTree_name (grammar : Grammar) (l : Language) (source : String) :
    Grammars.all.syntaxTree grammar l.name source =
      if (grammar l source).hasError then .error (.faulty l.name (grammar l source).fault)
      else .ok ((grammar l source).toTree l source) := by
  have hfind : Grammars.all.find? l.name = some l := Language.ofName?_name l
  simp only [syntaxTree, parse, hfind]
  split <;> rfl

end Grammars

end RefactorAudit
