import RefactorAudit.Pairing.Similarity
import RefactorAudit.Proofs.Exact
import RefactorAudit.Proofs.Pairing.EditDistance

/-!
# What exact similarities are

Read exactly, a similarity lies between 0.15 and 1, and a declaration is fully
similar to itself (`toReal_ofNodes_self`). Since no similarity is 0, `best?` finds a
candidate wherever there is one, and it is the first of the most similar ones
(`best?_cons`, `best?_eq_find?`).
-/

namespace RefactorAudit.Similarity

open Scalar

variable {α : Type} [Scalar α]

/-! ## First among the most similar -/

/-- `r` is the first of the candidates that are most similar to the target: those
before it are less similar, those after it are not more similar. -/
def IsFirstBest (α : Type) [Scalar α] (target : Node) (candidates : List Node) (r : Node) : Prop :=
  ∃ before after, candidates = before ++ r :: after ∧
    (∀ c ∈ before, (ofNodes target c : α) < ofNodes target r) ∧ ∀ c ∈ after, (ofNodes target c : α) ≤ ofNodes target r

namespace IsFirstBest

variable {target r b c : Node} {cs : List Node}

theorem mem (h : IsFirstBest α target cs r) : r ∈ cs := by
  obtain ⟨before, after, rfl, -, -⟩ := h
  simp

/-- A less similar candidate in front changes nothing. -/
theorem cons_of_lt (h : IsFirstBest α target cs r) (hc : (ofNodes target c : α) < ofNodes target r) :
    IsFirstBest α target (c :: cs) r := by
  obtain ⟨before, after, rfl, hbefore, hafter⟩ := h
  exact ⟨c :: before, after, rfl, List.forall_mem_cons.2 ⟨hc, hbefore⟩, hafter⟩

variable [Exact α]

theorem le (h : IsFirstBest α target cs r) (hc : c ∈ cs) : (ofNodes target c : α) ≤ ofNodes target r := by
  obtain ⟨before, after, rfl, hbefore, hafter⟩ := h
  rcases List.mem_append.1 hc with hc | hc
  · exact (Exact.le_iff _ _).2 ((Exact.lt_iff _ _).1 (hbefore c hc)).le
  · rcases List.mem_cons.1 hc with rfl | hc
    · exact (Exact.le_iff _ _).2 le_rfl
    · exact hafter c hc

/-- A candidate behind one that is at least as similar changes nothing. -/
theorem insert_of_le (h : IsFirstBest α target (b :: cs) r) (hc : (ofNodes target c : α) ≤ ofNodes target b) :
    IsFirstBest α target (b :: c :: cs) r := by
  obtain ⟨before, after, heq, hbefore, hafter⟩ := h
  cases before with
  | nil =>
    obtain ⟨rfl, rfl⟩ : b = r ∧ cs = after := by simpa using heq
    exact ⟨[], c :: cs, rfl, by simp, List.forall_mem_cons.2 ⟨hc, hafter⟩⟩
  | cons b' before =>
    obtain ⟨rfl, rfl⟩ : b = b' ∧ cs = before ++ r :: after := by simpa using heq
    obtain ⟨hb, hrest⟩ := List.forall_mem_cons.1 hbefore
    have hcr : (ofNodes target c : α) < ofNodes target r :=
      (Exact.lt_iff _ _).2 (((Exact.le_iff _ _).1 hc).trans_lt ((Exact.lt_iff _ _).1 hb))
    exact ⟨b :: c :: before, after, rfl, by simpa using ⟨hb, hcr, hrest⟩, hafter⟩

/-- Looking from the front for a candidate that no other one surpasses finds it. -/
theorem find?_eq (h : IsFirstBest α target cs r) :
    cs.find? (fun c => ∀ c' ∈ cs, (ofNodes target c' : α) ≤ ofNodes target c) = some r := by
  have hmaximal : ∀ c ∈ cs, (ofNodes target c : α) ≤ ofNodes target r := fun c hc => h.le hc
  have hr := h.mem
  obtain ⟨before, after, hsplit, hbefore, -⟩ := h
  refine List.find?_eq_some_iff_append.2 ⟨by simpa using hmaximal, before, after, hsplit, fun c hc => ?_⟩
  have hsurpassed : ¬∀ c' ∈ cs, (ofNodes target c' : α) ≤ ofNodes target c := fun hall =>
    absurd ((Exact.lt_iff _ _).1 (hbefore c hc)) (not_lt.2 ((Exact.le_iff _ _).1 (hall r hr)))
  simpa using hsurpassed

end IsFirstBest

variable [Exact α]

/-! ## Bounds -/

theorem toReal_ofNames_mem (a b : String) : toReal (ofNames a b : α) ∈ Set.Icc (0 : ℝ) 1 := by
  unfold ofNames
  split
  · simp
  split
  · simp
  · next hboth _ =>
    -- one of the names is not empty, so the quotient is a proper one
    have hpos : 0 < max a.length b.length := by
      by_contra hzero
      have ha : a = "" := String.length_eq_zero_iff.1 (by omega)
      have hb : b = "" := String.length_eq_zero_iff.1 (by omega)
      simp [ha, hb] at hboth
    have hle : editDistance a.toList b.toList ≤ max a.length b.length := by
      rw [← String.length_toList, ← String.length_toList]
      exact editDistance_le_max a.toList b.toList
    have hpos' : (0 : ℝ) < (max a.length b.length : ℕ) := by exact_mod_cast hpos
    have hle' : (editDistance a.toList b.toList : ℝ) ≤ (max a.length b.length : ℕ) := by exact_mod_cast hle
    rw [Exact.toReal_sub, Exact.toReal_div, toReal_one, toReal_ofNat, toReal_ofNat]
    refine ⟨sub_nonneg.2 ((div_le_one hpos').2 hle'), sub_le_self _ (by positivity)⟩

theorem toReal_ofParameters_mem (p q : List String) : toReal (ofParameters p q : α) ∈ Set.Icc (0 : ℝ) 1 := by
  unfold ofParameters
  split
  · simp
  split
  · simp
  · have hle : p.countP q.contains ≤ max p.length q.length :=
      List.countP_le_length.trans (le_max_left _ _)
    have hle' : (p.countP q.contains : ℝ) ≤ (max p.length q.length : ℕ) := by exact_mod_cast hle
    rw [Exact.toReal_div, toReal_ofNat, toReal_ofNat]
    exact ⟨by positivity, div_le_one_of_le₀ hle' (by positivity)⟩

theorem toReal_ofKinds_mem (a b : String) : toReal (ofKinds a b : α) ∈ Set.Icc (1 / 2 : ℝ) 1 := by
  unfold ofKinds
  split
  · rw [toReal_one]
    norm_num
  · rw [Exact.toReal_ofRat]
    norm_num

theorem toReal_ofNodes (a b : Node) :
    toReal (ofNodes a b : α) =
      toReal (ofNames a.metadata.nameText b.metadata.nameText : α) * 0.5 + toReal (ofKinds a.kind b.kind : α) * 0.3 +
        toReal (ofParameters a.metadata.parameters b.metadata.parameters : α) * 0.2 := by
  simp only [ofNodes, Exact.toReal_add, Exact.toReal_mul, Exact.toReal_ofRat, nameWeight, kindWeight,
    parameterWeight]
  norm_num

/-- Nodes of different kinds that have nothing else in common still count 0.15. -/
theorem toReal_ofNodes_mem (a b : Node) : toReal (ofNodes a b : α) ∈ Set.Icc (0.15 : ℝ) 1 := by
  obtain ⟨hn0, hn1⟩ := toReal_ofNames_mem (α := α) a.metadata.nameText b.metadata.nameText
  obtain ⟨hk0, hk1⟩ := toReal_ofKinds_mem (α := α) a.kind b.kind
  obtain ⟨hp0, hp1⟩ := toReal_ofParameters_mem (α := α) a.metadata.parameters b.metadata.parameters
  rw [toReal_ofNodes]
  constructor <;> linarith

theorem toReal_ofParameters_self (p : List String) : toReal (ofParameters p p : α) = 1 := by
  unfold ofParameters
  split
  · simp
  · next h =>
    have hcount : p.countP p.contains = p.length := by
      rw [List.countP_eq_length]
      intro x hx
      simpa using hx
    have hne : (p.length : ℝ) ≠ 0 := by
      simpa using h
    have hp : ¬(p.isEmpty || p.isEmpty) = true := by simpa using h
    rw [if_neg hp, Exact.toReal_div, toReal_ofNat, toReal_ofNat, hcount, max_self, div_self hne]

theorem toReal_ofNodes_self {a : Node} (h : a.metadata.isNamed = true) : toReal (ofNodes a a : α) = 1 := by
  have hname : (ofNames a.metadata.nameText a.metadata.nameText : α) = one := by
    have : (a.metadata.nameText == "") = false := by simpa [Metadata.isNamed] using h
    simp [ofNames, this]
  have hkind : (ofKinds a.kind a.kind : α) = one := by simp [ofKinds]
  rw [toReal_ofNodes, hname, hkind, toReal_ofParameters_self, toReal_one]
  norm_num

/-! ## The best candidate -/

theorem bestFrom_some (target b : Node) (cs : List Node) :
    ∃ r, bestFrom target (some (b, (ofNodes target b : α))) cs = some (r, ofNodes target r) ∧
      IsFirstBest α target (b :: cs) r := by
  induction cs generalizing b with
  | nil => exact ⟨b, rfl, [], [], rfl, by simp, by simp⟩
  | cons c cs ih =>
    simp only [bestFrom]
    split
    · next hlt =>
      obtain ⟨r, hr, hbest⟩ := ih c
      have hcr := (Exact.le_iff _ _).1 (hbest.le List.mem_cons_self)
      exact ⟨r, hr, hbest.cons_of_lt ((Exact.lt_iff _ _).2 (((Exact.lt_iff _ _).1 hlt).trans_le hcr))⟩
    · next hlt =>
      obtain ⟨r, hr, hbest⟩ := ih b
      have hcb : (ofNodes target c : α) ≤ ofNodes target b :=
        (Exact.le_iff _ _).2 (not_lt.1 fun h => hlt ((Exact.lt_iff _ _).2 h))
      exact ⟨r, hr, hbest.insert_of_le hcb⟩

/-- There is a best candidate as soon as there is a candidate: the bound to start
from is 0, and no similarity is as low as that. -/
theorem best?_cons (target c : Node) (cs : List Node) :
    ∃ r, best? target (c :: cs) = some (r, (ofNodes target r : α)) ∧ IsFirstBest α target (c :: cs) r := by
  have hpos : (zero : α) < ofNodes target c := by
    rw [Exact.lt_iff, toReal_zero]
    exact lt_of_lt_of_le (by norm_num) (toReal_ofNodes_mem target c).1
  simp only [best?, bestFrom, if_pos hpos]
  exact bestFrom_some target c cs

theorem best?_eq_none_iff (target : Node) (cs : List Node) : (best? target cs : Option (Node × α)) = none ↔ cs = [] := by
  cases cs with
  | nil => exact ⟨fun _ => rfl, fun _ => rfl⟩
  | cons c cs =>
    obtain ⟨r, hr, -⟩ := best?_cons (α := α) target c cs
    simp [hr]

theorem best?_eq_find? (target : Node) (cs : List Node) :
    best? target cs =
      (cs.find? fun c => ∀ c' ∈ cs, (ofNodes target c' : α) ≤ ofNodes target c).map
        fun r => (r, (ofNodes target r : α)) := by
  cases cs with
  | nil => rfl
  | cons c cs =>
    obtain ⟨r, hr, hbest⟩ := best?_cons (α := α) target c cs
    rw [hr, hbest.find?_eq]
    rfl

/-- With similarities as rational numbers: they lie between 0.15 and 1, and a node with
a name has similarity 1 to itself. There is a best candidate unless there is none at
all, and it is the earliest one whose similarity no other surpasses, with that
similarity. -/
theorem bounded_best?_eq_first_maximal :
    (∀ a b : Node, (ofNodes a b : ℚ) ∈ Set.Icc 0.15 1) ∧
    (∀ a : Node, a.metadata.nameText ≠ "" → (ofNodes a a : ℚ) = 1) ∧
    ∀ (target : Node) (candidates : List Node),
      ((best? target candidates : Option (Node × ℚ)) = none ↔ candidates = []) ∧
      best? target candidates =
        (candidates.find? fun c => ∀ c' ∈ candidates, (ofNodes target c' : ℚ) ≤ ofNodes target c).map
          fun r => (r, (ofNodes target r : ℚ)) := by
  refine ⟨fun a b => ?_, fun a hname => ?_, fun target candidates => ?_⟩
  · obtain ⟨hlow, hhigh⟩ := toReal_ofNodes_mem (α := ℚ) a b
    have hfloor : toReal (0.15 : ℚ) = 0.15 := by norm_num [toReal_rat]
    have hceil : toReal (1 : ℚ) = 1 := by norm_num [toReal_rat]
    exact ⟨(Exact.le_iff _ _).2 (by rwa [hfloor]), (Exact.le_iff _ _).2 (by rwa [hceil])⟩
  · have hself := toReal_ofNodes_self (α := ℚ) (a := a) (by simpa [Metadata.isNamed] using hname)
    exact Exact.toReal_injective (hself.trans (by norm_num [toReal_rat]))
  · exact ⟨best?_eq_none_iff target candidates, best?_eq_find? target candidates⟩

/-- A function `f` with the parameters. -/
def overload (handle : Nat) (parameters : List String) : Node :=
  ⟨handle, "function_definition", "", ⟨⟨0, 0⟩, ⟨0, 0⟩⟩, ⟨some "f", parameters, []⟩, none, []⟩

/-- Of two overloads with the same parameters the earlier one is best, though the
other one has them in the order of the target. -/
theorem bounded_best?_eq_first_maximal_overloads :
    (overload 0 ["x", "y"]).metadata.nameText ≠ "" ∧
    (ofNodes (overload 0 ["x", "y"]) (overload 0 ["x", "y"]) : ℚ) = 1 ∧
    ((best? (overload 0 ["x", "y"]) [overload 1 ["x"], overload 2 ["y", "x"], overload 3 ["x", "y"]] :
      Option (Node × ℚ)).map fun best => (best.1.handle, best.2)) = some (2, 1) := by
  obtain ⟨-, hself, hbest⟩ := bounded_best?_eq_first_maximal
  refine ⟨by decide, hself _ (by decide), ?_⟩
  rw [(hbest _ _).2]
  decide +kernel

end RefactorAudit.Similarity
