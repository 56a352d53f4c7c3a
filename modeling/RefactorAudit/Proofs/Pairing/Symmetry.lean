import RefactorAudit.Proofs.Pairing.Similarity

/-!
# Similarity seen from the other side

Names and kinds compare alike from both sides, however numbers are computed
(`ofNames_comm`, `ofKinds_comm`). Parameters are counted on the first side only, with
their repetitions (`countP_mem_eq_sum_count`). So the two sides may be exchanged exactly
where the parameters that both have take as many places on one side as on the other
(`ofParameters_comm_iff`), as they do where no side repeats one.
-/

namespace RefactorAudit.Similarity

open Scalar

variable {α : Type} [Scalar α] {p q : List String}

/-! ## Names and kinds -/

theorem ofNames_comm (a b : String) : (ofNames a b : α) = ofNames b a := by
  simp only [ofNames, Bool.and_comm (a == ""), Bool.beq_comm (a := a) (b := b), editDistance_comm a.toList,
    Nat.max_comm a.length]

theorem ofKinds_comm (a b : String) : (ofKinds a b : α) = ofKinds b a := by
  simp only [ofKinds, eq_comm (a := a)]

/-! ## Parameters -/

/-- The places of `p` that hold an item of `q`, counted item by item. -/
theorem countP_mem_eq_sum_count (p q : List String) :
    p.countP (· ∈ q) = ∑ x ∈ p.toFinset ∩ q.toFinset, p.count x := by
  have hshared : (p.filter (· ∈ q)).toFinset = p.toFinset ∩ q.toFinset := by
    ext x
    simp
  rw [List.countP_eq_length_filter, ← List.sum_toFinset_count_eq_length, hshared]
  refine Finset.sum_congr rfl fun x hx => List.count_filter ?_
  simpa using (Finset.mem_inter.1 hx).2

theorem countP_mem_comm (h : ∀ x ∈ p, x ∈ q → p.count x = q.count x) : p.countP (· ∈ q) = q.countP (· ∈ p) := by
  rw [countP_mem_eq_sum_count, countP_mem_eq_sum_count, Finset.inter_comm q.toFinset]
  refine Finset.sum_congr rfl fun x hx => ?_
  obtain ⟨hp, hq⟩ := Finset.mem_inter.1 hx
  exact h x (List.mem_toFinset.1 hp) (List.mem_toFinset.1 hq)

/-- Without repetitions the places are as many as the items. -/
theorem countP_mem_of_nodup (h : p.Nodup) : p.countP (· ∈ q) = (p.toFinset ∩ q.toFinset).card := by
  rw [countP_mem_eq_sum_count, Finset.card_eq_sum_ones]
  refine Finset.sum_congr rfl fun x hx => List.count_eq_one_of_mem h ?_
  exact List.mem_toFinset.1 (Finset.mem_inter.1 hx).1

section Exact

variable [Exact α]

theorem toReal_ofParameters (h : p ≠ [] ∨ q ≠ []) :
    toReal (ofParameters p q : α) = (p.countP (· ∈ q) : ℝ) / (max p.length q.length : ℕ) := by
  have hcontains : p.countP q.contains = p.countP (· ∈ q) := List.countP_congr fun x _ => by simp
  unfold ofParameters
  split
  · next hboth => simp_all
  · split
    · next hone =>
      -- one side is empty, so no item is on both
      have hnone : p.countP (· ∈ q) = 0 := by
        rcases (by simpa using hone : p = [] ∨ q = []) with rfl | rfl <;> simp
      rw [hnone]
      simp
    · rw [Exact.toReal_div, toReal_ofNat, toReal_ofNat, hcontains]

theorem ofParameters_comm_iff (p q : List String) :
    (ofParameters p q : α) = ofParameters q p ↔ p.countP (· ∈ q) = q.countP (· ∈ p) := by
  by_cases hempty : p = [] ∧ q = []
  · simp [hempty.1, hempty.2]
  have hne : p ≠ [] ∨ q ≠ [] := not_and_or.1 hempty
  have hpos : ((max p.length q.length : ℕ) : ℝ) ≠ 0 := by
    rw [Nat.cast_ne_zero, Ne, Nat.max_eq_zero_iff, List.length_eq_zero_iff, List.length_eq_zero_iff]
    exact hempty
  rw [← Exact.toReal_injective.eq_iff, toReal_ofParameters hne, toReal_ofParameters hne.symm, Nat.max_comm q.length,
    div_left_inj' hpos, Nat.cast_inj]

/-! ## Nodes -/

theorem ofNodes_comm_iff (a b : Node) :
    (ofNodes a b : α) = ofNodes b a ↔
      (ofParameters a.metadata.parameters b.metadata.parameters : α) =
        ofParameters b.metadata.parameters a.metadata.parameters := by
  rw [← (Exact.toReal_injective (α := α)).eq_iff, toReal_ofNodes, toReal_ofNodes, ofNames_comm b.metadata.nameText,
    ofKinds_comm b.kind, add_right_inj, mul_left_inj' (by norm_num), Exact.toReal_injective.eq_iff]

end Exact

/-- With similarities as rational numbers: two nodes are as similar from one side as
from the other exactly where as many places on each side hold a parameter of the other
side, and so are two lists of parameters. That is so where each parameter of both sides
is as frequent on one as on the other. Where no side repeats one, the similarity is the
number of parameters of both sides by that of the longer side. -/
theorem comm_iff_shared_places (a b : Node) (p q : List String) :
    ((ofNodes a b : ℚ) = ofNodes b a ↔
      a.metadata.parameters.countP (· ∈ b.metadata.parameters) =
        b.metadata.parameters.countP (· ∈ a.metadata.parameters)) ∧
    ((∀ x ∈ a.metadata.parameters, x ∈ b.metadata.parameters →
        a.metadata.parameters.count x = b.metadata.parameters.count x) →
      (ofNodes a b : ℚ) = ofNodes b a) ∧
    ((ofParameters p q : ℚ) = ofParameters q p ↔ p.countP (· ∈ q) = q.countP (· ∈ p)) ∧
    (p.Nodup → q.Nodup → p ≠ [] ∨ q ≠ [] →
      (ofParameters p q : ℚ) = (p.toFinset ∩ q.toFinset).card / (max p.length q.length : ℕ)) := by
  have hnodes : (ofNodes a b : ℚ) = ofNodes b a ↔
      a.metadata.parameters.countP (· ∈ b.metadata.parameters) =
        b.metadata.parameters.countP (· ∈ a.metadata.parameters) :=
    (ofNodes_comm_iff a b).trans (ofParameters_comm_iff _ _)
  refine ⟨hnodes, fun hfrequent => hnodes.2 (countP_mem_comm hfrequent), ofParameters_comm_iff p q, ?_⟩
  intro hp _ hne
  apply Exact.toReal_injective
  rw [toReal_ofParameters hne, countP_mem_of_nodup hp, toReal_rat]
  push_cast
  rfl

/-- Both overloads take their argument twice; of the other parameters none is shared. -/
theorem comm_iff_shared_places_overloads :
    (∀ x ∈ ["x", "y", "x"], x ∈ ["z", "x", "x"] → ["x", "y", "x"].count x = ["z", "x", "x"].count x) ∧
    (ofNodes (overload 0 ["x", "y", "x"]) (overload 1 ["z", "x", "x"]) : ℚ) =
      ofNodes (overload 1 ["z", "x", "x"]) (overload 0 ["x", "y", "x"]) ∧
    ["x", "y"].Nodup ∧ ["y", "z", "w"].Nodup ∧ (ofParameters ["x", "y"] ["y", "z", "w"] : ℚ) = 1 / 3 := by
  have hfrequent : ∀ x ∈ ["x", "y", "x"], x ∈ ["z", "x", "x"] → ["x", "y", "x"].count x = ["z", "x", "x"].count x := by
    decide
  obtain ⟨-, hnodes, -, hparameters⟩ := comm_iff_shared_places (overload 0 ["x", "y", "x"])
    (overload 1 ["z", "x", "x"]) ["x", "y"] ["y", "z", "w"]
  refine ⟨hfrequent, hnodes hfrequent, by decide, by decide, ?_⟩
  rw [hparameters (by decide) (by decide) (.inl (by decide))]
  decide +kernel

/-- A parameter that one side repeats counts twice from that side and once from the
other. -/
theorem similarity_depends_on_side :
    (ofParameters ["x", "x"] ["x", "y"] : ℚ) = 1 ∧ (ofParameters ["x", "y"] ["x", "x"] : ℚ) = 1 / 2 ∧
    (ofNodes (overload 0 ["x", "x"]) (overload 1 ["x", "y"]) : ℚ) = 1 ∧
    (ofNodes (overload 1 ["x", "y"]) (overload 0 ["x", "x"]) : ℚ) = 0.9 := by
  decide +kernel

end RefactorAudit.Similarity
