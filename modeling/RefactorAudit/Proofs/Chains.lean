import Mathlib.Data.List.Forall2

/-!
# Chains of steps that can fail

A fold or a map over steps that may give an error runs to its end if each step does
under the invariant. The invariant of a fold speaks of the steps already taken.
-/

namespace RefactorAudit.Chains

variable {ε σ α β : Type}

@[simp] theorem bind_ok (a : α) (f : α → Except ε β) : (Except.ok a >>= f) = f a := rfl

theorem bind_eq_ok_iff {x : Except ε α} {f : α → Except ε β} {b : β} :
    (x >>= f) = .ok b ↔ ∃ a, x = .ok a ∧ f a = .ok b := by
  cases x with
  | error e => exact ⟨fun h => (nomatch h), fun ⟨_, h, _⟩ => (nomatch h)⟩
  | ok a => simp

theorem bind_eq_error_iff {x : Except ε α} {f : α → Except ε β} {e : ε} :
    (x >>= f) = .error e ↔ x = .error e ∨ ∃ a, x = .ok a ∧ f a = .error e := by
  cases x with
  | error e' => simp [bind, Except.bind]
  | ok a => simp

theorem mapError_ok {ε' : Type} {x : Except ε α} {a : α} (f : ε → ε') (h : x = .ok a) : x.mapError f = .ok a := by
  rw [h]
  rfl

theorem mapError_eq_error_iff {ε' : Type} {x : Except ε α} {f : ε → ε'} {e : ε'} :
    x.mapError f = .error e ↔ ∃ e', x = .error e' ∧ f e' = e := by
  cases x <;> simp [Except.mapError]

section Folds

variable {f : σ → α → Except ε σ} {P : List α → σ → Prop}

theorem foldlM_from (before after : List α) {s : σ} (init : P before s)
    (step : ∀ done x rest, before ++ after = done ++ x :: rest → ∀ s, P done s →
      ∃ s', f s x = .ok s' ∧ P (done ++ [x]) s') :
    ∃ s', after.foldlM f s = .ok s' ∧ P (before ++ after) s' := by
  induction after generalizing before s with
  | nil => exact ⟨s, rfl, by simpa using init⟩
  | cons x rest ih =>
    obtain ⟨s', hs', hP⟩ := step before x rest rfl s init
    obtain ⟨s'', hs'', hP'⟩ := ih (before ++ [x]) hP (by simpa using step)
    refine ⟨s'', ?_, by simpa using hP'⟩
    rw [List.foldlM_cons, hs']
    exact hs''

/-- A fold whose steps keep an invariant ends in a state that satisfies it. -/
theorem foldlM_ok {xs : List α} {s : σ} (init : P [] s)
    (step : ∀ done x rest, xs = done ++ x :: rest → ∀ s, P done s → ∃ s', f s x = .ok s' ∧ P (done ++ [x]) s') :
    ∃ s', xs.foldlM f s = .ok s' ∧ P xs s' :=
  foldlM_from [] xs init step

/-- Where keys are not repeated, none of the items before an item has its key. -/
theorem key_not_mem_done {κ : Type} {key : α → κ} {xs done rest : List α} {x : α} (h : (xs.map key).Nodup)
    (hsplit : xs = done ++ x :: rest) : key x ∉ done.map key := by
  intro hmem
  rw [hsplit, List.map_append, List.map_cons] at h
  exact (List.nodup_append.1 h).2.2 _ hmem _ List.mem_cons_self rfl

/-- A fold that came to its end kept every invariant of its steps. -/
theorem foldlM_invariant (step : ∀ done x s s', P done s → f s x = .ok s' → P (done ++ [x]) s') {before after : List α}
    {s s' : σ} (init : P before s) (h : after.foldlM f s = .ok s') : P (before ++ after) s' := by
  induction after generalizing before s with
  | nil =>
    cases h
    simpa using init
  | cons x rest ih =>
    rw [List.foldlM_cons] at h
    obtain ⟨t, ht, hrest⟩ := bind_eq_ok_iff.1 h
    simpa using ih (step before x s t init ht) hrest

/-- Two folds over the same steps stay related. -/
theorem foldlM_related {R : σ → σ → Prop}
    (step : ∀ s s' x t, R s s' → f s x = .ok t → ∃ t', f s' x = .ok t' ∧ R t t') {xs : List α} {s s' t : σ}
    (init : R s s') (h : xs.foldlM f s = .ok t) : ∃ t', xs.foldlM f s' = .ok t' ∧ R t t' := by
  induction xs generalizing s s' with
  | nil =>
    cases h
    exact ⟨s', rfl, init⟩
  | cons x rest ih =>
    rw [List.foldlM_cons] at h
    obtain ⟨u, hu, hrest⟩ := bind_eq_ok_iff.1 h
    obtain ⟨u', hu', hrelated⟩ := step s s' x u init hu
    rw [List.foldlM_cons, hu']
    exact ih hrelated hrest

end Folds

/-- A map whose steps all succeed gives their results in order. -/
theorem mapM_ok {f : α → Except ε β} {Q : α → β → Prop} {xs : List α} (h : ∀ x ∈ xs, ∃ y, f x = .ok y ∧ Q x y) :
    ∃ ys, xs.mapM f = .ok ys ∧ List.Forall₂ Q xs ys := by
  induction xs with
  | nil => exact ⟨[], rfl, .nil⟩
  | cons x xs ih =>
    obtain ⟨y, hy, hQ⟩ := h x List.mem_cons_self
    obtain ⟨ys, hys, hall⟩ := ih fun z hz => h z (List.mem_cons_of_mem _ hz)
    refine ⟨y :: ys, ?_, .cons hQ hall⟩
    rw [List.mapM_cons, hy, hys]
    rfl

/-- The results of a map that came to its end are those of its steps. -/
theorem forall₂_of_mapM {f : α → Except ε β} {xs : List α} {ys : List β} (h : xs.mapM f = .ok ys) :
    List.Forall₂ (fun x y => f x = .ok y) xs ys := by
  induction xs generalizing ys with
  | nil =>
    cases h
    exact .nil
  | cons x xs ih =>
    rw [List.mapM_cons] at h
    obtain ⟨y, hy, h⟩ := bind_eq_ok_iff.1 h
    obtain ⟨zs, hzs, h⟩ := bind_eq_ok_iff.1 h
    cases h
    exact .cons hy (ih hzs)

/-- Each result of such a map comes from an item. -/
theorem exists_of_mem_results {Q : α → β → Prop} {xs : List α} {ys : List β} (h : List.Forall₂ Q xs ys) {y : β}
    (hy : y ∈ ys) : ∃ x ∈ xs, Q x y := by
  induction h with
  | nil => cases hy
  | cons hQ _ ih =>
    rcases List.mem_cons.1 hy with rfl | hmem
    · exact ⟨_, List.mem_cons_self, hQ⟩
    · obtain ⟨x, hx, hQ⟩ := ih hmem
      exact ⟨x, List.mem_cons_of_mem _ hx, hQ⟩

/-- What is read off the items may be read off the results. -/
theorem filterMap_eq_of_results {Q : α → β → Prop} {xs : List α} {ys : List β} (h : List.Forall₂ Q xs ys)
    {f : α → Option σ} {g : β → Option σ} (hread : ∀ x y, Q x y → f x = g y) : xs.filterMap f = ys.filterMap g := by
  induction h with
  | nil => rfl
  | cons hQ _ ih => rw [List.filterMap_cons, List.filterMap_cons, hread _ _ hQ, ih]

end RefactorAudit.Chains
