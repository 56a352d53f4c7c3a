import RefactorAudit.Pairing.Correspondence

/-!
# Using a correspondence

A correspondence that begins empty is filled and asked by operations in any order. How
the operations are answered is left open here: a run takes it as a parameter. What
every answer keeps, a run keeps (`Operation.run_keeps`), and where two ways to answer
agree step by step, they agree in every run (`Operation.run_agrees`).
-/

namespace RefactorAudit.Correspondence

variable {α β : Type}

/-- What can be done with a correspondence. Only `add` may change it. -/
inductive Operation (α β : Type) where
  | add (a : α) (b : β)
  | target (a : α)
  | source (b : β)
  | isSource (a : α)
  | isTarget (b : β)
  | pairs
  | sources
  | size

inductive Answer (α β : Type) where
  | added
  | refused (why : Taken α β)
  | target (found : Option β)
  | source (found : Option α)
  | truth (holds : Bool)
  | pairs (items : List (α × β))
  | sources (items : List α)
  | size (n : Nat)

/-- The pairs whose addition was answered with success, in their order. -/
def addedPairs : List (Operation α β) → List (Answer α β) → List (α × β)
  | .add a b :: ops, .added :: answers => (a, b) :: addedPairs ops answers
  | _ :: ops, _ :: answers => addedPairs ops answers
  | _, _ => []

theorem addedPairs_cons (op : Operation α β) (answer : Answer α β) (ops : List (Operation α β))
    (answers : List (Answer α β)) :
    addedPairs (op :: ops) (answer :: answers) = addedPairs [op] [answer] ++ addedPairs ops answers := by
  cases op <;> cases answer <;> rfl

/-! ## Runs -/

namespace Operation

variable {σ τ : Type} {perform : σ → Operation α β → Answer α β × σ} {perform' : τ → Operation α β → Answer α β × τ}

/-- The answers to operations one after the other, and the state after them. -/
def run (perform : σ → Operation α β → Answer α β × σ) (s : σ) : List (Operation α β) → List (Answer α β) × σ
  | [] => ([], s)
  | op :: ops => ((perform s op).1 :: (run perform (perform s op).2 ops).1, (run perform (perform s op).2 ops).2)

theorem run_append (s : σ) (ops later : List (Operation α β)) :
    run perform s (ops ++ later) =
      ((run perform s ops).1 ++ (run perform (run perform s ops).2 later).1,
        (run perform (run perform s ops).2 later).2) := by
  induction ops generalizing s with
  | nil => rfl
  | cons op ops ih => rw [List.cons_append, run, ih, run, List.cons_append]

theorem run_keeps {keeps : σ → Prop} (hstep : ∀ s op, keeps s → keeps (perform s op).2) {s : σ} (hs : keeps s)
    (ops : List (Operation α β)) : keeps (run perform s ops).2 := by
  induction ops generalizing s with
  | nil => exact hs
  | cons op ops ih => exact ih (hstep s op hs)

theorem run_agrees {agree : σ → τ → Prop}
    (hstep : ∀ s t op, agree s t → (perform s op).1 = (perform' t op).1 ∧ agree (perform s op).2 (perform' t op).2)
    {s : σ} {t : τ} (hs : agree s t) (ops : List (Operation α β)) :
    (run perform s ops).1 = (run perform' t ops).1 ∧ agree (run perform s ops).2 (run perform' t ops).2 := by
  induction ops generalizing s t with
  | nil => exact ⟨rfl, hs⟩
  | cons op ops ih =>
    obtain ⟨hanswer, hagree⟩ := hstep s t op hs
    obtain ⟨hanswers, hlast⟩ := ih hagree
    refine ⟨?_, hlast⟩
    rw [run, run, hanswer, hanswers]

end Operation

variable [DecidableEq α] [DecidableEq β]

/-- The answer of a correspondence to an operation, and the correspondence after it. -/
def perform (m : Correspondence α β) : Operation α β → Answer α β × Correspondence α β
  | .add a b =>
    match m.add a b with
    | .ok m' => (.added, m')
    | .error why => (.refused why, m)
  | .target a => (.target (m.target? a), m)
  | .source b => (.source (m.source? b), m)
  | .isSource a => (.truth (m.isSource a), m)
  | .isTarget b => (.truth (m.isTarget b), m)
  | .pairs => (.pairs m.pairs, m)
  | .sources => (.sources m.sources, m)
  | .size => (.size m.size, m)

end RefactorAudit.Correspondence
