/-!
# Correspondences

A correspondence pairs elements of two sides. No element of either side is in two
pairs, and the pairs stay in the order in which they were added.
-/

namespace RefactorAudit

structure Correspondence (α β : Type) where
  pairs : List (α × β)
  sources_nodup : (pairs.map Prod.fst).Nodup
  targets_nodup : (pairs.map Prod.snd).Nodup

namespace Correspondence

variable {α β : Type}

/-- Why a pair cannot be added. -/
inductive Taken (α β : Type) where
  | source (a : α)
  | target (b : β)
  deriving DecidableEq, Repr

def Taken.message [ToString α] [ToString β] : Taken α β → String
  | .source a => s!"Legacy node {a} is already mapped"
  | .target b => s!"Refactored node {b} is already a mapping target"

def empty : Correspondence α β := ⟨[], .nil, .nil⟩

def sources (m : Correspondence α β) : List α := m.pairs.map Prod.fst

def targets (m : Correspondence α β) : List β := m.pairs.map Prod.snd

def size (m : Correspondence α β) : Nat := m.pairs.length

variable [DecidableEq α] [DecidableEq β]

def target? (m : Correspondence α β) (a : α) : Option β := m.pairs.lookup a

def source? (m : Correspondence α β) (b : β) : Option α := (m.pairs.map Prod.swap).lookup b

def isSource (m : Correspondence α β) (a : α) : Bool := m.sources.contains a

def isTarget (m : Correspondence α β) (b : β) : Bool := m.targets.contains b

theorem nodup_concat {γ : Type} {xs : List γ} {x : γ} (h : xs.Nodup) (hx : x ∉ xs) : (xs ++ [x]).Nodup := by
  simp only [List.nodup_append, h, true_and]
  exact ⟨by simp, fun y hy z hz hyz => hx (by simp_all)⟩

/-- Adds a pair. A taken source is reported before a taken target. -/
def add (m : Correspondence α β) (a : α) (b : β) : Except (Taken α β) (Correspondence α β) :=
  if ha : a ∈ m.sources then .error (.source a)
  else if hb : b ∈ m.targets then .error (.target b)
  else .ok
    { pairs := m.pairs ++ [(a, b)]
      sources_nodup := by
        rw [List.map_append]
        exact nodup_concat m.sources_nodup ha
      targets_nodup := by
        rw [List.map_append]
        exact nodup_concat m.targets_nodup hb }

/-- Adds pairs one after the other. -/
def addAll (m : Correspondence α β) (pairs : List (α × β)) : Except (Taken α β) (Correspondence α β) :=
  pairs.foldlM (fun m p => m.add p.1 p.2) m

end Correspondence

end RefactorAudit
