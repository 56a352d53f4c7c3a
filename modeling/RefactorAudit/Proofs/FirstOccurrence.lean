import Mathlib.Data.List.Induction

/-!
# Lists of first occurrences

Evidence, tags and import targets are collected in one way: an item is added at the
end unless it is there. `FirstOccurrences` says what such a list is, whatever loop
made it; `FirstOccurrences.concat` is one turn of the loop.
-/

namespace RefactorAudit

variable {α : Type} [BEq α] {xs ys : List α}

/-- `ys` lists what occurs in `xs`, each item once, in the order in which the items
came first. -/
structure FirstOccurrences (xs ys : List α) : Prop where
  mem_iff : ∀ a, a ∈ ys ↔ a ∈ xs
  order : ys.Pairwise fun a b => xs.idxOf a < xs.idxOf b

namespace FirstOccurrences

theorem nil : FirstOccurrences ([] : List α) [] := ⟨fun _ => Iff.rfl, .nil⟩

theorem nodup (h : FirstOccurrences xs ys) : ys.Nodup := by
  refine h.order.imp fun {a b} hlt heq => ?_
  rw [heq] at hlt
  exact Nat.lt_irrefl _ hlt

variable [LawfulBEq α]

/-- A list without repetitions lists itself. -/
theorem of_nodup (h : xs.Nodup) : FirstOccurrences xs xs := by
  refine ⟨fun _ => Iff.rfl, List.pairwise_iff_getElem.2 fun i j hi hj hlt => ?_⟩
  rwa [h.idxOf_getElem i hi, h.idxOf_getElem j hj]

/-- More items behind `xs` move none of the items of `ys`. -/
theorem order_append (h : FirstOccurrences xs ys) (zs : List α) :
    ys.Pairwise fun a b => (xs ++ zs).idxOf a < (xs ++ zs).idxOf b := by
  refine h.order.imp_of_mem fun {a b} ha hb hlt => ?_
  rwa [List.idxOf_append, if_pos ((h.mem_iff a).1 ha), List.idxOf_append, if_pos ((h.mem_iff b).1 hb)]

theorem concat_of_mem (h : FirstOccurrences xs ys) {x : α} (hx : x ∈ xs) : FirstOccurrences (xs ++ [x]) ys := by
  refine ⟨fun a => ?_, h.order_append [x]⟩
  rw [h.mem_iff, List.mem_append, List.mem_singleton]
  refine ⟨.inl, ?_⟩
  rintro (ha | rfl)
  · exact ha
  · exact hx

theorem concat_of_not_mem (h : FirstOccurrences xs ys) {x : α} (hx : x ∉ xs) :
    FirstOccurrences (xs ++ [x]) (ys ++ [x]) := by
  refine ⟨fun a => by simp [h.mem_iff], List.pairwise_append.2 ⟨h.order_append [x], List.pairwise_singleton _ _, ?_⟩⟩
  intro a ha b hb
  obtain rfl := List.mem_singleton.1 hb
  have hmem := (h.mem_iff a).1 ha
  rw [List.idxOf_append, if_pos hmem, List.idxOf_append, if_neg hx]
  exact Nat.lt_of_lt_of_le (List.idxOf_lt_length_of_mem hmem) (Nat.le_add_left _ _)

/-- One more item: it goes to the end unless it is there. -/
theorem concat (h : FirstOccurrences xs ys) (x : α) :
    FirstOccurrences (xs ++ [x]) (if ys.contains x then ys else ys ++ [x]) := by
  split
  · next hx => exact h.concat_of_mem ((h.mem_iff x).1 (List.contains_iff_mem.1 hx))
  · next hx => exact h.concat_of_not_mem fun hmem => hx (List.contains_iff_mem.2 ((h.mem_iff x).2 hmem))

end FirstOccurrences

theorem firstOccurrences_eraseDups [LawfulBEq α] (xs : List α) : FirstOccurrences xs xs.eraseDups := by
  induction xs using List.reverseRecOn with
  | nil => exact .nil
  | append_singleton xs x ih =>
    rw [List.eraseDups_append]
    by_cases hx : x ∈ xs
    · have hnone : [x].removeAll xs = [] := by simp [List.removeAll, hx]
      rw [hnone, List.eraseDups_nil, List.append_nil]
      exact ih.concat_of_mem hx
    · have hone : [x].removeAll xs = [x] := by simp [List.removeAll, hx]
      rw [hone, List.eraseDups_cons, List.filter_nil, List.eraseDups_nil]
      exact ih.concat_of_not_mem hx

end RefactorAudit
