import RefactorAudit.Proofs.Json.Quoted
import RefactorAudit.Syntax.Node

/-!
# What equivalent nodes share

The key of metadata is read from left to right: the imports end at their bracket, the
name at its quote, the parameters at their bracket. Hence equal keys come from equal
metadata (`Metadata.key_eq_iff`), and equivalent nodes agree in all that they say
(`Node.signature_eq_iff`).
-/

namespace RefactorAudit

namespace Metadata

open Json

/-- The text of a list of texts. -/
def listChars (xs : List String) : List Char := Json.chars (.arr (xs.map .str))

/-- The text of a declared name. -/
def nameChars (name : Option String) : List Char := Json.chars (name.elim .null .str)

theorem charsOfItems_map_str (xs : List String) : charsOfItems (xs.map .str) = xs.map quoted := by
  induction xs with
  | nil => rfl
  | cons x xs ih => simp [charsOfItems, chars, ih]

theorem prefixFree_listChars : PrefixFree listChars := by
  intro xs ys rest rest' h
  simp only [listChars, chars, charsOfItems_map_str] at h
  exact prefixFree_quoted.array quoted_eq_cons xs ys rest rest' h

theorem prefixFree_nameChars : PrefixFree nameChars := by
  intro a b rest rest' h
  cases a with
  | none =>
    cases b with
    | none => simpa [nameChars, chars] using h
    | some t => simp [nameChars, chars, quoted] at h
  | some s =>
    cases b with
    | none => simp [nameChars, chars, quoted] at h
    | some t =>
      obtain ⟨rfl, rfl⟩ := prefixFree_quoted s t rest rest' h
      exact ⟨rfl, rfl⟩

/-- The three parts of a key, in their order. -/
theorem toList_key (m : Metadata) :
    m.key.toList = "\x7b\"imports\": ".toList ++ (listChars m.imports ++ (", \"name\": ".toList ++
      (nameChars m.name ++ (", \"parameters\": ".toList ++ (listChars m.parameters ++ ['\x7d']))))) := by
  have hfields : ∀ i n p : List Char, [',', ' '].intercalate [i, n, p] = i ++ [',', ' '] ++ n ++ [',', ' '] ++ p := by
    intro i n p
    simp [List.intercalate]
  have himports : quoted "imports" = "\"imports\"".toList := by decide
  have hname : quoted "name" = "\"name\"".toList := by decide
  have hparameters : quoted "parameters" = "\"parameters\"".toList := by decide
  simp only [key, render, String.toList_ofList]
  rw [chars, charsOfFields, charsOfFields, charsOfFields, charsOfFields, hfields, himports, hname, hparameters]
  simp [listChars, nameChars]

/-- The key determines the metadata. -/
theorem key_eq_iff {m m' : Metadata} : m.key = m'.key ↔ m = m' := by
  constructor
  · intro h
    have hlist := congrArg String.toList h
    rw [toList_key, toList_key, List.append_cancel_left_eq] at hlist
    obtain ⟨himports, hlist⟩ := prefixFree_listChars _ _ _ _ hlist
    rw [List.append_cancel_left_eq] at hlist
    obtain ⟨hname, hlist⟩ := prefixFree_nameChars _ _ _ _ hlist
    rw [List.append_cancel_left_eq] at hlist
    obtain ⟨hparameters, -⟩ := prefixFree_listChars _ _ _ _ hlist
    obtain ⟨name, parameters, imports⟩ := m
    obtain ⟨name', parameters', imports'⟩ := m'
    rw [Metadata.mk.injEq]
    exact ⟨hname, hparameters, himports⟩
  · rintro rfl
    rfl

end Metadata

namespace Node

/-- Two nodes say the same. -/
def SameContent (a b : Node) : Prop := a.kind = b.kind ∧ a.text = b.text ∧ a.metadata = b.metadata

instance decidableSameContent (a b : Node) : Decidable (a.SameContent b) :=
  inferInstanceAs (Decidable (a.kind = b.kind ∧ a.text = b.text ∧ a.metadata = b.metadata))

theorem signature_eq_iff {a b : Node} : a.signature = b.signature ↔ a.SameContent b := by
  rw [signature, signature, Signature.mk.injEq, Metadata.key_eq_iff]
  exact Iff.rfl

theorem isEquivalent_iff {a b : Node} : a.isEquivalent b = true ↔ a.SameContent b := by
  rw [isEquivalent, beq_iff_eq, signature_eq_iff]

end Node

end RefactorAudit
