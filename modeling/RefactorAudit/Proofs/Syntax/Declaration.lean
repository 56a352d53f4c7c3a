import RefactorAudit.Syntax.Flatten

/-!
# Declarations and imports are different nodes

Whatever the language and the kind of a node, it declares a name or it imports
something, and never does both (`Language.extracted`). Hence in a syntax tree that
was made from a concrete one no declared node carries an import
(`Concrete.imports_eq_nil`).
-/

namespace RefactorAudit

/-- Metadata of an import, maybe of nothing, or of a declaration. -/
inductive Metadata.Extracted : Metadata → Prop where
  | imports (targets : List String) : Extracted (.ofImports targets)
  | declares (name : String) (parameters : List String) : Extracted ⟨some name, parameters, []⟩

namespace Metadata

theorem extracted_empty : Extracted .empty := .imports []

theorem Extracted.imports_eq_nil {m : Metadata} (h : m.Extracted) (hname : m.name ≠ none) : m.imports = [] := by
  cases h with
  | imports targets => exact absurd rfl hname
  | declares name parameters => rfl

end Metadata

/-! ## Languages -/

namespace Declaration

open Concrete Metadata

theorem extracted_declaration (kinds : List String) (c : Concrete) : (declaration kinds c).Extracted := by
  unfold declaration
  split
  · split
    · exact extracted_empty
    · exact .declares _ _
  · exact extracted_empty

theorem extracted_javascript (c : Concrete) : (javascript c).Extracted := by
  unfold javascript
  split
  · split
    · exact extracted_empty
    · exact .imports _
  · split
    · split
      · exact extracted_empty
      · exact .imports _
    · exact extracted_declaration _ c

theorem extracted_java (c : Concrete) : (java c).Extracted := by
  unfold java javaImport
  split
  · dsimp only
    split
    · exact extracted_empty
    · exact .imports _
  · exact extracted_declaration _ c

theorem extracted_python (c : Concrete) : (python c).Extracted := by
  unfold python
  split
  · exact .imports _
  · split
    · split
      · exact extracted_empty
      · exact .imports _
    · exact extracted_declaration _ c

theorem extracted_typeDefinition (c : Concrete) : (typeDefinition c).Extracted := by
  unfold typeDefinition
  split
  · exact .declares _ _
  · exact extracted_empty

theorem extracted_functionDefinition (c : Concrete) : (functionDefinition c).Extracted := by
  unfold functionDefinition
  split
  · exact extracted_empty
  · split
    · exact extracted_empty
    · exact .declares _ _

theorem extracted_headerInclude (c : Concrete) : (headerInclude c).Extracted := by
  unfold headerInclude
  split
  · exact extracted_empty
  · exact .imports _

theorem extracted_c (node : Concrete) : (c node).Extracted := by
  unfold c
  split
  · exact extracted_functionDefinition node
  · split
    · exact extracted_typeDefinition node
    · split
      · exact extracted_headerInclude node
      · exact extracted_empty

theorem extracted_cpp (node : Concrete) : (cpp node).Extracted := by
  unfold cpp
  split
  · exact extracted_typeDefinition node
  · split
    · dsimp only
      split
      · exact extracted_empty
      · exact .imports _
    · split
      · split
        · exact extracted_empty
        · exact .declares _ _
      · exact extracted_c node

end Declaration

theorem Language.extracted (l : Language) (c : Concrete) : (l.metadata c).Extracted := by
  cases l with
  | javascript => exact Declaration.extracted_javascript c
  | java => exact Declaration.extracted_java c
  | python => exact Declaration.extracted_python c
  | c => exact Declaration.extracted_c c
  | cpp => exact Declaration.extracted_cpp c

/-! ## Trees -/

namespace Concrete

variable {metadata : Concrete → Metadata} {n : Node}

mutual

theorem exists_metadata_of_mem_nodesFrom {h : Nat} {parent : Option Nat} (c : Concrete)
    (hn : n ∈ nodesFrom metadata h parent c) : ∃ d, n.metadata = metadata d := by
  cases c with
  | mk kind text span named missing hasError field children =>
    rw [nodesFrom] at hn
    rcases List.mem_cons.1 hn with rfl | hn
    · exact ⟨_, rfl⟩
    · exact exists_metadata_of_mem_nodesOfAll children hn

theorem exists_metadata_of_mem_nodesOfAll {h parent : Nat} (cs : List Concrete)
    (hn : n ∈ nodesOfAll metadata h parent cs) : ∃ d, n.metadata = metadata d := by
  cases cs with
  | nil => simp [nodesOfAll] at hn
  | cons c rest =>
    rw [nodesOfAll] at hn
    rcases List.mem_append.1 hn with hn | hn
    · exact exists_metadata_of_mem_nodesFrom c hn
    · exact exists_metadata_of_mem_nodesOfAll rest hn

end

/-- A node of a source that declares a name imports nothing. -/
theorem imports_eq_nil {l : Language} {source : String} {c : Concrete} (hn : n ∈ (c.toTree l source).nodes)
    (hname : n.metadata.name ≠ none) : n.metadata.imports = [] := by
  obtain ⟨d, hd⟩ := exists_metadata_of_mem_nodesFrom c hn
  exact (hd ▸ l.extracted d : n.metadata.Extracted).imports_eq_nil hname

end Concrete

end RefactorAudit
