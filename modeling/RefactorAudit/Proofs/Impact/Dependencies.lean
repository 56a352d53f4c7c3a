import RefactorAudit.Impact.Score
import RefactorAudit.Proofs.Changes.Diff
import RefactorAudit.Proofs.Risk.Flag
import RefactorAudit.Proofs.Syntax.Declaration

/-!
# Dependencies that come and go

Imports are never paired, since only declarations are and no node is both. So a
target is listed as a new dependency exactly if some refactored node imports it that
no legacy node equals (`matched_dependencies`), and likewise for removed ones. A
target that one side alone imports is always listed. A target that both sides import
is listed too where the import is written differently.
-/

namespace RefactorAudit

namespace SyntaxTree

variable {t other : SyntaxTree} {x : String}

/-- Some node of the tree imports the target. -/
def Imports (t : SyntaxTree) (x : String) : Prop := ∃ n ∈ t.nodes, x ∈ n.metadata.imports

/-- Some node of the tree imports the target, and no node of the other tree says the
same as this node. -/
def ImportsAnew (t other : SyntaxTree) (x : String) : Prop :=
  ∃ n ∈ t.nodes, x ∈ n.metadata.imports ∧ ∀ o ∈ other.nodes, ¬n.SameContent o

instance decidableImports (t : SyntaxTree) (x : String) : Decidable (t.Imports x) :=
  inferInstanceAs (Decidable (∃ n ∈ t.nodes, x ∈ n.metadata.imports))

instance decidableImportsAnew (t other : SyntaxTree) (x : String) : Decidable (t.ImportsAnew other x) :=
  inferInstanceAs (Decidable (∃ n ∈ t.nodes, x ∈ n.metadata.imports ∧ ∀ o ∈ other.nodes, ¬n.SameContent o))

theorem Imports.anew (h : t.Imports x) (hnot : ¬other.Imports x) : t.ImportsAnew other x := by
  obtain ⟨n, hn, hx⟩ := h
  refine ⟨n, hn, hx, fun o ho hsame => hnot ⟨o, ho, ?_⟩⟩
  rw [← hsame.2.2]
  exact hx

end SyntaxTree

namespace Impact

open Diff

variable {t other : SyntaxTree} {x : String}

theorem mem_importTargets {nodes : List Node} : x ∈ importTargets nodes ↔ ∃ n ∈ nodes, x ∈ n.metadata.imports := by
  rw [importTargets, List.mem_eraseDups, List.mem_flatMap]

/-- If no import is exempt, the targets of unmatched nodes are those imported anew. -/
theorem mem_importTargets_unmatched {exempt : Nat → Bool}
    (hexempt : ∀ n ∈ t.nodes, exempt n.handle = true → n.metadata.imports = []) :
    x ∈ importTargets (unmatched t.nodes exempt (other.nodes.map Node.signature)) ↔ t.ImportsAnew other x := by
  rw [mem_importTargets]
  constructor
  · rintro ⟨n, hn, hx⟩
    obtain ⟨hmem, -, hnone⟩ := mem_unmatched.1 hn
    exact ⟨n, hmem, hx, hnone⟩
  · rintro ⟨n, hn, hx, hnone⟩
    refine ⟨n, mem_unmatched.2 ⟨hn, ?_, hnone⟩, hx⟩
    by_contra hpaired
    rw [hexempt n hn (by simpa using hpaired)] at hx
    exact List.not_mem_nil hx

variable {α : Type} [Scalar α]

/-- Two matched sources have a diff. Its dependencies are those that one side imports
in a way in which the other side does not. -/
theorem matched_dependencies (threshold : α) (hints : Hints) (path : String) (l : Language)
    (legacy refactored : Concrete) (oldText newText : String) :
    ∃ pairs d,
      Matching.run threshold hints (legacy.toTree l oldText) (refactored.toTree l newText) = .ok pairs ∧
      compute path (legacy.toTree l oldText) (refactored.toTree l newText) pairs = .ok d ∧
      (∀ x, x ∈ importTargets d.added ↔ (refactored.toTree l newText).ImportsAnew (legacy.toTree l oldText) x) ∧
      ∀ x, x ∈ importTargets d.removed ↔ (legacy.toTree l oldText).ImportsAnew (refactored.toTree l newText) x := by
  obtain ⟨pairs, hpairs, hdeclared⟩ :=
    Matching.run_declared threshold hints (legacy.toTree l oldText) (refactored.toTree l newText)
  obtain ⟨d, hd⟩ := compute_total path (.of_declared hdeclared)
  have hcomputed := compute_eq_ok_iff.1 hd
  refine ⟨pairs, d, hpairs, hd, fun x => ?_, fun x => ?_⟩
  · rw [hcomputed.added]
    refine mem_importTargets_unmatched fun n hn htarget => ?_
    obtain ⟨p, hp, hhandle⟩ := List.mem_map.1 (Correspondence.isTarget_iff.1 htarget)
    obtain ⟨_, -, r, hr, rfl, -, hname⟩ := hdeclared p hp
    obtain rfl := SyntaxTree.eq_of_handle_eq hr hn hhandle
    exact Concrete.imports_eq_nil hr hname
  · rw [hcomputed.removed]
    refine mem_importTargets_unmatched fun n hn hsource => ?_
    obtain ⟨p, hp, hhandle⟩ := List.mem_map.1 (Correspondence.isSource_iff.1 hsource)
    obtain ⟨o, ho, _, -, rfl, hname, -⟩ := hdeclared p hp
    obtain rfl := SyntaxTree.eq_of_handle_eq ho hn hhandle
    exact Concrete.imports_eq_nil ho hname

/-! ## Nothing is missed -/

/-- For all sources of a language and all hints, what only the refactored source
imports is a new dependency, and what only the legacy source imports is a removed
one. The tags are of no consequence. -/
theorem newDependencies_complete (threshold : α) (hints : Hints) (path : String) (l : Language)
    (legacy refactored : Concrete) (oldText newText : String) :
    ∃ pairs d,
      Matching.run threshold hints (legacy.toTree l oldText) (refactored.toTree l newText) = .ok pairs ∧
      compute path (legacy.toTree l oldText) (refactored.toTree l newText) pairs = .ok d ∧
      ∀ (tags : List (Tag α)) (x : String),
        ((refactored.toTree l newText).Imports x → ¬(legacy.toTree l oldText).Imports x →
          x ∈ (metrics d tags).newDependencies) ∧
        ((legacy.toTree l oldText).Imports x → ¬(refactored.toTree l newText).Imports x →
          x ∈ (metrics d tags).removedDependencies) := by
  obtain ⟨pairs, d, hpairs, hd, hadded, hremoved⟩ :=
    matched_dependencies threshold hints path l legacy refactored oldText newText
  refine ⟨pairs, d, hpairs, hd, fun tags x => ⟨fun hnew hold => ?_, fun hold hnew => ?_⟩⟩
  · exact (hadded x).2 (hnew.anew hold)
  · exact (hremoved x).2 (hold.anew hnew)

/-- A source with one import statement. -/
def importing (modules : List String) : Concrete :=
  let node (kind text : String) (named : Bool) (field : Option String) (children : List Concrete) : Concrete :=
    ⟨kind, text, ⟨⟨0, 0⟩, ⟨0, 0⟩⟩, named, false, false, field, children⟩
  let token (text : String) : Concrete := node text text false none []
  let name (module : String) : Concrete := node "dotted_name" module true (some "name") [node "identifier" module true none []]
  let text := "import " ++ ", ".intercalate modules
  node "module" (text ++ "\n") true none
    [node "import_statement" text true none (token "import" :: (modules.map name).intersperse (token ","))]

theorem newDependencies_complete_importing :
    ((importing ["os", "sys"]).toTree .python "import os, sys\n").Imports "sys" ∧
    ¬((importing ["os"]).toTree .python "import os\n").Imports "sys" ∧
    ∃ pairs d,
      Matching.run (Scalar.ofRat Matching.defaultThreshold : Float) (.ofList [("os", "sys")])
        ((importing ["os"]).toTree .python "import os\n")
        ((importing ["os", "sys"]).toTree .python "import os, sys\n") = .ok pairs ∧
      compute "main" ((importing ["os"]).toTree .python "import os\n")
        ((importing ["os", "sys"]).toTree .python "import os, sys\n") pairs = .ok d ∧
      ∀ tags : List (Tag Float), "sys" ∈ (metrics d tags).newDependencies := by
  have hnew : ((importing ["os", "sys"]).toTree .python "import os, sys\n").Imports "sys" := by decide
  have hold : ¬((importing ["os"]).toTree .python "import os\n").Imports "sys" := by decide
  obtain ⟨pairs, d, hpairs, hd, hlisted⟩ := newDependencies_complete (Scalar.ofRat Matching.defaultThreshold : Float)
    (.ofList [("os", "sys")]) "main" .python (importing ["os"]) (importing ["os", "sys"]) "import os\n"
    "import os, sys\n"
  exact ⟨hnew, hold, pairs, d, hpairs, hd, fun tags => (hlisted tags "sys").1 hnew hold⟩

/-! ## What is listed -/

/-- For all sources of a language and all hints, a module is a new dependency exactly
if some refactored node imports it that no legacy node equals in kind, text and
metadata, and a removed one exactly if some legacy node imports it that no refactored
node equals. Flags for new dependencies are about such modules only. -/
theorem newDependencies_iff_importsAnew (threshold : α) (hints : Hints) (path : String) (l : Language)
    (legacy refactored : Concrete) (oldText newText : String) :
    ∃ pairs d,
      Matching.run threshold hints (legacy.toTree l oldText) (refactored.toTree l newText) = .ok pairs ∧
      compute path (legacy.toTree l oldText) (refactored.toTree l newText) pairs = .ok d ∧
      ∀ tags : List (Tag α),
        (∀ x, x ∈ (metrics d tags).newDependencies ↔
          (refactored.toTree l newText).ImportsAnew (legacy.toTree l oldText) x) ∧
        (∀ x, x ∈ (metrics d tags).removedDependencies ↔
          (legacy.toTree l oldText).ImportsAnew (refactored.toTree l newText) x) ∧
        ∀ options, ∀ f ∈ Risk.scanDependencies options (metrics d tags).newDependencies,
          ∃ x, f = Risk.dependencyFlag x ∧ (refactored.toTree l newText).ImportsAnew (legacy.toTree l oldText) x := by
  obtain ⟨pairs, d, hpairs, hd, hadded, hremoved⟩ :=
    matched_dependencies threshold hints path l legacy refactored oldText newText
  refine ⟨pairs, d, hpairs, hd, fun tags => ⟨hadded, hremoved, fun options f hf => ?_⟩⟩
  obtain ⟨x, hx, rfl⟩ := Risk.exists_of_mem_scanDependencies hf
  exact ⟨x, rfl, (hadded x).1 hx⟩

/-- One more module in an import statement makes the others new and removed
dependencies at once. -/
theorem newDependencies_not_new :
    ((importing ["os"]).toTree .python "import os\n").Imports "os" ∧
    ((importing ["os", "sys"]).toTree .python "import os, sys\n").Imports "os" ∧
    ∃ pairs d,
      Matching.run (Scalar.ofRat Matching.defaultThreshold : Float) .empty
        ((importing ["os"]).toTree .python "import os\n")
        ((importing ["os", "sys"]).toTree .python "import os, sys\n") = .ok pairs ∧
      compute "main" ((importing ["os"]).toTree .python "import os\n")
        ((importing ["os", "sys"]).toTree .python "import os, sys\n") pairs = .ok d ∧
      ∀ tags : List (Tag Float),
        "os" ∈ (metrics d tags).newDependencies ∧ "os" ∈ (metrics d tags).removedDependencies := by
  obtain ⟨pairs, d, hpairs, hd, hadded, hremoved⟩ :=
    matched_dependencies (Scalar.ofRat Matching.defaultThreshold : Float) .empty "main" .python (importing ["os"])
      (importing ["os", "sys"]) "import os\n" "import os, sys\n"
  refine ⟨by decide, by decide, pairs, d, hpairs, hd, fun tags => ⟨?_, ?_⟩⟩
  · exact (hadded "os").2 (by decide)
  · exact (hremoved "os").2 (by decide)

end Impact

end RefactorAudit
