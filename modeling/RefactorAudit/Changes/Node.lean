import RefactorAudit.Syntax.Node

/-!
# Changed nodes

Why a node and the one that takes its place are not equivalent.
-/

namespace RefactorAudit

/-- A difference between two nodes. -/
inductive Reason where
  | kind (old new : String)
  | content
  | name (old new : Option String)
  | parameters
  | imports
  /-- A difference given in words. -/
  | stated (text : String)
  deriving DecidableEq, Repr

namespace Reason

/-- How a reason mentions a declared name. -/
def mention (name : Option String) : String :=
  let text := name.getD ""
  if text == "" then "<anonymous>" else text

def text : Reason → String
  | .kind old new => s!"Type changed: {old} -> {new}"
  | .content => "Content modified"
  | .name old new => s!"Name changed: {mention old} -> {mention new}"
  | .parameters => "Parameters changed"
  | .imports => "Imports changed"
  | .stated text => text

end Reason

/-- The differences between two nodes. -/
def nodeChanges (old new : Node) : List Reason :=
  (if old.kind = new.kind then [] else [.kind old.kind new.kind]) ++
  (if old.text = new.text then [] else [.content]) ++
  (if old.metadata.name = new.metadata.name then [] else [.name old.metadata.name new.metadata.name]) ++
  (if old.metadata.parameters = new.metadata.parameters then [] else [.parameters]) ++
  (if old.metadata.imports = new.metadata.imports then [] else [.imports])

/-- A node, the one that takes its place, and how they differ. -/
structure ModifiedNode where
  legacy : Node
  refactored : Node
  reasons : List Reason
  deriving Repr

end RefactorAudit
