import RefactorAudit.Changes.Diff
import RefactorAudit.Refactoring.Rules
import RefactorAudit.Refactoring.Tag
import RefactorAudit.Text.Search

/-!
# Detecting techniques in a diff

Rules for kinds look at every node that came or went. Rules for words look at the
added nodes that declare or import something, and at the lines that a file gained.
Rules for names look at modified pairs.
-/

namespace RefactorAudit

open Scalar

variable {α : Type} [Scalar α]

/-- How certain a rule is about a node. -/
def nodeConfidence (m : Metadata) (lexical kind : Bool) : α :=
  let c : α := ofRat 0.5
  let c := if lexical then c + ofRat 0.3 else c
  let c := if kind then c + ofRat 0.2 else c
  let c := if m.isNamed then c + ofRat 0.1 else c
  let c := if m.imports.isEmpty then c else c + ofRat 0.1
  atMost one c

namespace Rule

/-- The text that the rule asks for, empty if it asks for none. -/
def word (r : Rule) : String := r.text.getD ""

/-- The rule asks for the kind. -/
def wantsKind (r : Rule) (kind : String) : Bool := r.kind == some kind

/-- The rule asks for a text that stands in the lower-case text. -/
def findsText (r : Rule) (lowered : String) : Bool := r.text.any fun t => Text.occursIn (Text.lower t) lowered

end Rule

/-- The node declares a name or imports something. -/
def Metadata.isInformative (m : Metadata) : Bool := m.isNamed || !m.imports.isEmpty

def kindEvidence (n : Node) (condition : Condition) : String :=
  s!"{Text.capitalize condition.label} {n.kind}{n.nameLabel}"

def lexicalEvidence (n : Node) (word : String) : String :=
  let place := if n.metadata.isNamed then s!" in {n.metadata.nameText}" else ""
  s!"Found {word} usage{place} ({n.kind})"

def renameEvidence (c : ModifiedNode) : String :=
  let mention (n : Node) : String := n.metadata.name.getD "None"
  s!"Renamed {mention c.legacy} -> {mention c.refactored} ({c.refactored.kind})"

/-- What one rule finds in a node; `lowered?` is the text that rules for words
look at, if they look at the node. -/
def detectByRule (s : TechniqueRules) (condition : Condition) (n : Node) (lowered? : Option String) (r : Rule) :
    Option (Detection α) :=
  if r.condition = condition then
    if r.wantsKind n.kind then
      some ⟨s.technique, s.level, [kindEvidence n condition], nodeConfidence n.metadata false true⟩
    else if lowered?.any r.findsText then
      some ⟨s.technique, s.level, [lexicalEvidence n r.word], nodeConfidence n.metadata true false⟩
    else none
  else none

def detectNode (registry : Registry) (n : Node) (condition : Condition) : List (Detection α) :=
  let lowered? :=
    if n.metadata.isInformative && condition == .added then some (Text.lower n.text) else none
  registry.flatMap fun s => s.rules.filterMap (detectByRule s condition n lowered?)

/-- What a reason is about: its text up to the first colon, in lower case. -/
def Reason.subject (r : Reason) : String := Text.lower (Text.splitFirst ':' r.text).1

/-- A reason of the change is about a name. -/
def ModifiedNode.isRenamed (c : ModifiedNode) : Bool :=
  c.reasons.any fun r => Text.occursIn "name" r.subject || Text.occursIn "identifier" r.subject

def detectModified (registry : Registry) (c : ModifiedNode) : List (Detection α) :=
  if c.isRenamed then
    registry.flatMap fun s => (s.rules.filter (·.condition == .renamed)).map fun _ =>
      ⟨s.technique, s.level, [renameEvidence c], nodeConfidence c.refactored.metadata false false⟩
  else []

/-- The lines that the file gained, in lower case. -/
def FileChange.addedText (f : FileChange) : String := Text.lower ("\n".intercalate f.addedLines)

/-- The summary of the file mentions imports. -/
def FileChange.mentionsImports (f : FileChange) : Bool :=
  let summary := Text.lower f.summary
  Text.occursIn "import" summary || Text.occursIn "dependency" summary

def detectFile (registry : Registry) (f : FileChange) : List (Detection α) :=
  let text := f.addedText
  let words :=
    if text == "" then []
    else registry.flatMap fun s => (s.rules.filter (·.findsText text)).map fun r =>
      ⟨s.technique, s.level, [s!"Found {r.word} in file changes"], ofRat 0.8⟩
  let imports :=
    if f.mentionsImports then [⟨.moveModularize, 2, ["Import/dependency changes detected"], ofRat 0.7⟩] else []
  words ++ imports

/-- All that points to a technique in the diff. -/
def detectAll (registry : Registry) (d : Diff) : List (Detection α) :=
  d.added.flatMap (detectNode registry · .added) ++ d.removed.flatMap (detectNode registry · .removed) ++
    d.modified.flatMap (detectModified registry) ++ d.files.flatMap (detectFile registry)

/-! ## Merging -/

namespace Tag

/-- The evidence, and each further piece that is not yet there. -/
def joinEvidence (evidence further : List String) : List String :=
  further.foldl (fun es e => if es.contains e then es else es ++ [e]) evidence

/-- One tag for two findings of a technique: the higher level, all evidence, and
the mean of the confidences. -/
def join (t u : Tag α) : Except (TagError α) (Tag α) :=
  Tag.make t.technique (t.level.higher u.level) (joinEvidence t.evidence u.evidence)
    ((t.confidence + u.confidence) / ofNat 2)

/-- Joins a tag to the one of its technique, or adds it at the end. -/
def mergeInto (u : Tag α) : List (Tag α) → Except (TagError α) (List (Tag α))
  | [] => .ok [u]
  | t :: rest =>
    if t.technique = u.technique then do return (← t.join u) :: rest
    else do return t :: (← mergeInto u rest)

/-- Tags by level, the highest first; tags of a level keep their order. -/
def byLevel (tags : List (Tag α)) : List (Tag α) := tags.mergeSort fun t u => u.level ≤ t.level

/-- One tag for each technique, the highest level first. -/
def merge (tags : List (Tag α)) : Except (TagError α) (List (Tag α)) := do
  return byLevel (← tags.foldlM (fun merged t => mergeInto t merged) [])

end Tag

/-- The techniques that the rules find in the diff. -/
def classify (registry : Registry) (d : Diff) : Except (TagError α) (List (Tag α)) := do
  Tag.merge (← (detectAll registry d).mapM Detection.tag)

end RefactorAudit
