import RefactorAudit.Syntax.Flatten

/-!
# Grammars

The grammars that are installed, and the parsing of a source with one of them. A
grammar itself is a function from sources to concrete trees; a source whose tree
has a fault does not parse.
-/

namespace RefactorAudit

/-- Why a source has no syntax tree. -/
inductive ParseError where
  | unsupported (language : String)
  | faulty (language : String) (fault : Concrete.Fault)
  deriving DecidableEq, Repr

def ParseError.message : ParseError → String
  | .unsupported language => s!"Unsupported language: {language}"
  | .faulty language fault =>
    let place := match fault.place? with
      | some p => s!" at line {p.row + 1}, column {p.col + 1}"
      | none => ""
    s!"Failed to parse {language} code{place}: {fault.detail}"

/-- A parser of each language. -/
abbrev Grammar := Language → String → Concrete

/-- The languages whose grammar is loaded. -/
structure Grammars where
  loaded : List Language
  deriving Repr

namespace Grammars

def all : Grammars := ⟨Language.all⟩

/-- Loads the grammars of the languages asked for, or of all languages if none is
asked for. Unknown languages and those without an installed grammar are passed
over. -/
def load (requested notInstalled : List String) : Grammars :=
  let wanted := if requested.isEmpty then Language.all else requested.filterMap Language.ofName?
  ⟨(wanted.filter fun l => !notInstalled.contains l.name).eraseDups⟩

def find? (g : Grammars) (language : String) : Option Language := g.loaded.find? (·.name == language)

def supports (g : Grammars) (language : String) : Bool := (g.find? language).isSome

/-- The names of the loaded languages, sorted. -/
def names (g : Grammars) : List String := (g.loaded.map Language.name).mergeSort fun a b => a ≤ b

/-- Parses a source with the grammar of the language. -/
def parse (g : Grammars) (grammar : Grammar) (language source : String) : Except ParseError (Language × Concrete) :=
  match g.find? language with
  | none => .error (.unsupported language)
  | some l =>
    let tree := grammar l source
    if tree.hasError then .error (.faulty language tree.fault) else .ok (l, tree)

/-- The syntax tree of a source. -/
def syntaxTree (g : Grammars) (grammar : Grammar) (language source : String) : Except ParseError SyntaxTree := do
  let (l, tree) ← g.parse grammar language source
  return tree.toTree l source

end Grammars

end RefactorAudit
