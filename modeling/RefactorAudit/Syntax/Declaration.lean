import RefactorAudit.Syntax.Concrete
import RefactorAudit.Syntax.Language
import RefactorAudit.Text.Blank

/-!
# Declarations

What a concrete node declares, language by language: the name and the parameters
of a function or a type, and the targets of an import.
-/

namespace RefactorAudit

namespace Concrete

/-- The texts of the parameters in a parameter list; comments do not count. -/
def parameterTexts (list? : Option Concrete) : List String :=
  match list? with
  | none => []
  | some list => (list.children.filter fun c => c.named && c.kind != "comment").map (·.text)

/-- Name and parameters of a declaration of one of the kinds. -/
def declaration (kinds : List String) (c : Concrete) : Metadata :=
  if kinds.contains c.kind then
    match c.child? "name" with
    | none => .empty
    | some name => ⟨some name.text, parameterTexts (c.child? "parameters"), []⟩
  else .empty

def isQuote (c : Char) : Bool := c == '\'' || c == '"' || c == '\x60'

/-- The text inside a string literal. -/
def unquoted (s : String) : String := Text.trimOf isQuote (Text.trim s)

end Concrete

namespace Declaration

open Concrete

/-! ## JavaScript -/

def javascriptKinds : List String :=
  ["function_declaration", "function", "function_expression", "generator_function_declaration",
    "generator_function", "class_declaration", "class", "method_definition"]

/-- The first string argument of a call of `require`. -/
def requireTarget? (c : Concrete) : Option String :=
  match c.child? "function" with
  | none => none
  | some callee =>
    if callee.kind == "identifier" && callee.text == "require" then
      let arguments := ((c.child? "arguments").map (·.children)).getD []
      (arguments.find? fun a => a.kind == "string" || a.kind == "template_string").map (unquoted ·.text)
    else none

def javascript (c : Concrete) : Metadata :=
  if c.kind == "import_statement" then
    match c.child? "source" with
    | none => .empty
    | some source => .ofImports [unquoted source.text]
  else if c.kind == "call_expression" then
    match requireTarget? c with
    | none => .empty
    | some target => .ofImports [target]
  else declaration javascriptKinds c

/-! ## Java -/

def javaKinds : List String :=
  ["class_declaration", "interface_declaration", "enum_declaration", "record_declaration",
    "method_declaration", "constructor_declaration"]

/-- The last name in an import, with `.*` after it for an import on demand. -/
def javaImport (c : Concrete) : Metadata :=
  let names := c.children.filter fun d => d.kind == "scoped_identifier" || d.kind == "identifier"
  let target := ((names.getLast?).map (·.text)).getD ""
  let onDemand := c.children.any (·.kind == "asterisk")
  if target == "" then .empty else .ofImports [if onDemand then target ++ ".*" else target]

def java (c : Concrete) : Metadata :=
  if c.kind == "import_declaration" then javaImport c else declaration javaKinds c

/-! ## Python -/

def pythonKinds : List String := ["function_definition", "class_definition"]

/-- The module that one part of an import statement names. -/
def pythonModule? (c : Concrete) : Option String :=
  if c.kind == "dotted_name" then some c.text
  else if c.kind == "aliased_import" then (c.child? "name").map (·.text)
  else none

def python (c : Concrete) : Metadata :=
  if c.kind == "import_statement" then .ofImports (c.children.filterMap pythonModule?)
  else if c.kind == "import_from_statement" then
    match c.child? "module_name" with
    | none => .empty
    | some module => .ofImports [module.text]
  else declaration pythonKinds c

/-! ## C and C++ -/

/-- The inner declarator of a declarator. Some kinds of declarator have it in no
role: it is then their first named child. -/
def innerDeclarator? (c : Concrete) : Option Concrete :=
  match c.child? "declarator" with
  | some d => some d
  | none => c.firstNamedChild?

theorem size_lt_of_innerDeclarator? {c d : Concrete} (h : innerDeclarator? c = some d) :
    d.size < c.size := by
  apply size_lt_of_mem_children
  unfold innerDeclarator? at h
  split at h
  · next hc => cases h; exact mem_children_of_child? hc
  · exact List.mem_of_find?_eq_some h

/-- The function declarator on the way down from a declarator. -/
def functionDeclarator? (c : Concrete) : Option Concrete :=
  if c.kind == "function_declarator" then some c
  else
    match _h : innerDeclarator? c with
    | none => none
    | some d => functionDeclarator? d
termination_by c.size
decreasing_by exact size_lt_of_innerDeclarator? _h

def functionDefinition (c : Concrete) : Metadata :=
  match (c.child? "declarator").bind functionDeclarator? with
  | none => .empty
  | some declarator =>
    match declarator.child? "declarator" with
    | none => .empty
    | some name => ⟨some name.text, parameterTexts (declarator.child? "parameters"), []⟩

/-- The name of a type that is defined here; a mere mention has no body. -/
def typeDefinition (c : Concrete) : Metadata :=
  match c.child? "name", c.child? "body" with
  | some name, some _ => ⟨some name.text, [], []⟩
  | _, _ => .empty

def headerInclude (c : Concrete) : Metadata :=
  match c.child? "path" with
  | none => .empty
  | some path => .ofImports [Text.trimOf (fun d => d == '<' || d == '>' || d == '"') (Text.trim path.text)]

/-- What a `using` declaration brings in. -/
def usingTarget (text : String) : String :=
  let declared := Text.trimEndOf (· == ';') (Text.trim text)
  let target := Text.trim (String.ofList (declared.toList.drop "using".length))
  if "namespace ".toList.isPrefixOf target.toList then
    Text.trim (String.ofList (target.toList.drop "namespace ".length))
  else target

def typeSpecifiers : List String := ["struct_specifier", "union_specifier", "enum_specifier"]

def c (node : Concrete) : Metadata :=
  if node.kind == "function_definition" then functionDefinition node
  else if typeSpecifiers.contains node.kind then typeDefinition node
  else if node.kind == "preproc_include" then headerInclude node
  else .empty

def cpp (node : Concrete) : Metadata :=
  if node.kind == "class_specifier" then typeDefinition node
  else if node.kind == "using_declaration" then
    let target := usingTarget node.text
    if target == "" then .empty else .ofImports [target]
  else if node.kind == "namespace_definition" then
    match node.child? "name" with
    | none => .empty
    | some name => ⟨some name.text, [], []⟩
  else c node

end Declaration

/-- What a node of a source in the language declares. -/
def Language.metadata : Language → Concrete → Metadata
  | .javascript => Declaration.javascript
  | .java => Declaration.java
  | .python => Declaration.python
  | .c => Declaration.c
  | .cpp => Declaration.cpp

end RefactorAudit
