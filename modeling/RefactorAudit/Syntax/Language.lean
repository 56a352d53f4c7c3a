import RefactorAudit.Text.Case

/-!
# Languages

The languages whose sources can be analysed, and their file extensions.
-/

namespace RefactorAudit

inductive Language where
  | javascript
  | java
  | python
  | c
  | cpp
  deriving DecidableEq, Repr

namespace Language

/-- All languages, in the order in which messages list them. -/
def all : List Language := [.javascript, .java, .python, .c, .cpp]

def name : Language → String
  | .javascript => "javascript"
  | .java => "java"
  | .python => "python"
  | .c => "c"
  | .cpp => "cpp"

def ofName? (s : String) : Option Language := all.find? (·.name == s)

/-- The names of all languages, as messages list them. -/
def allNames : String := ", ".intercalate (all.map name)

def extensions : Language → List String
  | .javascript => [".js", ".jsx", ".mjs", ".cjs"]
  | .java => [".java"]
  | .python => [".py"]
  | .c => [".c", ".h"]
  | .cpp => [".cpp", ".cc", ".cxx", ".hpp", ".hh"]

/-- The language that files with the extension are written in. Letter case does
not count. -/
def ofExtension? (ext : String) : Option Language := all.find? (·.extensions.contains (Text.lower ext))

end Language

/-! ## File paths -/

namespace FilePath

/-- The components of a path; empty ones and `.` do not count. -/
def components (path : String) : List String :=
  (path.splitOn "/").filter fun part => part != "" && part != "."

/-- The last component of a path. -/
def fileName (path : String) : String := ((components path).getLast?).getD ""

/-- The extension of a file name with its point. A point at either end of the name
opens no extension. -/
def extensionOf (file : String) : String :=
  let reversed := file.toList.reverse
  let ext := reversed.takeWhile (· != '.')
  if ext.isEmpty || reversed.length ≤ ext.length + 1 then "" else String.ofList ('.' :: ext.reverse)

def language? (path : String) : Option Language := Language.ofExtension? (extensionOf (fileName path))

end FilePath

end RefactorAudit
