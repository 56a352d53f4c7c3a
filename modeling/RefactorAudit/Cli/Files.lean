import RefactorAudit.Settings

/-!
# Files

Files by path, below one directory. A path is followed from that directory on, one
component at a time.
-/

namespace RefactorAudit.Cli

structure Files where
  entries : List (String × List UInt8)

namespace Files

/-- The files with one more; it stands in front of others at the same path. -/
def add (f : Files) (path : String) (bytes : List UInt8) : Files := ⟨(path, bytes) :: f.entries⟩

/-- Some file lies below the place. -/
def isDirectory (f : Files) (place : List String) : Bool :=
  place.isEmpty || f.entries.any fun e =>
    let parts := FilePath.components e.1
    place.isPrefixOf parts && place.length < parts.length

/-- Follows the components of a path from a place; each step has to leave a
directory. -/
def follow? (f : Files) (place : List String) : List String → Option (List String)
  | [] => some place
  | part :: rest =>
    if !f.isDirectory place then none
    else if part != ".." then f.follow? (place ++ [part]) rest
    else if place.isEmpty then none
    else f.follow? place.dropLast rest

/-- The path names a file: it is relative, and ends in a name. -/
def namesFile (path : String) : Bool :=
  let last := (path.splitOn "/").getLast?.getD ""
  !"/".toList.isPrefixOf path.toList && last != "" && last != "." && last != ".."

/-- The bytes of the file at the path. -/
def read? (f : Files) (path : String) : Option (List UInt8) :=
  if namesFile path then do
    let place ← f.follow? [] (FilePath.components path)
    (f.entries.find? fun e => FilePath.components e.1 == place).map Prod.snd
  else none

/-- The files and the configuration file. Where nothing can be written to that path,
an empty file takes the place of its directory. -/
def withConfig (f : Files) (path : String) : Settings.Store → Files
  | .absent => f
  | .file text => f.add path text.toUTF8.toList
  | .blocked => f.add ("/".intercalate (FilePath.components path).dropLast) []

end Files

end RefactorAudit.Cli
