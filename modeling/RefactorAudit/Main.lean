import RefactorAudit.Cli.Run
import RefactorAudit.Syntax.Export

/-!
# The program

Reads what a command needs, runs it, and prints what it gives. The concrete tree of
a source file `f` is read from `f.tree.json`. Tables and panels are printed plainly.
-/

namespace RefactorAudit.Program

open Cli

def readBytes? (path : String) : IO (Option (List UInt8)) := do
  try
    return some (← IO.FS.readBinFile path).toList
  catch _ => return none

def readConfig (path : String) : IO Settings.Store := do
  match ← readBytes? path with
  | some bytes => return .ofText (Text.Utf8.decode bytes)
  | none => return .absent

/-- The text of a source file and its tree, if both can be read. -/
def readSource? (path : String) : IO (Option (String × Concrete)) := do
  match ← readBytes? path, ← readBytes? (path ++ ".tree.json") with
  | some bytes, some exported =>
    let text := Text.unifyNewlines (Text.Utf8.decode bytes)
    return (Json.read? (Text.Utf8.decode exported)).map fun j => (text, Export.tree text j)
  | _, _ => return none

/-- The files that a command line names. -/
def namedFiles (words : List String) : List String :=
  match readCommand words with
  | some (.analyze args) => [args.legacy, args.refactored]
  | _ => []

def plain : Display → String
  | .line text => text
  | .panel text title => title ++ "\n" ++ text
  | .table title columns rows =>
    "\n".intercalate (title :: " | ".intercalate columns :: rows.map (" | ".intercalate ·))

/-- The parse of a source that has no exported tree: a tree that is all fault. -/
def unreadable (source : String) : Concrete :=
  ⟨"ERROR", source, ⟨⟨0, 0⟩, ⟨0, 0⟩⟩, true, false, true, none, []⟩

/-- Writes the configuration file; says whether that went well. -/
def writeConfig (directory path text : String) : IO Bool := do
  try
    IO.FS.createDirAll directory
    IO.FS.writeFile path text
    return true
  catch _ => return false

/-- Runs a command line and keeps the configuration that it leaves. Where the file
cannot be written, the command runs again with that known. -/
def runAndKeep (directory : String) (w : World) (words : List String) : IO Outcome := do
  let outcome := run w words
  match outcome.config.text? with
  | some text =>
    if w.config.text? == some text then return outcome
    else if ← writeConfig directory w.configPath text then return outcome
    else return run { w with config := .blocked } words
  | none => return outcome

/-- What a command that did not end as expected says at last. -/
def lastWords : Ending → Option String
  | .success | .failure => none
  | .usage e => some (e.message?.getD "This is not a command line of the program.")
  | .defect e => some e.message
  | .broken e => some e.message

def execute (words : List String) : IO UInt32 := do
  let directory := (← IO.getEnv "HOME").getD "." ++ "/.refactor-audit"
  let configPath := directory ++ "/config.toml"
  let paths := namedFiles words
  let entries ← paths.filterMapM fun path => do return (← readBytes? path).map (path, ·)
  let sources ← paths.filterMapM readSource?
  let grammar : Grammar := fun _ source => (sources.lookup source).getD (unreadable source)
  let world := ⟨configPath, ← readConfig configPath, fun path => entries.lookup path, grammar⟩
  let outcome ← runAndKeep directory world words
  IO.print outcome.output
  outcome.console.forM fun d => IO.println (plain d)
  outcome.errors.forM fun d => IO.eprintln (plain d)
  (lastWords outcome.ending).forM fun text => IO.eprintln ("Error: " ++ text)
  return UInt32.ofNat outcome.ending.exitCode

end RefactorAudit.Program

def main (words : List String) : IO UInt32 := RefactorAudit.Program.execute words
