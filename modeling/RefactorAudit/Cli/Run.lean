import RefactorAudit.Cli.Command
import RefactorAudit.Cli.Display
import RefactorAudit.Text.Utf8

/-!
# Running a command

`run` takes a command line and the part of the world that a command can see, and
gives all that it prints and changes.
-/

namespace RefactorAudit.Cli

def version : String := "0.1.0"

/-- What a command can see. -/
structure World where
  /-- Where the configuration file is. -/
  configPath : String
  config : Settings.Store
  /-- The bytes of the file that a path names. -/
  read? : String → Option (List UInt8)
  grammar : Grammar

/-- The text of a file: bytes that are not UTF-8 are replaced, and all line breaks
are line feeds. -/
def World.text? (w : World) (path : String) : Option String :=
  (w.read? path).map fun bytes => Text.unifyNewlines (Text.Utf8.decode bytes)

/-- How a command ended. -/
inductive Ending where
  | success
  | failure
  | usage (e : UsageError)
  /-- A fault of the analysis itself. -/
  | defect (e : Analysis.Failure Float)
  /-- A fault of the configuration file that no command expects. -/
  | broken (e : Settings.Failure)

/-- What a command printed and changed. -/
structure Outcome where
  ending : Ending
  output : String
  console : List Display
  errors : List Display
  config : Settings.Store

def UsageError.message? : UsageError → Option String
  | .malformed => none
  | .badHint hint => some s!"Invalid hint '{hint}'. Expected OLD_NAME=NEW_NAME."
  | .unsupportedLanguage language =>
    some s!"Unsupported language '{language}'. Supported: {Language.allNames}"
  | .unknownLanguage file => some s!"Cannot infer the language of '{file}'. Pass --language."

def Ending.exitCode : Ending → Nat
  | .success => 0
  | .failure | .defect _ | .broken _ => 1
  | .usage _ => 2

namespace Outcome

def showing (w : World) (ds : List Display) : Outcome := ⟨.success, "", ds, [], w.config⟩

def printing (w : World) (text : String) : Outcome := ⟨.success, text ++ "\n", [], [], w.config⟩

def failing (w : World) (text : String) : Outcome := ⟨.failure, "", [], [.failed text], w.config⟩

/-- Nothing is printed but how the command ended. -/
def stopping (w : World) (e : Ending) : Outcome := ⟨e, "", [], [], w.config⟩

end Outcome

/-! ## Commands -/

/-- A hint is written `OLD=NEW`, with a name on both sides. -/
def readHint (hint : String) : Except UsageError (String × String) :=
  match Text.splitFirst '=' hint with
  | (old, some new) =>
    if Text.trim old == "" || Text.trim new == "" then .error (.badHint hint)
    else .ok (Text.trim old, Text.trim new)
  | (_, none) => .error (.badHint hint)

/-- The hints; the last one counts where a name has two. -/
def readHints (hints : List String) : Except UsageError Hints := (hints.mapM readHint).map Table.ofList

/-- The language asked for, or the one that the file or the settings suggest. -/
def resolveLanguage (asked : Option String) (path : String) (fallback : Option Language) :
    Except UsageError Language :=
  match asked.filter (· != "") with
  | some language =>
    match Language.ofName? (Text.lower (Text.trim language)) with
    | some l => .ok l
    | none => .error (.unsupportedLanguage language)
  | none =>
    match (FilePath.language? path).or fallback with
    | some l => .ok l
    | none => .error (.unknownLanguage (FilePath.fileName path))

/-- The language and the options of an analysis. -/
def analysisOptions (args : AnalyzeArgs) (settings : Settings) : Except UsageError (Language × Analysis.Options) := do
  let language ← resolveLanguage args.language args.refactored settings.defaultLanguage
  let hints ← readHints args.hints
  return (language, {
    hints := hints
    scan := ⟨settings.securityScan && !args.noSecurity, args.quality || settings.qualityScan⟩
    adjustForLanguage := args.adjustLanguage || settings.adjustForLanguage
    path := FilePath.fileName args.refactored })

def runAnalyze (w : World) (args : AnalyzeArgs) : Outcome :=
  match w.text? args.legacy, w.text? args.refactored with
  | some legacy, some refactored =>
    match Settings.load w.config with
    | .error e => .stopping w (.broken e)
    | .ok settings =>
      match analysisOptions args settings with
      | .error e => .stopping w (.usage e)
      | .ok (language, options) =>
        match Analysis.run (α := Float) w.grammar options language.name legacy refactored with
        | .error e => if e.isExpected then .failing w e.message else .stopping w (.defect e)
        | .ok result =>
          if args.json then .printing w (Report.withNextSteps result).renderIndented
          else .showing w (Display.ofResult result language)
  | _, _ => .stopping w (.usage .malformed)

def runConfigShow (w : World) : Outcome :=
  match Settings.load w.config with
  | .error e => .stopping w (.broken e)
  | .ok settings => .showing w [.settings w.configPath settings]

def runConfigSet (w : World) (key value : String) : Outcome :=
  match Settings.save w.config key (some (.str value)) with
  | (_, .error (.invalid e)) => .failing w e.message
  | (config, .error e) => .stopping { w with config := config } (.broken e)
  | (_, .ok false) => .failing w s!"Could not write {w.configPath}"
  | (config, .ok true) =>
    let w := { w with config := config }
    match Settings.load config with
    | .error e => .stopping w (.broken e)
    | .ok settings =>
      let shown := (settings.shown.lookup key).getD ""
      .showing w [.done s!"{key} = {shown}"]

def runConfigReset (w : World) : Outcome :=
  match Settings.reset w.config with
  | (config, .error e) => .stopping { w with config := config } (.broken e)
  | (_, .ok false) => .failing w s!"Could not write {w.configPath}"
  | (config, .ok true) => .showing { w with config := config } [.done "Analysis defaults restored"]

def runCommand (w : World) : Command → Outcome
  | .version => .printing w ("RefactorLens v" ++ version)
  | .languages => .showing w [.languages fun l => Grammars.all.supports l.name]
  | .analyze args => runAnalyze w args
  | .configShow => runConfigShow w
  | .configSet key value => runConfigSet w key value
  | .configReset => runConfigReset w

/-- Runs a command line. -/
def run (w : World) (words : List String) : Outcome :=
  match readCommand words with
  | some command => runCommand w command
  | none => .stopping w (.usage .malformed)

end RefactorAudit.Cli
