import RefactorAudit.Report
import RefactorAudit.Settings

/-!
# What the command line shows

Lines, tables and panels with markup, before they are laid out.
-/

namespace RefactorAudit.Cli

inductive Display where
  | line (text : String)
  | table (title : String) (columns : List String) (rows : List (List String))
  | panel (text title : String)
  deriving DecidableEq, Repr

namespace Display

/-- The evidence in a cell: three pieces, and how many more there are. -/
def evidenceCell (evidence : List String) : String :=
  let more := if 3 < evidence.length then [s!"… {evidence.length - 3} more"] else []
  "\n".intercalate (evidence.take 3 ++ more)

def tagRow (t : Tag Float) : List String :=
  [t.technique.name, toString t.level.val, Decimal.percent t.confidence, evidenceCell t.evidence]

def severityStyle : Risk.Severity → String
  | .low => "dim"
  | .medium => "yellow"
  | .high => "red"
  | .critical => "bold red"

def flagRow (f : Risk.Flag) : List String :=
  let style := severityStyle f.severity
  [f.kind.name, s!"[{style}]{f.severity.name}[/{style}]", f.description, f.suggestion]

def fileLine (f : FileChange) : String :=
  s!"[bold]{f.path}[/bold]: {f.summary} ([green]+{f.linesAdded}[/green] [red]-{f.linesRemoved}[/red] lines, " ++
    s!"impact {f.impact})"

def headline (r : Analysis.Result Float) (language : Language) : Display :=
  .panel
    (s!"[bold]Score:[/bold] {r.score}/100   [bold]Level:[/bold] {r.level.val} ({r.level.name})   " ++
      s!"[bold]Language:[/bold] {language.name}\n{r.summary}\n[dim]{r.metrics.description}[/dim]")
    "RefactorLens"

/-- The result of an analysis. -/
def ofResult (r : Analysis.Result Float) (language : Language) : List Display :=
  let steps := Analysis.nextSteps r.tags r.flags
  [headline r language] ++
  (if r.tags.isEmpty then []
    else [.table "Refactor Types" ["Type", "Level", "Confidence", "Evidence"] (r.tags.map tagRow)]) ++
  r.files.map (.line <| fileLine ·) ++
  (if r.flags.isEmpty then [.line "[green]✓[/green] No risk flags"]
    else [.table "Risk Flags" ["Kind", "Severity", "Description", "Suggestion"] (r.flags.map flagRow)]) ++
  (if steps.isEmpty then []
    else .line "\n[bold]Suggested next steps[/bold]" :: steps.map fun s => .line s!"  • {s}")

/-- The supported languages. -/
def languages (installed : Language → Bool) : Display :=
  .table "Supported Languages" ["Language", "Extensions", "Grammar"] <| Language.all.map fun l =>
    [l.name, ", ".intercalate l.extensions, if installed l then "[green]installed[/green]" else "[red]missing[/red]"]

/-- The settings in the file at the path. -/
def settings (path : String) (s : Settings) : Display :=
  .table s!"Analysis defaults ({path})" ["Key", "Value"] <| s.shown.map fun e =>
    [e.1, if e.2 == "" then "[dim](not set)[/dim]" else e.2]

def done (text : String) : Display := .line ("[green]✓[/green] " ++ text)

def failed (text : String) : Display := .line ("[red]✗[/red] " ++ text)

end Display

end RefactorAudit.Cli
