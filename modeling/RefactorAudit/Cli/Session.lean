import RefactorAudit.Cli.Files
import RefactorAudit.Cli.Run

/-!
# Sessions

Command lines that run one after the other over the same files.
-/

namespace RefactorAudit.Cli

/-- Files that commands share, and where the configuration file is among them. -/
structure Directory where
  configPath : String
  files : Files
  grammar : Grammar

/-- What a command can see, with the configuration at that time. -/
def Directory.world (d : Directory) (config : Settings.Store) : World where
  configPath := d.configPath
  config := config
  read? := (d.files.withConfig d.configPath config).read?
  grammar := d.grammar

/-- Runs command lines in order. Each sees the configuration that the one before it
left. -/
def Directory.runAll (d : Directory) (config : Settings.Store) : List (List String) → List Outcome
  | [] => []
  | words :: rest =>
    let outcome := run (d.world config) words
    outcome :: d.runAll outcome.config rest

end RefactorAudit.Cli
