import RefactorAudit.Decimal.Reader

/-!
# Command lines

The commands, and the reading of a command line. Options and arguments of a command
may be mixed; after `--` there are only arguments. An option takes its value from
after `=` or from the next word, and the last value counts where it is given twice.
-/

namespace RefactorAudit.Cli

/-- What to compare, and how. -/
structure AnalyzeArgs where
  legacy : String
  refactored : String
  language : Option String
  hints : List String
  noSecurity : Bool
  quality : Bool
  adjustLanguage : Bool
  json : Bool

inductive Command where
  | version
  | languages
  | analyze (args : AnalyzeArgs)
  | configShow
  | configSet (key value : String)
  | configReset

/-- Why a command line is refused. -/
inductive UsageError where
  /-- It is no command line of the program. -/
  | malformed
  | badHint (hint : String)
  | unsupportedLanguage (language : String)
  | unknownLanguage (file : String)
  deriving DecidableEq, Repr

/-! ## Words -/

/-- An option of a command: its name, the name's short form, and whether it takes a
value. -/
structure OptionSpec where
  name : String
  short : Option Char
  takesValue : Bool

/-- Arguments in order, and options with their values in order. -/
structure Words where
  arguments : List String
  options : List (String × String)

namespace Words

def addArgument (w : Words) (a : String) : Words := { w with arguments := w.arguments ++ [a] }

def addOption (w : Words) (name value : String) : Words := { w with options := w.options ++ [(name, value)] }

def has (w : Words) (name : String) : Bool := w.options.any (·.1 == name)

def values (w : Words) (name : String) : List String := (w.options.filter (·.1 == name)).map Prod.snd

/-- The last value of an option. -/
def value? (w : Words) (name : String) : Option String := (w.values name).getLast?

end Words

/-- The flags in a word of short options, and the option at its end that takes a
value, with the value if it stands in the word. -/
def shortOptions? (specs : List OptionSpec) : List Char → Option (List String × Option (String × Option String))
  | [] => some ([], none)
  | c :: rest =>
    match specs.find? (·.short == some c) with
    | none => none
    | some spec =>
      if spec.takesValue then
        some ([], some (spec.name, if rest.isEmpty then none else some (String.ofList rest)))
      else (shortOptions? specs rest).map fun (flags, last) => (spec.name :: flags, last)

/-- Reads an option word: the flags in it, and an option that takes a value. -/
def optionWord? (specs : List OptionSpec) (word : String) : Option (List String × Option (String × Option String)) :=
  let cs := word.toList
  let name := String.ofList (cs.takeWhile (· != '='))
  let value := match cs.dropWhile (· != '=') with
    | [] => none
    | _ :: rest => some (String.ofList rest)
  match specs.find? (·.name == name) with
  | some spec =>
    if spec.takesValue then some ([], some (name, value))
    else if value.isSome then none
    else some ([name], none)
  | none => if "--".toList.isPrefixOf cs then none else shortOptions? specs (cs.drop 1)

def isOptionWord (word : String) : Bool := "-".toList.isPrefixOf word.toList && word != "-"

/-- Reads the words of a command. -/
def readWords (specs : List OptionSpec) (done : Words) : List String → Option Words
  | [] => some done
  | word :: rest =>
    if word == "--" then some { done with arguments := done.arguments ++ rest }
    else if isOptionWord word then
      match optionWord? specs word with
      | none => none
      | some (flags, last) =>
        let done := flags.foldl (fun w flag => w.addOption flag "") done
        match last, rest with
        | none, rest => readWords specs done rest
        | some (name, some value), rest => readWords specs (done.addOption name value) rest
        | some (name, none), value :: rest => readWords specs (done.addOption name value) rest
        | some (_, none), [] => none
    else readWords specs (done.addArgument word) rest

/-! ## Commands -/

def analyzeOptions : List OptionSpec :=
  [⟨"--language", some 'l', true⟩, ⟨"--hint", none, true⟩, ⟨"--timeout", none, true⟩,
    ⟨"--no-security", none, false⟩, ⟨"--quality", none, false⟩, ⟨"--adjust-language", none, false⟩,
    ⟨"--json", none, false⟩, ⟨"--verbose", none, false⟩]

/-- A time limit is a number, and not below a tenth of a second. -/
def isTimeLimit (s : String) : Bool :=
  match Decimal.ofText? s with
  | some x => !(x < 0.1)
  | none => false

def readAnalyze (words : List String) : Option Command := do
  let w ← readWords analyzeOptions ⟨[], []⟩ words
  match w.arguments with
  | [legacy, refactored] =>
    if (w.value? "--timeout").all isTimeLimit then
      some (.analyze {
        legacy := legacy
        refactored := refactored
        language := w.value? "--language"
        hints := w.values "--hint"
        noSecurity := w.has "--no-security"
        quality := w.has "--quality"
        adjustLanguage := w.has "--adjust-language"
        json := w.has "--json" })
    else none
  | _ => none

/-- The arguments of a command without options. -/
def readArguments (words : List String) : Option (List String) := (readWords [] ⟨[], []⟩ words).map (·.arguments)

/-- The words from the name of a command on: `--` in front of it says nothing. -/
def fromName : List String → List String
  | "--" :: rest => rest
  | words => words

/-- A command without arguments. -/
def readBare (command : Command) (words : List String) : Option Command := do
  if (← readArguments words).isEmpty then some command else none

def readConfig (words : List String) : Option Command :=
  match fromName words with
  | "show" :: rest => readBare .configShow rest
  | "reset" :: rest => readBare .configReset rest
  | "set" :: rest =>
    match readArguments rest with
    | some [key, value] => some (.configSet key value)
    | _ => none
  | _ => none

def readNamed : List String → Option Command
  | "analyze" :: rest => readAnalyze rest
  | "languages" :: rest => readBare .languages rest
  | "config" :: rest => readConfig rest
  | _ => none

/-- A word that asks for the version. -/
def isVersionWord (word : String) : Bool :=
  word == "--version" || ("-V".toList.isPrefixOf word.toList && word.toList.tail.all (· == 'V'))

/-- The words in front of a command's name: whether they ask for the version, and
the words from the name on. -/
def readFront (words : List String) : Option (Bool × List String) :=
  let rest := words.dropWhile isVersionWord
  let asked := rest.length < words.length
  match rest with
  | "--" :: rest => some (asked, rest)
  | word :: rest => if isOptionWord word then none else some (asked, word :: rest)
  | [] => some (asked, [])

/-- The version, if it is asked for in front of a command. -/
def readVersion (words : List String) : Option Command :=
  match readFront words with
  | some (true, _) => some .version
  | _ => none

/-- The command that a command line gives. The version can be asked for in front of
any command, and once more in place of its name. -/
def readCommand (words : List String) : Option Command :=
  match readFront words with
  | none => none
  | some (true, _) => some .version
  | some (false, rest) => if rest.head?.any isOptionWord then readVersion rest else readNamed rest

end RefactorAudit.Cli
