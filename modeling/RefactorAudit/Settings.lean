import RefactorAudit.Syntax.Language
import RefactorAudit.Text.Lines
import RefactorAudit.Toml.Reader

/-!
# Settings

The defaults of an analysis, kept in the `analysis` table of a configuration file.
Loading takes the settings that are valid and ignores the others; saving one keeps
all else that the file holds.
-/

namespace RefactorAudit

structure Settings where
  securityScan : Bool
  qualityScan : Bool
  adjustForLanguage : Bool
  defaultLanguage : Option Language
  deriving DecidableEq, Repr

/-- A value for one setting. -/
inductive Setting where
  | securityScan (on : Bool)
  | qualityScan (on : Bool)
  | adjustForLanguage (on : Bool)
  | defaultLanguage (language : Option Language)
  deriving DecidableEq, Repr

/-- A value as it is given: possibly none at all. -/
abbrev RawSetting := Option Toml.Value

/-- Why a value cannot be used. -/
inductive SettingError where
  | unknownKey (key : String)
  | notBoolean (key got : String)
  | unsupportedLanguage (got : String)
  deriving DecidableEq, Repr

namespace Settings

def standard : Settings := ⟨true, false, false, none⟩

def boolText (b : Bool) : String := if b then "True" else "False"

def languageText (l : Option Language) : String := (l.map Language.name).getD ""

/-- Keys and values, as they are shown. -/
def shown (s : Settings) : List (String × String) :=
  [("include_security_scan", boolText s.securityScan), ("include_quality_scan", boolText s.qualityScan),
    ("adjust_for_language", boolText s.adjustForLanguage), ("default_language", languageText s.defaultLanguage)]

def apply (s : Settings) : Setting → Settings
  | .securityScan on => { s with securityScan := on }
  | .qualityScan on => { s with qualityScan := on }
  | .adjustForLanguage on => { s with adjustForLanguage := on }
  | .defaultLanguage l => { s with defaultLanguage := l }

end Settings

def SettingError.message : SettingError → String
  | .unknownKey key =>
    s!"Unknown setting '{key}'. Valid settings: " ++
      "adjust_for_language, default_language, include_quality_scan, include_security_scan"
  | .notBoolean key got => s!"Setting '{key}' expects a boolean, got '{got}'"
  | .unsupportedLanguage got => s!"Unsupported language '{got}'. Supported: {Language.allNames}"

namespace RawSetting

def text : RawSetting → String
  | none => "None"
  | some (.bool b) => Settings.boolText b
  | some (.int n) => toString n
  | some (.float x) => Decimal.shortest x
  | some (.str s) => s

/-- The text that is compared: white space around it and letter case do not count. -/
def normalized (r : RawSetting) : String := Text.lower (Text.trim (text r))

def bool? (r : RawSetting) : Option Bool :=
  match r with
  | some (.bool b) => some b
  | _ =>
    if ["1", "true", "yes", "on"].contains (normalized r) then some true
    else if ["0", "false", "no", "off"].contains (normalized r) then some false
    else none

end RawSetting

namespace Setting

/-- A truth value for the setting of a key. -/
def ofBool (make : Bool → Setting) (key : String) (r : RawSetting) : Except SettingError Setting :=
  match RawSetting.bool? r with
  | some b => .ok (make b)
  | none => .error (.notBoolean key (RawSetting.text r))

def ofLanguage (r : RawSetting) : Except SettingError Setting :=
  let text := RawSetting.normalized r
  if text == "" then .ok (.defaultLanguage none)
  else
    match Language.ofName? text with
    | some l => .ok (.defaultLanguage (some l))
    | none => .error (.unsupportedLanguage (RawSetting.text r))

/-- The setting that a key and a value mean. -/
def ofRaw (key : String) (r : RawSetting) : Except SettingError Setting :=
  match key with
  | "include_security_scan" => ofBool .securityScan key r
  | "include_quality_scan" => ofBool .qualityScan key r
  | "adjust_for_language" => ofBool .adjustForLanguage key r
  | "default_language" => ofLanguage r
  | _ => .error (.unknownKey key)

/-- The value that is kept in the file. -/
def stored : Setting → Toml.Value
  | .securityScan on | .qualityScan on | .adjustForLanguage on => .bool on
  | .defaultLanguage l => .str (Settings.languageText l)

end Setting

namespace Settings

/-! ## The configuration file -/

/-- The file, if there can be one. -/
inductive Store where
  | absent
  | file (text : String)
  /-- Nothing can be read or written. -/
  | blocked
  deriving DecidableEq, Repr

namespace Store

/-- The file with a text; all its line breaks are line feeds. -/
def ofText (text : String) : Store := .file (Text.unifyNewlines text)

def text? : Store → Option String
  | .file text => some text
  | _ => none

end Store

/-- How documents with values `ν` are kept in a file. All that counts of a value is what
it gives for a setting, and its kind. -/
structure Format (ν : Type) where
  /-- The value, as it is given for a setting. -/
  given : ν → RawSetting
  kind : ν → String
  /-- The value that keeps a setting. -/
  keep : Setting → ν
  given_keep : ∀ x, given (keep x) = some x.stored
  read? : String → Option (Toml.DocumentOf ν)
  render? : Toml.DocumentOf ν → Option String

/-- Why settings cannot be loaded or saved. -/
inductive Failure where
  | invalid (e : SettingError)
  /-- The `analysis` entry is a value of this kind, and has no settings to read. -/
  | notReadable (kind : String)
  /-- The `analysis` entry is a value of this kind, and takes no settings. -/
  | notWritable (kind : String)
  /-- A text in the file has no written form. -/
  | notRenderable

def Failure.message : Failure → String
  | .invalid e => e.message
  | .notReadable kind => s!"'{kind}' object has no attribute 'items'"
  | .notWritable kind => s!"'{kind}' object does not support item assignment"
  | .notRenderable => "list index out of range"

def sectionName : String := "analysis"

namespace Format

variable {ν : Type} (f : Format ν)

/-- What the file holds. A file that is not well formed holds nothing. -/
def document (s : Store) : Toml.DocumentOf ν := (s.text?.bind f.read?).getD .empty

/-- The file after writing the document, and whether it could be written. A document
that cannot be rendered leaves the file empty. -/
def write (s : Store) (d : Toml.DocumentOf ν) : Store × Except Failure Bool :=
  match s, f.render? d with
  | .blocked, _ => (.blocked, .ok false)
  | _, some text => (.file text, .ok true)
  | _, none => (.file "", .error .notRenderable)

/-- Applies the entries of the table that are valid settings, in order. -/
def ofTable (t : Table String ν) : Settings :=
  t.entries.foldl (fun s e =>
    match Setting.ofRaw e.1 (f.given e.2) with
    | .ok setting => s.apply setting
    | .error _ => s) standard

def ofDocument (d : Toml.DocumentOf ν) : Except Failure Settings :=
  match d.get? sectionName with
  | none => .ok standard
  | some (.table t) => .ok (f.ofTable t)
  | some (.value v) => .error (.notReadable (f.kind v))

def load (s : Store) : Except Failure Settings := f.ofDocument (f.document s)

/-- The document with one setting changed. -/
def update (d : Toml.DocumentOf ν) (key : String) (setting : Setting) : Except Failure (Toml.DocumentOf ν) :=
  match d.get? sectionName with
  | none => .ok (d.set sectionName (.table (Table.empty.set key (f.keep setting))))
  | some (.table t) => .ok (d.set sectionName (.table (t.set key (f.keep setting))))
  | some (.value v) => .error (.notWritable (f.kind v))

/-- Saves one setting: the file after it, and whether it could be written. -/
def save (s : Store) (key : String) (r : RawSetting) : Store × Except Failure Bool :=
  match Setting.ofRaw key r with
  | .error e => (s, .error (.invalid e))
  | .ok setting =>
    match f.update (f.document s) key setting with
    | .error e => (s, .error e)
    | .ok d => f.write s d

/-- Drops all settings. A file without settings is left alone. -/
def reset (s : Store) : Store × Except Failure Bool :=
  let d := f.document s
  if d.contains sectionName then f.write s (d.erase sectionName) else (s, .ok true)

end Format

/-! ## The format of the configuration file -/

/-- What kind of value it is. -/
def kindOf : Toml.Value → String
  | .bool _ => "bool"
  | .int _ => "int"
  | .float _ => "float"
  | .str _ => "str"

def Format.toml : Format Toml.Value where
  given := some
  kind := kindOf
  keep := Setting.stored
  given_keep _ := rfl
  read? := Toml.read?
  render? := Toml.render?

def Store.document (s : Store) : Toml.Document := Format.toml.document s

def load (s : Store) : Except Failure Settings := Format.toml.load s

def save (s : Store) (key : String) (r : RawSetting) : Store × Except Failure Bool := Format.toml.save s key r

def reset (s : Store) : Store × Except Failure Bool := Format.toml.reset s

end Settings

end RefactorAudit
