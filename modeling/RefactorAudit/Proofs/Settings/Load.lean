import RefactorAudit.Proofs.Syntax.Faults
import RefactorAudit.Proofs.Table
import RefactorAudit.Settings

/-!
# What is loaded

Settings are read by key: each of the four keys has the value that the document gives
it, if that is a valid one, and else its default (`get?_ofTable`). A setting that was
stored is read back as it was (`ofRaw_stored`). Loading fails exactly if the
`analysis` entry is a value and no table.
-/

namespace RefactorAudit

/-! ## Settings by key -/

namespace Setting

/-- The key under which a setting is kept. -/
def key : Setting → String
  | .securityScan _ => "include_security_scan"
  | .qualityScan _ => "include_quality_scan"
  | .adjustForLanguage _ => "adjust_for_language"
  | .defaultLanguage _ => "default_language"

theorem exists_of_ofBool {make : Bool → Setting} {k : String} {r : RawSetting} {x : Setting}
    (h : ofBool make k r = .ok x) : ∃ b, x = make b := by
  unfold ofBool at h
  split at h
  · next b _ =>
    cases h
    exact ⟨b, rfl⟩
  · cases h

theorem exists_of_ofLanguage {r : RawSetting} {x : Setting} (h : ofLanguage r = .ok x) :
    ∃ l, x = .defaultLanguage l := by
  unfold ofLanguage at h
  simp only at h
  split at h
  · cases h
    exact ⟨none, rfl⟩
  · split at h
    · next l _ =>
      cases h
      exact ⟨some l, rfl⟩
    · cases h

/-- A value for a key is a setting of this key. -/
theorem key_of_ofRaw {k : String} {r : RawSetting} {x : Setting} (h : ofRaw k r = .ok x) : x.key = k := by
  unfold ofRaw at h
  split at h
  · obtain ⟨b, rfl⟩ := exists_of_ofBool h
    rfl
  · obtain ⟨b, rfl⟩ := exists_of_ofBool h
    rfl
  · obtain ⟨b, rfl⟩ := exists_of_ofBool h
    rfl
  · obtain ⟨l, rfl⟩ := exists_of_ofLanguage h
    rfl
  · cases h

theorem normalized_name (l : Language) : RawSetting.normalized (some (.str l.name)) = l.name := by
  cases l <;> decide +kernel

theorem normalized_empty : RawSetting.normalized (some (.str "")) = "" := by
  decide +kernel

/-- What is stored for a setting means this setting. -/
theorem ofRaw_stored (x : Setting) : ofRaw x.key (some x.stored) = .ok x := by
  cases x with
  | securityScan on => rfl
  | qualityScan on => rfl
  | adjustForLanguage on => rfl
  | defaultLanguage l =>
    cases l with
    | none =>
      change ofLanguage (some (.str "")) = _
      rw [ofLanguage, normalized_empty]
      rfl
    | some l =>
      change ofLanguage (some (.str l.name)) = _
      have hne : (l.name == "") = false := by cases l <;> decide
      simp only [ofLanguage, normalized_name, hne, Bool.false_eq_true, if_false, Language.ofName?_name]

end Setting

namespace Settings

/-- All settings with their keys. -/
def entries (s : Settings) : List (String × Setting) :=
  [.securityScan s.securityScan, .qualityScan s.qualityScan, .adjustForLanguage s.adjustForLanguage,
    .defaultLanguage s.defaultLanguage].map fun x => (x.key, x)

/-- The setting of a key, if there is such a setting. -/
def get? (s : Settings) (key : String) : Option Setting := s.entries.lookup key

theorem get?_apply (s : Settings) (x : Setting) (key : String) :
    (s.apply x).get? key = if key = x.key then some x else s.get? key := by
  cases x <;> simp only [get?, entries, apply, List.map_cons, List.map_nil, Table.lookup_cons, Setting.key] <;> grind

namespace Format

variable {ν : Type} (f : Format ν)

/-- The setting that a value means for a key, if it is valid. -/
def valid? (key : String) (v : ν) : Option Setting := (Setting.ofRaw key (f.given v)).toOption

theorem valid?_keep (x : Setting) : f.valid? x.key (f.keep x) = some x := by
  rw [valid?, f.given_keep, Setting.ofRaw_stored]
  rfl

/-- The settings with one entry of a table applied. -/
def applyEntry (s : Settings) (e : String × ν) : Settings :=
  match Setting.ofRaw e.1 (f.given e.2) with
  | .ok setting => s.apply setting
  | .error _ => s

theorem get?_applyEntry (s : Settings) (e : String × ν) (key : String) :
    (f.applyEntry s e).get? key = if key = e.1 then (f.valid? key e.2).or (s.get? key) else s.get? key := by
  unfold applyEntry valid?
  cases hraw : Setting.ofRaw e.1 (f.given e.2) with
  | ok x =>
    change (s.apply x).get? key = _
    rw [get?_apply, Setting.key_of_ofRaw hraw]
    split
    · next hkey =>
      rw [hkey, hraw]
      rfl
    · rfl
  | error err =>
    change s.get? key = _
    split
    · next hkey =>
      rw [hkey, hraw]
      rfl
    · rfl

/-- Entries with different keys do not get in each other's way. -/
theorem get?_foldl_applyEntry {es : List (String × ν)} (hnodup : (es.map Prod.fst).Nodup) (s : Settings) (key : String) :
    (es.foldl f.applyEntry s).get? key = ((es.lookup key).bind (f.valid? key)).or (s.get? key) := by
  induction es generalizing s with
  | nil => rfl
  | cons e es ih =>
    obtain ⟨k, v⟩ := e
    rw [List.map_cons, List.nodup_cons] at hnodup
    rw [List.foldl_cons, ih hnodup.2, get?_applyEntry, Table.lookup_cons]
    by_cases hkey : key = k
    · subst hkey
      rw [if_pos rfl, if_pos rfl, Table.lookup_eq_none hnodup.1]
      rfl
    · rw [if_neg hkey, if_neg hkey]

theorem get?_ofTable (t : Table String ν) (key : String) :
    (f.ofTable t).get? key = ((t.get? key).bind (f.valid? key)).or (standard.get? key) :=
  f.get?_foldl_applyEntry t.keys_nodup standard key

/-! ## Loading -/

/-- The value that a document holds for a setting. -/
def settingIn? (d : Toml.DocumentOf ν) (key : String) : Option ν :=
  match d.get? sectionName with
  | some (.table t) => t.get? key
  | _ => none

theorem document_of_read {text : String} {d : Toml.DocumentOf ν} (h : f.read? text = some d) :
    f.document (.file text) = d := by
  rw [document, Store.text?, Option.bind_some, h, Option.getD_some]

theorem load_of_value {s : Store} {v : ν} (h : (f.document s).get? sectionName = some (.value v)) :
    f.load s = .error (.notReadable (f.kind v)) := by
  rw [load, ofDocument, h]

theorem exists_load {s : Store} (h : ∀ v, (f.document s).get? sectionName ≠ some (.value v)) :
    ∃ settings, f.load s = .ok settings ∧
      ∀ key, settings.get? key = ((settingIn? (f.document s) key).bind (f.valid? key)).or (standard.get? key) := by
  unfold load ofDocument settingIn?
  cases hentry : (f.document s).get? sectionName with
  | none => exact ⟨standard, rfl, fun _ => rfl⟩
  | some entry =>
    cases entry with
    | value v => exact absurd hentry (h v)
    | table t => exact ⟨f.ofTable t, rfl, f.get?_ofTable t⟩

/-- Only an `analysis` entry that is a value makes loading fail. Else there is a setting
for each of the four keys: the value in the file, if it is valid, or the default. -/
theorem load_fails_iff_section_is_value (s : Store) :
    (∀ e, f.load s = .error e ↔ ∃ v, (f.document s).get? sectionName = some (.value v) ∧ e = .notReadable (f.kind v)) ∧
      ((∀ v, (f.document s).get? sectionName ≠ some (.value v)) → ∃ settings, f.load s = .ok settings ∧
        settings.entries.map Prod.fst =
          ["include_security_scan", "include_quality_scan", "adjust_for_language", "default_language"] ∧
        ∀ key, settings.get? key =
          ((settingIn? (f.document s) key).bind (f.valid? key)).or (standard.get? key)) := by
  refine ⟨fun e => ⟨fun herror => ?_, ?_⟩, fun h => ?_⟩
  · apply Classical.byContradiction
    intro hnone
    have hentry (v : ν) : (f.document s).get? sectionName ≠ some (.value v) := by
      intro hv
      have hload := f.load_of_value hv
      rw [herror] at hload
      exact hnone ⟨v, hv, Except.error.inj hload⟩
    obtain ⟨settings, hload, -⟩ := f.exists_load hentry
    rw [herror] at hload
    cases hload
  · rintro ⟨v, hv, rfl⟩
    exact f.load_of_value hv
  · obtain ⟨settings, hload, hget⟩ := f.exists_load h
    exact ⟨settings, hload, rfl, hget⟩

end Format

/-- A number for a truth value is valid, and an unknown language gives way to the default. -/
theorem load_fails_iff_section_is_value_mixed :
    ∃ settings,
      Format.toml.load (.file "[analysis]\ninclude_quality_scan = 1\ndefault_language = \"cobol\"\n") = .ok settings ∧
        settings.get? "include_quality_scan" = some (.qualityScan true) ∧
        settings.get? "default_language" = some (.defaultLanguage none) ∧
        settings.get? "colour" = none := by
  have hread : Toml.read? "[analysis]\ninclude_quality_scan = 1\ndefault_language = \"cobol\"\n" =
      some (Table.empty.set sectionName
        (.table ((Table.empty.set "include_quality_scan" (.int 1)).set "default_language" (.str "cobol")))) := by
    rfl
  have hdocument := Format.toml.document_of_read hread
  obtain ⟨settings, hload, -, hget⟩ := (Format.toml.load_fails_iff_section_is_value _).2 fun v => by
    rw [hdocument]
    exact fun h => nomatch h
  simp only [hdocument] at hget
  exact ⟨settings, hload, (hget _).trans rfl, (hget _).trans rfl, (hget _).trans rfl⟩

/-- A file that is well formed, and that cannot be loaded. -/
theorem load_of_number_as_section :
    (Toml.read? "analysis = 5\n").isSome ∧ load (.file "analysis = 5\n") = .error (.notReadable "int") := by
  refine ⟨by decide +kernel, ?_⟩
  rfl

end Settings

end RefactorAudit
