import RefactorAudit.Cli.Run
import RefactorAudit.Proofs.Analysis
import RefactorAudit.Proofs.Settings.Load

/-!
# Which languages reach an analysis

The language of an analysis is asked for by name, or else it is that of the file's
extension, or else the default of the settings (`Resolves`). Each of these names a known
language or none at all, so what is not known is refused before any analysis starts
(`resolveLanguage_cases`), and no command complains that the analysis does not
support a language (`complains_run`).
-/

namespace RefactorAudit

namespace Language

theorem mem_all (l : Language) : l ∈ all := by
  cases l <;> decide

theorem ofName?_eq_some_iff (s : String) (l : Language) : ofName? s = some l ↔ s = l.name := by
  constructor
  · intro h
    unfold ofName? at h
    have hname := List.find?_some h
    simp only [beq_iff_eq] at hname
    exact hname.symm
  · rintro rfl
    exact ofName?_name l

/-- No extension belongs to two languages. -/
theorem eq_of_mem_extensions {l l' : Language} {ext : String} (h : ext ∈ l.extensions) (h' : ext ∈ l'.extensions) :
    l = l' := by
  have hdisjoint : ∀ l ∈ all, ∀ l' ∈ all, ∀ ext ∈ l.extensions, ext ∈ l'.extensions → l = l' := by decide
  exact hdisjoint l (mem_all l) l' (mem_all l') ext h h'

theorem ofExtension?_eq_none_iff (ext : String) : ofExtension? ext = none ↔ ∀ l, Text.lower ext ∉ extensions l := by
  unfold ofExtension?
  simp [List.find?_eq_none, mem_all]

theorem ofExtension?_eq_some_iff (ext : String) (l : Language) :
    ofExtension? ext = some l ↔ Text.lower ext ∈ l.extensions := by
  have hsound : ∀ l', ofExtension? ext = some l' → Text.lower ext ∈ l'.extensions := by
    intro l' h
    unfold ofExtension? at h
    simpa using List.find?_some h
  refine ⟨hsound l, fun h => ?_⟩
  cases hfound : ofExtension? ext with
  | none => exact absurd h ((ofExtension?_eq_none_iff ext).1 hfound l)
  | some l' => rw [eq_of_mem_extensions (hsound l' hfound) h]

end Language

/-! ## The default of the settings -/

namespace Settings

theorem languageText_mem (l : Option Language) : languageText l ∈ "" :: Language.all.map Language.name := by
  cases l with
  | none => exact List.mem_cons_self
  | some l => exact List.mem_cons_of_mem _ (List.mem_map_of_mem (Language.mem_all l))

end Settings

theorem Setting.ofLanguage_eq_ok_some_iff (r : RawSetting) (l : Language) :
    ofLanguage r = .ok (.defaultLanguage (some l)) ↔ RawSetting.normalized r = l.name := by
  have hname : l.name ≠ "" := by cases l <;> decide
  unfold ofLanguage
  simp only [beq_iff_eq]
  split
  · next hempty => simp [hempty, hname.symm]
  · cases hknown : Language.ofName? (RawSetting.normalized r) with
    | none =>
      have hunknown : RawSetting.normalized r ≠ l.name := by
        intro h
        rw [(Language.ofName?_eq_some_iff _ l).2 h] at hknown
        cases hknown
      simp [hunknown]
    | some l' =>
      rw [(Language.ofName?_eq_some_iff _ l').1 hknown]
      -- languages differ in their names, as each is found by its own
      have hinj : l'.name = l.name ↔ l' = l := by
        rw [← Language.ofName?_eq_some_iff, Language.ofName?_name, Option.some.injEq]
      simp [hinj]

namespace Settings.Format

variable {ν : Type} (f : Format ν)

/-- The truth value that a document gives for a setting. -/
def boolIn? (d : Toml.DocumentOf ν) (key : String) : Option Bool :=
  (settingIn? d key).bind fun v => RawSetting.bool? (f.given v)

/-- The settings that a document gives: a truth value that it does not give is the
default, and there is a default language exactly if it gives the name of one, whatever
white space stands around it and in whatever letter case. -/
structure Gives (d : Toml.DocumentOf ν) (s : Settings) : Prop where
  securityScan : s.securityScan = (f.boolIn? d "include_security_scan").getD true
  qualityScan : s.qualityScan = (f.boolIn? d "include_quality_scan").getD false
  adjustForLanguage : s.adjustForLanguage = (f.boolIn? d "adjust_for_language").getD false
  defaultLanguage (l : Language) : s.defaultLanguage = some l ↔
    ∃ v, settingIn? d "default_language" = some v ∧ RawSetting.normalized (f.given v) = l.name

variable {d : Toml.DocumentOf ν}

theorem bool_eq_of_get? {make : Bool → Setting} {key : String} {on standardOn : Bool}
    (hmake : ∀ a b, make a = make b → a = b) (hraw : ∀ r, Setting.ofRaw key r = Setting.ofBool make key r)
    (h : some (make on) = ((settingIn? d key).bind (f.valid? key)).or (some (make standardOn))) :
    on = (f.boolIn? d key).getD standardOn := by
  apply hmake
  apply Option.some.inj
  rw [h, boolIn?]
  cases settingIn? d key with
  | none => rfl
  | some v =>
    rw [Option.bind_some, Option.bind_some, valid?, hraw, Setting.ofBool]
    cases RawSetting.bool? (f.given v) <;> rfl

theorem language_eq_some_iff_of_get? {language : Option Language}
    (h : some (.defaultLanguage language) =
      ((settingIn? d "default_language").bind (f.valid? "default_language")).or (some (.defaultLanguage none)))
    (l : Language) :
    language = some l ↔
      ∃ v, settingIn? d "default_language" = some v ∧ RawSetting.normalized (f.given v) = l.name := by
  cases hin : settingIn? d "default_language" with
  | none =>
    rw [hin] at h
    cases h
    simp
  | some v =>
    rw [hin, Option.bind_some] at h
    have hraw : f.valid? "default_language" v = (Setting.ofLanguage (f.given v)).toOption := rfl
    rw [hraw] at h
    simp only [Option.some.injEq, exists_eq_left', ← Setting.ofLanguage_eq_ok_some_iff]
    cases hlanguage : Setting.ofLanguage (f.given v) with
    | error e =>
      rw [hlanguage] at h
      cases h
      simp
    | ok x =>
      rw [hlanguage] at h
      cases h
      simp

theorem gives_of_get? {s : Settings}
    (hget : ∀ key, s.get? key = ((settingIn? d key).bind (f.valid? key)).or (standard.get? key)) : f.Gives d s where
  securityScan := f.bool_eq_of_get? (fun _ _ => Setting.securityScan.inj) (fun _ => rfl) (hget "include_security_scan")
  qualityScan := f.bool_eq_of_get? (fun _ _ => Setting.qualityScan.inj) (fun _ => rfl) (hget "include_quality_scan")
  adjustForLanguage :=
    f.bool_eq_of_get? (fun _ _ => Setting.adjustForLanguage.inj) (fun _ => rfl) (hget "adjust_for_language")
  defaultLanguage := f.language_eq_some_iff_of_get? (hget "default_language")

end Settings.Format

/-! ## What an analysis complains about -/

namespace Analysis

variable {α : Type} [Scalar α] [HasExp α]

/-- What fails after parsing is a fault of the analysis itself. -/
theorem not_isExpected_of_compare {options : Options} {l : Language} {legacy refactored : SyntaxTree} {e : Failure α}
    (h : compare options l legacy refactored = .error e) : e.isExpected = false := by
  simp only [compare, Chains.bind_eq_error_iff, Chains.mapError_eq_error_iff] at h
  rcases h with ⟨_, _, rfl⟩ | ⟨_, _, ⟨_, _, rfl⟩ | ⟨_, _, ⟨_, _, rfl⟩ | ⟨_, _, ⟨_, _, rfl⟩ | ⟨_, _, h⟩⟩⟩⟩
  · rfl
  · rfl
  · rfl
  · rfl
  · cases h

/-- All that can be wrong with sources in a known language is a fault of one of them. -/
theorem exists_fault_of_run {grammar : Grammar} {options : Options} {l : Language} {legacy refactored : String}
    {e : Failure α} (h : run grammar options l.name legacy refactored = .error e) (he : e.isExpected = true) :
    ∃ fault, e = .parse (.faulty l.name fault) := by
  rw [run_name] at h
  split at h
  · cases h
    exact ⟨_, rfl⟩
  · split at h
    · cases h
      exact ⟨_, rfl⟩
    · rw [not_isExpected_of_compare h] at he
      cases he

/-- A known language is never refused, whatever numbers the analysis counts in. -/
theorem run_name_supported {grammar : Grammar} {options : Options} {l : Language} {legacy refactored language : String} :
    run (α := α) grammar options l.name legacy refactored ≠ .error (.parse (.unsupported language)) := by
  intro h
  obtain ⟨fault, hfault⟩ := exists_fault_of_run h rfl
  cases hfault

end Analysis

namespace Cli

/-! ## The language of an analysis -/

/-- No language is asked for. -/
def Unasked (asked : Option String) : Prop := asked = none ∨ asked = some ""

/-- The extension of the file, letter case aside. -/
def extensionFor (path : String) : String := Text.lower (FilePath.extensionOf (FilePath.fileName path))

/-- The language that is asked for; else that of the file's extension; else the default. -/
inductive Resolves (asked : Option String) (path : String) (fallback : Option Language) (l : Language) : Prop where
  | named {text : String} (hasked : asked = some text) (hne : text ≠ "")
    (hname : Text.lower (Text.trim text) = l.name)
  | extension (hasked : Unasked asked) (hext : extensionFor path ∈ l.extensions)
  | fallback (hasked : Unasked asked) (hext : ∀ l' : Language, extensionFor path ∉ l'.extensions)
    (hfallback : fallback = some l)

/-- Why no language can be told: the one asked for is not known, or none is asked for
and nothing else tells. -/
inductive Refuses (asked : Option String) (path : String) : UsageError → Prop where
  | unsupported {text : String} (hasked : asked = some text) (hne : text ≠ "") :
    Refuses asked path (.unsupportedLanguage text)
  | unknown (hasked : Unasked asked) : Refuses asked path (.unknownLanguage (FilePath.fileName path))

theorem unasked_or_named (asked : Option String) : Unasked asked ∨ ∃ text, asked = some text ∧ text ≠ "" := by
  cases asked with
  | none => exact .inl (.inl rfl)
  | some text =>
    by_cases hne : text = ""
    · exact .inl (.inr (congrArg some hne))
    · exact .inr ⟨text, rfl, hne⟩

variable {asked : Option String} {path : String} {fallback : Option Language} {l : Language}

theorem resolves_iff_of_named {text : String} (hasked : asked = some text) (hne : text ≠ "") :
    Resolves asked path fallback l ↔ Language.ofName? (Text.lower (Text.trim text)) = some l := by
  rw [Language.ofName?_eq_some_iff]
  refine ⟨?_, .named hasked hne⟩
  have hnot : ¬Unasked asked := by simp [Unasked, hasked, hne]
  rintro (⟨hasked', -, hname⟩ | ⟨hnone, -⟩ | ⟨hnone, -, -⟩)
  · cases hasked.symm.trans hasked'
    exact hname
  · exact absurd hnone hnot
  · exact absurd hnone hnot

theorem resolves_iff_of_unasked (hasked : Unasked asked) :
    Resolves asked path fallback l ↔ (FilePath.language? path).or fallback = some l := by
  rw [Option.or_eq_some_iff, FilePath.language?, Language.ofExtension?_eq_some_iff, Language.ofExtension?_eq_none_iff]
  constructor
  · rintro (⟨hasked', hne, -⟩ | ⟨-, hext⟩ | ⟨-, hext, hfallback⟩)
    · rcases hasked with h | h <;> cases hasked'.symm.trans h
      exact absurd rfl hne
    · exact .inl hext
    · exact .inr ⟨hext, hfallback⟩
  · rintro (hext | ⟨hext, hfallback⟩)
    · exact .extension hasked hext
    · exact .fallback hasked hext hfallback

/-- The language of an analysis is the one that resolves; where none does, the command
line is refused. -/
theorem resolveLanguage_cases (asked : Option String) (path : String) (fallback : Option Language) :
    (∃ l, resolveLanguage asked path fallback = .ok l ∧ Resolves asked path fallback l) ∨
      ∃ e, resolveLanguage asked path fallback = .error e ∧ Refuses asked path e ∧
        ∀ l, ¬Resolves asked path fallback l := by
  unfold resolveLanguage
  rcases unasked_or_named asked with hasked | ⟨text, hasked, hne⟩
  · have hfilter : asked.filter (· != "") = none := by rcases hasked with rfl | rfl <;> rfl
    simp only [hfilter, resolves_iff_of_unasked hasked]
    cases (FilePath.language? path).or fallback with
    | none => exact .inr ⟨_, rfl, .unknown hasked, by simp⟩
    | some l => exact .inl ⟨l, rfl, rfl⟩
  · have hfilter : asked.filter (· != "") = some text := by simp [hasked, Option.filter, hne]
    simp only [hfilter, resolves_iff_of_named hasked hne]
    cases Language.ofName? (Text.lower (Text.trim text)) with
    | none => exact .inr ⟨_, rfl, .unsupported hasked hne, by simp⟩
    | some l => exact .inl ⟨l, rfl, rfl⟩

/-! ## What a command complains about -/

/-- The texts that commands print as errors. -/
inductive Complaint (w : World) : String → Prop where
  | faulty (l : Language) (fault : Concrete.Fault) : Complaint w (ParseError.faulty l.name fault).message
  | setting (e : SettingError) : Complaint w e.message
  | notWritten : Complaint w s!"Could not write {w.configPath}"

/-- The command prints one complaint at most. -/
def Complains (w : World) (o : Outcome) : Prop :=
  o.errors = [] ∨ ∃ text, o.errors = [.failed text] ∧ Complaint w text

theorem complains_failing {w : World} {text : String} (h : Complaint w text) : Complains w (.failing w text) :=
  .inr ⟨text, rfl, h⟩

theorem complains_runAnalyze (w : World) (args : AnalyzeArgs) : Complains w (runAnalyze w args) := by
  unfold runAnalyze
  split
  · split
    · exact .inl rfl
    · split
      · exact .inl rfl
      · next language options _ =>
        split
        · next e hrun =>
          split
          · next hexpected =>
            -- the language is a known one, so all that is reported is a fault of a source
            obtain ⟨fault, rfl⟩ := Analysis.exists_fault_of_run hrun hexpected
            exact complains_failing (.faulty language fault)
          · exact .inl rfl
        · split <;> exact .inl rfl
  · exact .inl rfl

theorem complains_runConfigSet (w : World) (key value : String) : Complains w (runConfigSet w key value) := by
  unfold runConfigSet
  split
  · exact complains_failing (.setting _)
  · exact .inl rfl
  · exact complains_failing .notWritten
  · simp only
    split <;> exact .inl rfl

theorem complains_runConfigReset (w : World) : Complains w (runConfigReset w) := by
  unfold runConfigReset
  split
  · exact .inl rfl
  · exact complains_failing .notWritten
  · exact .inl rfl

theorem complains_run (w : World) (words : List String) : Complains w (run w words) := by
  unfold run
  split
  · next command _ =>
    cases command with
    | version => exact .inl rfl
    | languages => exact .inl rfl
    | analyze args => exact complains_runAnalyze w args
    | configShow =>
      change Complains w (runConfigShow w)
      unfold runConfigShow
      split <;> exact .inl rfl
    | configSet key value => exact complains_runConfigSet w key value
    | configReset => exact complains_runConfigReset w
  · exact .inl rfl

/-- Texts differ if of their openings neither begins the other. -/
theorem ne_of_openings {s t p q : String} (hs : p.toList <+: s.toList) (ht : q.toList <+: t.toList)
    (hpq : ¬p.toList <+: q.toList) (hqp : ¬q.toList <+: p.toList) : s ≠ t := by
  rintro rfl
  rcases List.prefix_or_prefix_of_prefix hs ht with h | h
  · exact hpq h
  · exact hqp h

theorem opening_append {p s : String} (t : String) (h : p.toList <+: s.toList) : p.toList <+: (s ++ t).toList := by
  rw [String.toList_append]
  exact h.trans (List.prefix_append _ _)

/-- What complaints open with. -/
def openings : List String :=
  ["Failed to parse ", "Unknown setting '", "Setting '", "Unsupported language '", "Could not write "]

theorem Complaint.exists_opening {w : World} {text : String} (h : Complaint w text) :
    ∃ p ∈ openings, p.toList <+: text.toList := by
  -- a message joins texts, and opens with the first of them
  cases h with
  | faulty l fault =>
    refine ⟨"Failed to parse ", by decide, ?_⟩
    iterate 5 apply opening_append
    exact List.prefix_refl _
  | setting e =>
    cases e with
    | unknownKey key =>
      refine ⟨"Unknown setting '", by decide, ?_⟩
      iterate 3 apply opening_append
      exact List.prefix_refl _
    | notBoolean key got =>
      refine ⟨"Setting '", by decide, ?_⟩
      iterate 4 apply opening_append
      exact List.prefix_refl _
    | unsupportedLanguage got =>
      refine ⟨"Unsupported language '", by decide, ?_⟩
      iterate 3 apply opening_append
      exact List.prefix_refl _
  | notWritten => exact ⟨"Could not write ", by decide, opening_append _ (List.prefix_refl _)⟩

/-- No command says that the analysis does not support a language. -/
theorem Complaint.ne_unsupported {w : World} {text : String} (h : Complaint w text) (language : String) :
    text ≠ (ParseError.unsupported language).message := by
  obtain ⟨p, hp, hopening⟩ := h.exists_opening
  have hapart : ∀ p ∈ openings,
      ¬p.toList <+: "Unsupported language: ".toList ∧ ¬"Unsupported language: ".toList <+: p.toList := by decide
  exact ne_of_openings hopening (opening_append language (List.prefix_refl _)) (hapart p hp).1 (hapart p hp).2

theorem failed_inj {a b : String} (h : Display.failed a = Display.failed b) : a = b := by
  have hline := congrArg String.toList (Display.line.inj h)
  rw [String.toList_append, String.toList_append] at hline
  exact String.toList_inj.1 (List.append_cancel_left hline)

theorem unsupported_not_mem_errors (w : World) (words : List String) (language : String) :
    Display.failed (ParseError.unsupported language).message ∉ (run w words).errors := by
  rcases complains_run w words with hnone | ⟨text, herrors, hcomplaint⟩
  · simp [hnone]
  · rw [herrors, List.mem_singleton]
    intro h
    exact hcomplaint.ne_unsupported language (failed_inj h).symm

/-- Only known languages reach an analysis. A file whose `analysis` entry is no value has
settings, each of them of its kind and as the file gives it. With these, whatever language
is asked for and whatever the path, the command line is refused or the language is one of
the five, and no analysis refuses that one. So no command prints that refusal. -/
theorem known_language_or_refused {ν : Type} (f : Settings.Format ν) (s : Settings.Store)
    (hsection : ∀ v, (f.document s).get? Settings.sectionName ≠ some (.value v)) :
    (∃ settings, f.load s = .ok settings ∧ f.Gives (f.document s) settings ∧
      (∃ security quality adjust : Bool, ∃ language ∈ ["", "javascript", "java", "python", "c", "cpp"],
        settings.shown =
          [("include_security_scan", Settings.boolText security), ("include_quality_scan", Settings.boolText quality),
            ("adjust_for_language", Settings.boolText adjust), ("default_language", language)]) ∧
      ∀ asked path,
        (∃ e, resolveLanguage asked path settings.defaultLanguage = .error e ∧ Refuses asked path e ∧
          ∀ l, ¬Resolves asked path settings.defaultLanguage l) ∨
        ∃ l, resolveLanguage asked path settings.defaultLanguage = .ok l ∧
          Resolves asked path settings.defaultLanguage l ∧ l.name ∈ ["javascript", "java", "python", "c", "cpp"] ∧
          ∀ grammar options legacy refactored language,
            Analysis.run (α := Float) grammar options l.name legacy refactored ≠
              .error (.parse (.unsupported language))) ∧
    ∀ w words language, Display.failed (ParseError.unsupported language).message ∉ (run w words).errors := by
  refine ⟨?_, unsupported_not_mem_errors⟩
  obtain ⟨settings, hload, hget⟩ := f.exists_load hsection
  refine ⟨settings, hload, f.gives_of_get? hget, ?_, fun asked path => ?_⟩
  · exact ⟨_, _, _, _, Settings.languageText_mem settings.defaultLanguage, rfl⟩
  · rcases resolveLanguage_cases asked path settings.defaultLanguage with ⟨l, hok, hresolves⟩ | hrefused
    · refine .inr ⟨l, hok, hresolves, List.mem_map_of_mem (Language.mem_all l), ?_⟩
      intro grammar options legacy refactored language
      exact Analysis.run_name_supported
    · exact .inl hrefused

/-- A default language in capitals between blanks counts where the extension tells
nothing, and does not where a language that is not known is asked for. -/
theorem known_language_or_refused_capitals :
    ∃ settings,
      Settings.load (.file "[analysis]\ninclude_quality_scan = 1\ndefault_language = \" JAVA \"\n") = .ok settings ∧
        settings.qualityScan = true ∧
        resolveLanguage none "x.s" settings.defaultLanguage = .ok .java ∧
        resolveLanguage (some "cobol") "x.s" settings.defaultLanguage =
          .error (.unsupportedLanguage "cobol") := by
  have hread : Toml.read? "[analysis]\ninclude_quality_scan = 1\ndefault_language = \" JAVA \"\n" =
      some (Table.empty.set Settings.sectionName
        (.table ((Table.empty.set "include_quality_scan" (.int 1)).set "default_language" (.str " JAVA ")))) := by
    rfl
  have hdocument := Settings.Format.toml.document_of_read hread
  obtain ⟨⟨settings, hload, hgives, -, hresolve⟩, -⟩ := known_language_or_refused Settings.Format.toml _ fun v => by
    rw [hdocument]
    exact fun h => nomatch h
  rw [hdocument] at hgives
  have hjava : settings.defaultLanguage = some .java :=
    (hgives.defaultLanguage .java).2 ⟨.str " JAVA ", rfl, by decide +kernel⟩
  have hquality : settings.qualityScan = true := hgives.qualityScan.trans (by decide +kernel)
  refine ⟨settings, hload, hquality, ?_, ?_⟩
  · have hext : ∀ l : Language, extensionFor "x.s" ∉ l.extensions := by
      have hname : FilePath.fileName "x.s" = "x.s" := by cbv
      intro l
      rw [extensionFor, hname]
      cases l <;> decide +kernel
    rcases hresolve none "x.s" with ⟨e, -, -, hnone⟩ | ⟨l, hok, hresolves, -⟩
    · exact absurd (.fallback (.inl rfl) hext hjava) (hnone .java)
    · rw [hok]
      rcases hresolves with ⟨hasked, -, -⟩ | ⟨-, hl⟩ | ⟨-, -, hl⟩
      · cases hasked
      · exact absurd hl (hext l)
      · rw [hjava] at hl
        cases hl
        rfl
  · rcases hresolve (some "cobol") "x.s" with ⟨e, herror, hrefuses, -⟩ | ⟨l, -, hresolves, -⟩
    · rw [herror]
      cases hrefuses with
      | unsupported hasked hne =>
        cases hasked
        rfl
      | unknown hasked => simp [Unasked] at hasked
    · have hcobol : Language.ofName? (Text.lower (Text.trim "cobol")) = none := by decide +kernel
      rw [resolves_iff_of_named rfl (by decide), hcobol] at hresolves
      cases hresolves

end Cli

end RefactorAudit
