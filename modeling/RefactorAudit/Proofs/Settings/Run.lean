import RefactorAudit.Proofs.Settings.Load

/-!
# Runs of saves and resets

After any run of requests each setting has the value of its last save since the last
reset, and the rest of the file is as it was. Each request reads the whole file and
writes it anew, so this needs that what is written is read back (`Keeps`); the order
of keys may change on the way, and `contents` leaves it out.
-/

namespace RefactorAudit.Settings

variable {ν : Type}

/-! ## What a document holds -/

/-- What an entry holds, without the order of its keys. -/
inductive Content (ν : Type) where
  | value (v : ν)
  | table (lookup : String → Option ν)

def Content.ofEntry : Toml.Entry ν → Content ν
  | .value v => .value v
  | .table t => .table t.get?

def contents (d : Toml.DocumentOf ν) (name : String) : Option (Content ν) := (d.get? name).map Content.ofEntry

def Content.settingIn? : Option (Content ν) → String → Option ν
  | some (.table lookup), key => lookup key
  | _, _ => none

theorem settingIn?_eq (d : Toml.DocumentOf ν) (key : String) :
    Format.settingIn? d key = Content.settingIn? (contents d sectionName) key := by
  unfold Format.settingIn? contents
  cases d.get? sectionName with
  | none => rfl
  | some entry => cases entry <;> rfl

theorem contents_eq_value {d : Toml.DocumentOf ν} {name : String} {v : ν} :
    contents d name = some (.value v) ↔ d.get? name = some (.value v) := by
  unfold contents
  cases d.get? name with
  | none => simp
  | some entry => cases entry <;> simp [Content.ofEntry]

theorem contents_set {d : Toml.DocumentOf ν} {name : String} (e : Toml.Entry ν) (hname : name ≠ sectionName) :
    contents (d.set sectionName e) name = contents d name := by
  rw [contents, Table.get?_set, if_neg hname, contents]

theorem contents_erase {d : Toml.DocumentOf ν} {name : String} (hname : name ≠ sectionName) :
    contents (d.erase sectionName) name = contents d name := by
  rw [contents, Table.get?_erase, if_neg hname, contents]

/-- The document holds the settings given by key, and in all other sections what the
initial document holds. -/
structure Holds (initial d : Toml.DocumentOf ν) (settings : String → Option ν) : Prop where
  not_value : ∀ v, d.get? sectionName ≠ some (.value v)
  setting : ∀ key, Format.settingIn? d key = settings key
  other : ∀ name, name ≠ sectionName → contents d name = contents initial name

namespace Holds

variable {initial d d' : Toml.DocumentOf ν} {settings : String → Option ν}

theorem refl (h : ∀ v, d.get? sectionName ≠ some (.value v)) : Holds d d (Format.settingIn? d) :=
  ⟨h, fun _ => rfl, fun _ _ => rfl⟩

theorem congr (h : Holds initial d settings) (hd : contents d' = contents d) : Holds initial d' settings where
  not_value v := by
    rw [ne_eq, ← contents_eq_value, hd, contents_eq_value]
    exact h.not_value v
  setting key := by rw [settingIn?_eq, hd, ← settingIn?_eq, h.setting]
  other name hname := by rw [hd, h.other name hname]

theorem set (h : Holds initial d settings) {t : Table String ν} {settings' : String → Option ν}
    (ht : ∀ key, t.get? key = settings' key) : Holds initial (d.set sectionName (.table t)) settings' where
  not_value v := by simp
  setting key := by simp [Format.settingIn?, ht]
  other name hname := by rw [contents_set _ hname, h.other name hname]

/-- Saving a setting changes no other. -/
theorem update (h : Holds initial d settings) (f : Format ν) (key : String) (x : Setting) :
    ∃ d', f.update d key x = .ok d' ∧ Holds initial d' fun k => if k = key then some (f.keep x) else settings k := by
  unfold Format.update
  have hsetting := h.setting
  unfold Format.settingIn? at hsetting
  cases hentry : d.get? sectionName with
  | none =>
    refine ⟨_, rfl, h.set fun k => ?_⟩
    rw [Table.get?_set, Table.get?_empty, ← hsetting k, hentry]
  | some entry =>
    cases entry with
    | value v => exact absurd hentry (h.not_value v)
    | table t =>
      refine ⟨_, rfl, h.set fun k => ?_⟩
      rw [Table.get?_set, ← hsetting k, hentry]

theorem erase (h : Holds initial d settings) : Holds initial (d.erase sectionName) fun _ => none where
  not_value v := by simp
  setting key := by simp [Format.settingIn?]
  other name hname := by rw [contents_erase hname, h.other name hname]

theorem of_not_contains (h : Holds initial d settings) (hcontains : d.contains sectionName = false) :
    Holds initial d fun _ => none where
  not_value := h.not_value
  setting key := by rw [Format.settingIn?, Table.get?_eq_none hcontains]
  other := h.other

end Holds

/-! ## Requests -/

inductive Request where
  | save (key : String) (value : RawSetting)
  | reset

/-- A request and what came of it. -/
abbrev Event := Request × Except Failure Bool

/-- The file, and the requests so far with the last one first. -/
structure Session where
  store : Store
  past : List Event

def Event.isReset : Event → Bool
  | (.reset, _) => true
  | (.save _ _, _) => false

/-- The setting that a save of the key has written. -/
def Event.saved? (key : String) : Event → Option Setting
  | (.save k value, .ok true) => if k = key then (Setting.ofRaw k value).toOption else none
  | _ => none

/-- The setting that the last save of the key since the last reset has written. -/
def lastSaved? (key : String) (past : List Event) : Option Setting :=
  (past.takeWhile fun event => !event.isReset).findSome? (Event.saved? key)

def wasReset (past : List Event) : Bool := past.any Event.isReset

/-- Only a value that is not valid is refused. -/
def Event.Expected (event : Event) : Prop :=
  event.2 = .ok true ∨ ∃ key value e, Setting.ofRaw key value = .error e ∧ event = (.save key value, .error (.invalid e))

theorem key_of_saved? {key : String} {event : Event} {x : Setting} (h : event.saved? key = some x) : x.key = key := by
  unfold Event.saved? at h
  split at h
  · next k value =>
    split at h
    · next hk =>
      cases hraw : Setting.ofRaw k value with
      | ok y =>
        rw [hraw] at h
        cases h
        rw [Setting.key_of_ofRaw hraw, hk]
      | error e =>
        rw [hraw] at h
        cases h
    · cases h
  · cases h

theorem key_of_lastSaved? {key : String} {past : List Event} {x : Setting} (h : lastSaved? key past = some x) :
    x.key = key := by
  obtain ⟨event, -, hevent⟩ := List.exists_of_findSome?_eq_some h
  exact key_of_saved? hevent

theorem lastSaved?_reset (key : String) (outcome : Except Failure Bool) (past : List Event) :
    lastSaved? key ((.reset, outcome) :: past) = none := by
  simp [lastSaved?, Event.isReset]

theorem lastSaved?_save (k : String) (value : RawSetting) (outcome : Except Failure Bool) (key : String)
    (past : List Event) :
    lastSaved? key ((.save k value, outcome) :: past) =
      (Event.saved? key (.save k value, outcome)).or (lastSaved? key past) := by
  rw [lastSaved?, List.takeWhile_cons_of_pos rfl, List.findSome?_cons, lastSaved?]
  cases Event.saved? key (.save k value, outcome) <;> rfl

theorem lastSaved?_saved {k : String} {value : RawSetting} {x : Setting} (hraw : Setting.ofRaw k value = .ok x)
    (key : String) (past : List Event) :
    lastSaved? key ((.save k value, .ok true) :: past) = if key = k then some x else lastSaved? key past := by
  rw [lastSaved?_save, Event.saved?, hraw]
  by_cases hkey : key = k
  · rw [if_pos hkey, if_pos hkey.symm]
    rfl
  · rw [if_neg hkey, if_neg (Ne.symm hkey), Option.none_or]

theorem lastSaved?_refused (k : String) (value : RawSetting) (e : Failure) (key : String) (past : List Event) :
    lastSaved? key ((.save k value, .error e) :: past) = lastSaved? key past :=
  lastSaved?_save k value (.error e) key past

namespace Format

variable (f : Format ν)

def perform (s : Store) : Request → Store × Except Failure Bool
  | .save key value => f.save s key value
  | .reset => f.reset s

def step (session : Session) (request : Request) : Session :=
  ⟨(f.perform session.store request).1, (request, (f.perform session.store request).2) :: session.past⟩

def run (s : Store) (requests : List Request) : Session := requests.foldl f.step ⟨s, []⟩

/-! ## What is written is read back -/

/-- The document can be written, and what is read again holds the same. -/
def Keeps (d : Toml.DocumentOf ν) : Prop :=
  ∃ text d', f.render? d = some text ∧ f.read? text = some d' ∧ contents d' = contents d

/-- The document that a request writes, if it writes one. -/
def written? (s : Store) : Request → Option (Toml.DocumentOf ν)
  | .save key value => (Setting.ofRaw key value).toOption.bind fun x => (f.update (f.document s) key x).toOption
  | .reset => if (f.document s).contains sectionName then some ((f.document s).erase sectionName) else none

/-- Each document that is written in the run is kept. -/
def KeepsAll : Store → List Request → Prop
  | _, [] => True
  | s, request :: requests =>
    (∀ d, f.written? s request = some d → f.Keeps d) ∧ KeepsAll (f.perform s request).1 requests

variable {f} {initial d : Toml.DocumentOf ν} {settings : String → Option ν} {s : Store}

theorem write_of_render {text : String} (hs : s ≠ .blocked) (h : f.render? d = some text) :
    f.write s d = (.file text, .ok true) := by
  unfold write
  rw [h]
  cases s with
  | blocked => exact absurd rfl hs
  | absent => rfl
  | file old => rfl

theorem write_of_keeps (hs : s ≠ .blocked) (hkeeps : f.Keeps d) (hd : Holds initial d settings) :
    ∃ text, f.write s d = (.file text, .ok true) ∧ Holds initial (f.document (.file text)) settings := by
  obtain ⟨text, d', hrender, hread, hcontents⟩ := hkeeps
  refine ⟨text, write_of_render hs hrender, ?_⟩
  rw [f.document_of_read hread]
  exact hd.congr hcontents

theorem written?_save {key : String} {value : RawSetting} {x : Setting} (hraw : Setting.ofRaw key value = .ok x) :
    f.written? s (.save key value) = (f.update (f.document s) key x).toOption := by
  rw [written?, hraw]
  rfl

theorem perform_of_written {request : Request} (h : f.written? s request = some d) :
    f.perform s request = f.write s d := by
  cases request with
  | save key value =>
    cases hraw : Setting.ofRaw key value with
    | error e =>
      rw [written?, hraw] at h
      cases h
    | ok x =>
      rw [written?_save hraw] at h
      cases hupdate : f.update (f.document s) key x with
      | error e =>
        rw [hupdate] at h
        cases h
      | ok d' =>
        rw [hupdate] at h
        cases h
        simp only [perform, save, hraw, hupdate]
  | reset =>
    simp only [written?] at h
    split at h
    · next hcontains =>
      cases h
      simp only [perform, reset, hcontains, if_true]
    · cases h

theorem save_of_invalid {key : String} {value : RawSetting} {e : SettingError} (hraw : Setting.ofRaw key value = .error e)
    (s : Store) : f.save s key value = (s, .error (.invalid e)) := by
  rw [save, hraw]

theorem save_error_invalid_iff {key : String} {value : RawSetting} {e : SettingError} :
    (f.save s key value).2 = .error (.invalid e) ↔ Setting.ofRaw key value = .error e := by
  refine ⟨fun h => ?_, fun h => by rw [save_of_invalid h]⟩
  unfold save at h
  split at h
  · next e' hraw =>
    cases h
    exact hraw
  -- No other failure of a save is about its value.
  · split at h
    · next e' hupdate =>
      unfold update at hupdate
      grind
    · unfold write at h
      grind

theorem perform_save {key : String} {value : RawSetting} {x : Setting} (hraw : Setting.ofRaw key value = .ok x)
    (hs : s ≠ .blocked) (hkeeps : ∀ d, f.written? s (.save key value) = some d → f.Keeps d)
    (h : Holds initial (f.document s) settings) :
    ∃ text, f.perform s (.save key value) = (.file text, .ok true) ∧
      Holds initial (f.document (.file text)) fun k => if k = key then some (f.keep x) else settings k := by
  obtain ⟨d, hupdate, hd⟩ := h.update f key x
  have hwritten : f.written? s (.save key value) = some d := by
    rw [written?_save hraw, hupdate]
    rfl
  rw [perform_of_written hwritten]
  exact write_of_keeps hs (hkeeps d hwritten) hd

theorem perform_reset (hs : s ≠ .blocked) (hkeeps : ∀ d, f.written? s .reset = some d → f.Keeps d)
    (h : Holds initial (f.document s) settings) :
    ∃ t, f.perform s .reset = (t, .ok true) ∧ t ≠ .blocked ∧ Holds initial (f.document t) fun _ => none := by
  cases hcontains : (f.document s).contains sectionName with
  | false =>
    refine ⟨s, ?_, hs, h.of_not_contains hcontains⟩
    simp only [perform, reset, hcontains, Bool.false_eq_true, if_false]
  | true =>
    have hwritten : f.written? s .reset = some ((f.document s).erase sectionName) := by
      simp only [written?, hcontains, if_true]
    obtain ⟨text, hwrite, htext⟩ := write_of_keeps hs (hkeeps _ hwritten) h.erase
    exact ⟨.file text, (perform_of_written hwritten).trans hwrite, Store.noConfusion, htext⟩

theorem keepsAll_cons {request : Request} {requests : List Request} {text : String} (hs : s ≠ .blocked)
    (hwritten : f.written? s request = some d) (hrender : f.render? d = some text) (hread : f.read? text = some d)
    (h : f.KeepsAll (.file text) requests) : f.KeepsAll s (request :: requests) := by
  refine ⟨fun d' hd' => ?_, ?_⟩
  · cases hwritten.symm.trans hd'
    exact ⟨text, d, hrender, hread, rfl⟩
  · rw [perform_of_written hwritten, write_of_render hs hrender]
    exact h

/-! ## Runs -/

variable (f) in
/-- The value that the file holds for a setting after the requests. -/
def heldAfter (initial : Toml.DocumentOf ν) (past : List Event) (key : String) : Option ν :=
  ((lastSaved? key past).map f.keep).or (if wasReset past then none else settingIn? initial key)

variable (f) in
/-- What holds of a session in every run. -/
structure Reached (initial : Toml.DocumentOf ν) (session : Session) : Prop where
  not_blocked : session.store ≠ .blocked
  holds : Holds initial (f.document session.store) (f.heldAfter initial session.past)
  expected : ∀ event ∈ session.past, Event.Expected event

theorem reached_start (hs : s ≠ .blocked) (hentry : ∀ v, (f.document s).get? sectionName ≠ some (.value v)) :
    f.Reached (f.document s) ⟨s, []⟩ where
  not_blocked := hs
  holds := Holds.refl hentry
  expected := by simp

/-- Each request adds its event, and the file then holds what the events say. -/
theorem Reached.step {session : Session} {request : Request} (h : f.Reached initial session)
    (hkeeps : ∀ d, f.written? session.store request = some d → f.Keeps d) :
    f.Reached initial (f.step session request) := by
  obtain ⟨s, past⟩ := session
  obtain ⟨hs, hholds, hexpected⟩ := h
  cases request with
  | reset =>
    obtain ⟨t, hreset, ht, hnone⟩ := perform_reset hs hkeeps hholds
    have hstep : f.step ⟨s, past⟩ .reset = ⟨t, (.reset, .ok true) :: past⟩ := by
      rw [Format.step, hreset]
    rw [hstep]
    refine ⟨ht, ?_, List.forall_mem_cons.2 ⟨.inl rfl, hexpected⟩⟩
    have hheld : f.heldAfter initial ((.reset, .ok true) :: past) = fun _ => none := by
      funext key
      rw [heldAfter, lastSaved?_reset]
      rfl
    rw [hheld]
    exact hnone
  | save key value =>
    cases hraw : Setting.ofRaw key value with
    | error e =>
      have hstep : f.step ⟨s, past⟩ (.save key value) = ⟨s, (.save key value, .error (.invalid e)) :: past⟩ := by
        rw [Format.step, perform, save_of_invalid hraw]
      rw [hstep]
      refine ⟨hs, ?_, List.forall_mem_cons.2 ⟨.inr ⟨key, value, e, hraw, rfl⟩, hexpected⟩⟩
      have hheld : f.heldAfter initial ((.save key value, .error (.invalid e)) :: past) = f.heldAfter initial past := by
        funext k
        rw [heldAfter, lastSaved?_refused]
        rfl
      rw [hheld]
      exact hholds
    | ok x =>
      obtain ⟨text, hsave, htext⟩ := perform_save hraw hs hkeeps hholds
      have hstep : f.step ⟨s, past⟩ (.save key value) = ⟨.file text, (.save key value, .ok true) :: past⟩ := by
        rw [Format.step, hsave]
      rw [hstep]
      refine ⟨Store.noConfusion, ?_, List.forall_mem_cons.2 ⟨.inl rfl, hexpected⟩⟩
      have hheld : f.heldAfter initial ((.save key value, .ok true) :: past) =
          fun k => if k = key then some (f.keep x) else f.heldAfter initial past k := by
        funext k
        rw [heldAfter, lastSaved?_saved hraw]
        split <;> rfl
      rw [hheld]
      exact htext

theorem Reached.foldl_step {session : Session} {requests : List Request} (h : f.Reached initial session)
    (hkeeps : f.KeepsAll session.store requests) : f.Reached initial (requests.foldl f.step session) := by
  induction requests generalizing session with
  | nil => exact h
  | cons request requests ih => exact ih (h.step hkeeps.1) hkeeps.2

theorem map_fst_past_foldl_step (session : Session) (requests : List Request) :
    (requests.foldl f.step session).past.map Prod.fst = requests.reverse ++ session.past.map Prod.fst := by
  induction requests generalizing session with
  | nil => rfl
  | cons request requests ih =>
    rw [List.foldl_cons, ih, List.reverse_cons, List.append_assoc]
    rfl

/-- A setting that was saved is read back, and one that was not is as in the beginning. -/
theorem valid?_heldAfter (initial : Toml.DocumentOf ν) (past : List Event) (key : String) :
    ((f.heldAfter initial past key).bind (f.valid? key)).or (standard.get? key) =
      (lastSaved? key past).or (if wasReset past then standard.get? key
        else ((settingIn? initial key).bind (f.valid? key)).or (standard.get? key)) := by
  unfold heldAfter
  cases hlast : lastSaved? key past with
  | none => cases wasReset past <;> rfl
  | some x =>
    -- What was stored is checked again on reading, and means the same setting.
    have hvalid : f.valid? key (f.keep x) = some x := key_of_lastSaved? hlast ▸ f.valid?_keep x
    simp [hvalid]

theorem lastSaved?_eq_none_of_unknown {key : String} (h : standard.get? key = none) (past : List Event) :
    lastSaved? key past = none := by
  cases hlast : lastSaved? key past with
  | none => rfl
  | some x =>
    rw [← key_of_lastSaved? hlast] at h
    cases x <;> cases h

/-- In every run each setting has the value of its last save since the last reset, or
else what it had in the beginning. Other sections stay, and so do unknown keys but for
resets; a refused save leaves the file alone. -/
theorem run_last_save_wins {requests : List Request} (hs : s ≠ .blocked)
    (hentry : ∀ v, (f.document s).get? sectionName ≠ some (.value v)) (hkeeps : f.KeepsAll s requests) :
    (f.run s requests).past.map Prod.fst = requests.reverse ∧
    (∃ first last, f.load s = .ok first ∧ f.load (f.run s requests).store = .ok last ∧
      ∀ key, last.get? key = (lastSaved? key (f.run s requests).past).or
        (if wasReset (f.run s requests).past then standard.get? key else first.get? key)) ∧
    (∀ name, name ≠ sectionName →
      contents (f.document (f.run s requests).store) name = contents (f.document s) name) ∧
    (∀ key, standard.get? key = none → settingIn? (f.document (f.run s requests).store) key =
      if wasReset (f.run s requests).past then none else settingIn? (f.document s) key) ∧
    (∀ event ∈ (f.run s requests).past, event.Expected) ∧
    (∀ t key value e, (f.save t key value).2 = .error (.invalid e) ↔ Setting.ofRaw key value = .error e) ∧
    ∀ t key value e, (f.save t key value).2 = .error (.invalid e) → (f.save t key value).1 = t := by
  have hreached : f.Reached (f.document s) (f.run s requests) := (reached_start hs hentry).foldl_step hkeeps
  obtain ⟨first, hfirst, hgetFirst⟩ := f.exists_load hentry
  obtain ⟨last, hlast, hgetLast⟩ := f.exists_load hreached.holds.not_value
  refine ⟨?_, ⟨first, last, hfirst, hlast, fun key => ?_⟩, hreached.holds.other, fun key hkey => ?_,
    hreached.expected, fun t key value e => save_error_invalid_iff, fun t key value e h => ?_⟩
  · rw [run, map_fst_past_foldl_step, List.map_nil, List.append_nil]
  · rw [hgetLast, hreached.holds.setting, valid?_heldAfter, hgetFirst]
  · rw [hreached.holds.setting, heldAfter, lastSaved?_eq_none_of_unknown hkey]
    rfl
  · rw [save_of_invalid (save_error_invalid_iff.1 h)]

end Format

/-! ## A run on a file with other entries -/

section Example

def darkUi : Toml.Document := Table.empty.set "ui" (.table (Table.empty.set "dark" (.bool true)))

/-- The file has another section, and a key that is no setting. -/
def coloured : Toml.Document := darkUi.set sectionName (.table (Table.empty.set "colour" (.int 3)))

def colouredJava : Toml.Document :=
  darkUi.set sectionName (.table ((Table.empty.set "colour" (.int 3)).set "default_language" (.str "java")))

def withQuality : Toml.Document := darkUi.set sectionName (.table (Table.empty.set "include_quality_scan" (.bool true)))

def colouredText : String := "[ui]\ndark = true\n\n[analysis]\ncolour = 3\n"

def colouredJavaText : String := "[ui]\ndark = true\n\n[analysis]\ncolour = 3\ndefault_language = \"java\"\n"

def darkUiText : String := "[ui]\ndark = true\n"

def withQualityText : String := "[ui]\ndark = true\n\n[analysis]\ninclude_quality_scan = true\n"

/-- A save, one that is refused, a reset and another save. -/
def edits : List Request :=
  [.save "default_language" (some (.str " Java ")), .save "colour" (some (.int 4)), .reset,
    .save "include_quality_scan" (some (.str "on"))]

theorem read_coloured : Toml.read? colouredText = some coloured := by rfl

theorem read_colouredJava : Toml.read? colouredJavaText = some colouredJava := by rfl

theorem read_darkUi : Toml.read? darkUiText = some darkUi := by rfl

theorem read_withQuality : Toml.read? withQualityText = some withQuality := by rfl

theorem render_colouredJava : Toml.render? colouredJava = some colouredJavaText := by decide +kernel

theorem render_darkUi : Toml.render? darkUi = some darkUiText := by decide +kernel

theorem render_withQuality : Toml.render? withQuality = some withQualityText := by decide +kernel

theorem written_colouredJava :
    Format.toml.written? (.file colouredText) (.save "default_language" (some (.str " Java "))) = some colouredJava := by
  rw [Format.written?, Format.toml.document_of_read read_coloured]
  rfl

theorem written_darkUi : Format.toml.written? (.file colouredJavaText) .reset = some darkUi := by
  rw [Format.written?, Format.toml.document_of_read read_colouredJava]
  rfl

theorem written_withQuality :
    Format.toml.written? (.file darkUiText) (.save "include_quality_scan" (some (.str "on"))) = some withQuality := by
  rw [Format.written?, Format.toml.document_of_read read_darkUi]
  rfl

theorem keepsAll_edits : Format.toml.KeepsAll (.file colouredText) edits := by
  refine Format.keepsAll_cons Store.noConfusion written_colouredJava render_colouredJava read_colouredJava ⟨?_, ?_⟩
  · intro d hd
    cases hd
  · refine Format.keepsAll_cons Store.noConfusion written_darkUi render_darkUi read_darkUi ?_
    exact Format.keepsAll_cons Store.noConfusion written_withQuality render_withQuality read_withQuality trivial

theorem run_edits : Format.toml.run (.file colouredText) edits =
    ⟨.file withQualityText, [(.save "include_quality_scan" (some (.str "on")), .ok true), (.reset, .ok true),
      (.save "colour" (some (.int 4)), .error (.invalid (.unknownKey "colour"))),
      (.save "default_language" (some (.str " Java ")), .ok true)]⟩ := by
  have hjava := (Format.perform_of_written written_colouredJava).trans
    (Format.write_of_render Store.noConfusion render_colouredJava)
  have hcolour : Format.toml.perform (.file colouredJavaText) (.save "colour" (some (.int 4))) =
    (.file colouredJavaText, .error (.invalid (.unknownKey "colour"))) := rfl
  have hreset := (Format.perform_of_written written_darkUi).trans
    (Format.write_of_render Store.noConfusion render_darkUi)
  have hquality := (Format.perform_of_written written_withQuality).trans
    (Format.write_of_render Store.noConfusion render_withQuality)
  simp only [Format.run, edits, List.foldl_cons, List.foldl_nil, Format.step, hjava, hcolour, hreset, hquality]

theorem run_last_save_wins_edits :
    (∀ v, (Format.toml.document (.file colouredText)).get? sectionName ≠ some (.value v)) ∧
      Format.toml.KeepsAll (.file colouredText) edits ∧
      ∃ last, Format.toml.load (.file withQualityText) = .ok last ∧
        last.get? "include_quality_scan" = some (.qualityScan true) ∧
        last.get? "default_language" = some (.defaultLanguage none) ∧
        contents withQuality "ui" = contents coloured "ui" ∧
        Format.settingIn? withQuality "colour" = none := by
  have hcoloured := Format.toml.document_of_read read_coloured
  have hentry (v : Toml.Value) : (Format.toml.document (.file colouredText)).get? sectionName ≠ some (.value v) := by
    rw [hcoloured]
    exact fun h => nomatch h
  obtain ⟨-, ⟨first, last, -, hlast, hget⟩, hother, hunknown, -⟩ :=
    Format.run_last_save_wins Store.noConfusion hentry keepsAll_edits
  simp only [run_edits] at hlast hget hother hunknown
  rw [Format.toml.document_of_read read_withQuality] at hother hunknown
  rw [hcoloured] at hother
  refine ⟨hentry, keepsAll_edits, last, hlast, (hget _).trans ?_, (hget _).trans ?_, hother _ (by decide), ?_⟩
  · rfl
  · rfl
  · exact hunknown _ rfl

end Example

end RefactorAudit.Settings
