import LinkTemplate.Proofs.CommandLine.Failures
import LinkTemplate.Proofs.Expansion.Substitution

/-!
# Settings across calls

Calls of the program share nothing but the settings file. A call either leaves the file alone or
changes one key and writes all the settings (`Call.report_cases`), so that behind any calls the
settings are the ones from before with the value for each key that it was given last
(`load_fileAfter`), and the next call shows them and writes dates by them.
-/

namespace LinkTemplate.CommandLine

/-- One call of the program : its words, and what it finds beside the settings file. -/
structure Call where
  words : List Text
  /-- Whether the settings file can be opened for writing. -/
  writable : Bool := true
  /-- What the system says where it cannot. -/
  fileReason : Text := []
  desktop : Desktop := {}
  now : Instant := Instant.epoch
  colors : Bool := false
deriving DecidableEq, Repr

namespace Call

/-- What a call finds where the settings file is the given one. -/
def environment (call : Call) (file : SettingsFile) : Environment where
  settingsFile := file
  writable := call.writable
  fileReason := call.fileReason
  desktop := call.desktop
  now := call.now
  colors := call.colors

/-- The report on a call. -/
def report (call : Call) (file : SettingsFile) : Report :=
  runWords (call.environment file) call.words

/-- The call asks for the change of a setting and exits with 0. -/
def Changes (file : SettingsFile) (call : Call) (name value : Text) : Prop :=
  ∃ level, Invocation.parse call.words = .ok ⟨.changeSetting name value, level⟩ ∧
    (call.report file).exitCode = 0

/-- The value that a call gives to a key, if it changes that key and exits with 0. -/
def assigned? (k : SettingsKey) (file : SettingsFile) (call : Call) : Option Text :=
  match Invocation.parse call.words with
  | .ok ⟨.changeSetting name value, _⟩ =>
    if name = k.name ∧ (call.report file).exitCode = 0 then some (k.canonical value) else none
  | _ => none

end Call

/-- The settings file behind a call. -/
def fileBehind (file : SettingsFile) (call : Call) : SettingsFile :=
  (call.report file).settingsFile

/-- The settings file behind calls one after the other. -/
def fileAfter (file : SettingsFile) (calls : List Call) : SettingsFile :=
  calls.foldl fileBehind file

/-- The value that a sequence of calls gives to a key last. -/
def lastAssigned? (k : SettingsKey) : SettingsFile → List Call → Option Text :=
  lastGiven? fileBehind (Call.assigned? k)

variable {file : SettingsFile} {settings : Settings} {call : Call} {command : Command}
  {level : Text} {k : SettingsKey}

/-! ## One call -/

theorem Call.report_of_parse (hparse : Invocation.parse call.words = .ok ⟨command, level⟩) :
    call.report file = run (call.environment file) ⟨command, level⟩ := by
  rw [report, runWords, hparse]

theorem Call.loads_iff {other : Settings} :
    (call.environment file).Loads other ↔ file.load = .ok other := Iff.rfl

theorem Call.Changes.unique {name name' value value' : Text} (h : call.Changes file name value)
    (h' : call.Changes file name' value') : name = name' ∧ value = value' := by
  obtain ⟨level, hparse, -⟩ := h
  obtain ⟨level', hparse', -⟩ := h'
  rw [hparse] at hparse'
  exact Command.changeSetting.inj (Invocation.mk.inj (Except.ok.inj hparse')).1

theorem Call.assigned?_of_changes {name value : Text} (h : call.Changes file name value) :
    call.assigned? k file = if name = k.name then some (k.canonical value) else none := by
  obtain ⟨level, hparse, hexit⟩ := h
  rw [assigned?, hparse]
  simp [hexit]

theorem Call.assigned?_of_not_changes (h : ∀ name value, ¬call.Changes file name value) :
    call.assigned? k file = none := by
  unfold assigned?
  split
  · next name value level hparse => exact if_neg fun ⟨_, hexit⟩ => h name value ⟨level, hparse, hexit⟩
  · rfl

/-- A call leaves the settings file alone, or it changes one key, exits with 0 and writes all the
settings. -/
theorem Call.report_cases (hfile : file.load = .ok settings) (call : Call) :
    (fileBehind file call = file ∧ ∀ name value, ¬call.Changes file name value) ∨
      ∃ k value changed, call.Changes file k.name value ∧ settings.set k value = .ok changed ∧
        fileBehind file call = .text changed.render := by
  cases hparse : Invocation.parse call.words with
  | error stop =>
    refine .inl ⟨?_, fun name value ⟨level, hchange, _⟩ => by simp [hparse] at hchange⟩
    rw [fileBehind, report, runWords, hparse]
    cases stop <;> rfl
  | ok invocation =>
    obtain ⟨command, level⟩ := invocation
    have hreport : call.report file = _ := report_of_parse hparse
    by_cases hexit : (call.report file).exitCode = 0
    · have hrun := hexit
      rw [hreport] at hrun
      obtain ⟨loaded, hloads, hperforms⟩ := performs_of_exitCode_eq_zero hrun
      obtain rfl : settings = loaded := Except.ok.inj (hfile.symm.trans (loads_iff.mp hloads))
      rcases hperforms.settingsFile_cases with
        ⟨hsame, hcommand⟩ | ⟨k, value, changed, rfl, -, hset, hsave⟩
      · refine .inl ⟨?_, fun name value ⟨level', hchange, _⟩ => ?_⟩
        · rw [fileBehind, hreport]
          exact hsame
        · rw [hparse] at hchange
          exact hcommand name value (Invocation.mk.inj (Except.ok.inj hchange)).1
      · refine .inr ⟨k, value, changed, ⟨level, hparse, hexit⟩, hset, ?_⟩
        rw [fileBehind, hreport]
        exact (SettingsFile.save_eq_ok_iff.mp hsave).2
    · refine .inl ⟨?_, fun name value ⟨_, _, hzero⟩ => hexit hzero⟩
      rw [fileBehind, hreport]
      rw [hreport] at hexit
      exact (run_of_exitCode_ne_zero hexit).2.2

/-- Behind a call the settings can be loaded again, each key with the value that the call has
given to it, or else the one from before. -/
theorem Call.load_fileBehind (hfile : file.load = .ok settings) (call : Call) :
    ∃ changed, (fileBehind file call).load = .ok changed ∧
      ∀ k, changed.get k = (call.assigned? k file).getD (settings.get k) := by
  rcases report_cases hfile call with ⟨hsame, hnone⟩ | ⟨k, value, changed, hchange, hset, hbehind⟩
  · refine ⟨settings, by rw [hsame, hfile], fun k => ?_⟩
    rw [assigned?_of_not_changes hnone, Option.getD_none]
  · refine ⟨changed, hbehind ▸ SettingsFile.load_text_render changed, fun other => ?_⟩
    rw [assigned?_of_changes hchange]
    by_cases hk : k = other
    · subst hk
      rw [if_pos rfl, Settings.get_set hset, Option.getD_some]
    · rw [if_neg fun h => hk (SettingsKey.name_injective h), Option.getD_none,
        Settings.get_set_of_ne hset (Ne.symm hk)]

/-! ## Many calls -/

/-- Behind calls each key has the value that it was given last, or else the one from before. -/
theorem load_fileAfter (hfile : file.load = .ok settings) (calls : List Call) :
    ∃ last, (fileAfter file calls).load = .ok last ∧
      ∀ k, last.get k = (lastAssigned? k file calls).getD (settings.get k) := by
  induction calls generalizing file settings with
  | nil => exact ⟨settings, hfile, fun _ => rfl⟩
  | cons call calls ih =>
    obtain ⟨changed, hload, hchanged⟩ := call.load_fileBehind hfile
    obtain ⟨last, hlast, hget⟩ := ih hload
    refine ⟨last, hlast, fun k => ?_⟩
    rw [hget, hchanged]
    exact (getD_lastGiven?_cons fileBehind (Call.assigned? k) file call calls _).symm

/-! ## The next call -/

theorem parse_show (k : SettingsKey) :
    Invocation.parse ["config".toList, k.name] = .ok { command := .showSetting k.name } := by
  rcases k with (_ | _ | _) | _ | _ <;> rfl

theorem Call.report_show (hfile : file.load = .ok settings)
    (hparse : Invocation.parse call.words = .ok ⟨.showSetting k.name, level⟩) :
    call.report file =
      { output := line (settings.get k)
        errorOutput := logLevelWarning level
        settingsFile := file } := by
  rw [report_of_parse hparse, run_of_performs (loads_iff.mpr hfile) (.showSetting k)]
  rfl

theorem expandInputs_eq_ok {env : Environment} {template : Text} {options : ExpandOptions}
    {arguments : Bindings} {reference : Instant}
    (harguments : parseBindings options.arguments = .ok arguments)
    (hreference : parseReference env.now options.reference = .ok reference) :
    ∃ inputs, expandInputs env settings template options = .ok inputs ∧
      inputs.arguments = arguments ∧ inputs.reference = reference ∧
        inputs.patterns = settings.patterns := by
  rw [expandInputs, harguments]
  simp only [bind, Except.bind, hreference]
  exact ⟨_, rfl, rfl, rfl, rfl⟩

theorem Call.report_expand (hfile : file.load = .ok settings) {template : Text}
    {options : ExpandOptions} {inputs : Inputs}
    (hparse : Invocation.parse call.words = .ok ⟨.expand template options, level⟩)
    (hinputs : expandInputs (call.environment file) settings template options = .ok inputs) :
    (call.report file).exitCode = (if (expand template inputs).succeeded then 0 else 1) ∧
      (call.report file).output = line (if options.json
        then (expansionJson (expand template inputs)).render else (expand template inputs).url) := by
  rw [report_of_parse hparse, run_of_performs (loads_iff.mpr hfile) (.expand hinputs)]
  exact ⟨rfl, rfl⟩

/-- What a date placeholder without a format of its own writes by a pattern. -/
def datedText (reference : Instant) (offset : Option Text) (modifiers : List Text)
    (pattern : Text) : Text :=
  Modifier.applyAll modifiers
    (Pattern.format ((offset.map reference.shiftBy).getD reference) pattern)

theorem resolve_dated {content : Text} {style : DateStyle} {offset : Option Text}
    {modifiers : List Text}
    (h : Placeholder.parse content = .ok ⟨.dated style ⟨none, offset⟩, modifiers⟩)
    (inputs : Inputs) :
    resolve inputs content =
      .resolved (datedText inputs.reference offset modifiers (inputs.patterns.pattern style)) := by
  rw [resolve, h]
  rfl

theorem expand_dated {content template : Text} {style : DateStyle} {offset : Option Text}
    {modifiers : List Text} (hleads : Template.Leads content [] template)
    (h : Placeholder.parse content = .ok ⟨.dated style ⟨none, offset⟩, modifiers⟩)
    (inputs : Inputs) :
    expand template inputs =
      ⟨datedText inputs.reference offset modifiers (inputs.patterns.pattern style), [], []⟩ := by
  rw [expand_of_leads hleads, shown, resolve_dated h]
  simp [expand_nil, Outcome.value?, Outcome.missing?, Outcome.defect?]

/-- Behind any calls on settings that can be loaded, a call that shows a key prints the value that
the key was given last, or else the one from before; a call that expands a template writes its
dates without a format by that value of the pattern; and only a change of a key that exits with 0
writes to the settings file, which then holds all the settings, the other keys as they were. -/
theorem settings_persist {file : SettingsFile} {initial : Settings}
    (hfile : file.load = .ok initial) (calls : List Call) :
    let final := fileAfter file calls
    let value (k : SettingsKey) := (lastAssigned? k file calls).getD (initial.get k)
    (∀ (k : SettingsKey) (call : Call) level,
      Invocation.parse call.words = .ok ⟨.showSetting k.name, level⟩ →
      call.report final =
        { output := line (value k)
          errorOutput := logLevelWarning level
          exitCode := 0
          copied := none
          settingsFile := final }) ∧
    (∀ (call : Call) template options level arguments reference,
      Invocation.parse call.words = .ok ⟨.expand template options, level⟩ →
      parseBindings options.arguments = .ok arguments →
      parseReference call.now options.reference = .ok reference →
      ∃ inputs : Inputs, inputs.arguments = arguments ∧ inputs.reference = reference ∧
        (call.report final).output = line (if options.json
          then (expansionJson (expand template inputs)).render
          else (expand template inputs).url) ∧
        ∀ content style offset modifiers,
          Placeholder.parse content = .ok ⟨.dated style ⟨none, offset⟩, modifiers⟩ →
          resolve inputs content =
            .resolved (datedText reference offset modifiers (value (.pattern style))) ∧
          (Template.Leads content [] template → (call.report final).exitCode = 0 ∧
            (expand template inputs).url =
              datedText reference offset modifiers (value (.pattern style)))) ∧
    (∀ call : Call, (call.report final).settingsFile ≠ final →
      ∃ (k : SettingsKey) (v : Text), call.Changes final k.name v) ∧
    (∀ (call : Call) name v, call.Changes final name v →
      ∃ (k : SettingsKey) (changed : Settings), k.name = name ∧
        changed.get k = k.canonical v ∧ (∀ other ≠ k, changed.get other = value other) ∧
        (call.report final).settingsFile = .text changed.render) := by
  intro final value
  obtain ⟨last, hlast, hget⟩ := load_fileAfter hfile calls
  refine ⟨fun k call level hparse => ?_, fun call template options level arguments reference hparse
    harguments hreference => ?_, fun call hchanged => ?_, fun call name v hchange => ?_⟩
  · rw [Call.report_show hlast hparse, hget]
  · obtain ⟨inputs, hinputs, rfl, rfl, hpatterns⟩ :=
      @expandInputs_eq_ok last (call.environment final) template options _ _ harguments hreference
    have hpattern (style : DateStyle) : inputs.patterns.pattern style = value (.pattern style) := by
      rw [hpatterns]
      exact hget (.pattern style)
    obtain ⟨hexit, houtput⟩ := Call.report_expand hlast hparse hinputs
    refine ⟨inputs, rfl, rfl, houtput, fun content style offset modifiers hcontent => ?_⟩
    rw [resolve_dated hcontent, hpattern]
    refine ⟨rfl, fun hleads => ?_⟩
    rw [expand_dated hleads hcontent, hpattern] at hexit ⊢
    exact ⟨hexit, rfl⟩
  · rcases call.report_cases hlast with ⟨hsame, -⟩ | ⟨k, v, changed, hchange, -, -⟩
    · exact absurd hsame hchanged
    · exact ⟨k, v, hchange⟩
  · rcases call.report_cases hlast with ⟨-, hnone⟩ | ⟨k, w, changed, hchange', hset, hbehind⟩
    · exact absurd hchange (hnone name v)
    · obtain ⟨rfl, rfl⟩ := hchange'.unique hchange
      refine ⟨k, changed, rfl, Settings.get_set hset, fun other hother => ?_, hbehind⟩
      rw [Settings.get_set_of_ne hset hother, hget]

/-- A pattern is stored, a switch rejects a word, and an expansion misses an argument : the pattern
is still there, and dates are written by it. -/
theorem settings_persist_rejected :
    let calls : List Call := [
      { words := ["config".toList, "date-format".toList, "yyyy".toList] },
      { words := ["config".toList, "copy-result".toList, "maybe".toList] },
      { words := ["process".toList, "{argument name=x}".toList] }]
    let final := fileAfter .absent calls
    let question : Call := { words := ["config".toList, "date-format".toList] }
    let expansion : Call := {
      words := ["process".toList, "{date}".toList, "--at".toList, "2024-01-27T10:00:00Z".toList] }
    let change : Call := { words := ["config".toList, "time-format".toList, "HH".toList] }
    (question.report final).output = line "yyyy".toList ∧
    (expansion.report final).output = line "2024".toList ∧
    ∃ changed : Settings, changed.get (.pattern .time) = "HH".toList ∧
      changed.get (.pattern .date) = "yyyy".toList ∧
      (change.report final).settingsFile = .text changed.render := by
  intro calls final question expansion change
  have hvalue : (lastAssigned? (.pattern .date) .absent calls).getD
      (({} : Settings).get (.pattern .date)) = "yyyy".toList := by
    decide +kernel
  obtain ⟨hshow, hexpand, -, hchange⟩ := @settings_persist .absent {} rfl calls
  refine ⟨?_, ?_, ?_⟩
  · rw [hshow (.pattern .date) question _ (parse_show (.pattern .date))]
    exact congrArg line hvalue
  · let morning : Instant := (Instant.of? 1706349600 0 0).getD Instant.epoch
    have hreference : parseReference Instant.epoch (some "2024-01-27T10:00:00Z".toList) =
        .ok morning := by
      decide +kernel
    have hdated : Placeholder.parse "date".toList = .ok ⟨.dated .date ⟨none, none⟩, []⟩ := by
      decide +kernel
    have hleads : Template.Leads "date".toList [] "{date}".toList := ⟨by decide, by decide, rfl⟩
    have htext : datedText morning none [] "yyyy".toList = "2024".toList := by
      decide +kernel
    obtain ⟨inputs, -, -, houtput, hresolve⟩ :=
      hexpand expansion "{date}".toList { reference := some "2024-01-27T10:00:00Z".toList } _ []
        morning rfl rfl hreference
    rw [houtput, ← htext, ← hvalue]
    exact congrArg line ((hresolve _ .date none [] hdated).2 hleads).2
  · have hchanges : change.Changes final "time-format".toList "HH".toList :=
      ⟨_, rfl, by decide +kernel⟩
    obtain ⟨k, changed, hname, hget, hother, hfile⟩ := hchange change _ _ hchanges
    obtain rfl : k = .pattern .time := SettingsKey.name_injective hname
    exact ⟨changed, hget, (hother (.pattern .date) (by decide)).trans hvalue, hfile⟩

end LinkTemplate.CommandLine
