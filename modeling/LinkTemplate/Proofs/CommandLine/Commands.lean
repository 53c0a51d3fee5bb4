import LinkTemplate.CommandLine.Run
import LinkTemplate.Proofs.Effects
import LinkTemplate.Proofs.Settings.Storage
import LinkTemplate.Proofs.Settings.Values

/-!
# What commands do

`Performs` says for each command what it adds to a report where it does not fail, and whether it
succeeds. That is all that a command does (`perform_eq_ok_iff`) : it prints, an expansion may be
copied, and only a change of a setting writes to the settings file.
-/

namespace LinkTemplate.CommandLine

variable {env : Environment} {settings : Settings} {r t : Report} {command : Command} {b : Bool}

/-! ## The settings in force -/

/-- The settings are in force : they are stored, or the default ones where nothing tells the
directory of the settings file. -/
def Environment.Loads (env : Environment) (settings : Settings) : Prop :=
  if env.located then env.settingsFile.load = .ok settings else settings = {}

theorem run_settings_eq_ok_iff (hr : r.settingsFile = env.settingsFile) :
    (Action.settings env).run r = .ok settings t ↔ env.Loads settings ∧ t = r := by
  unfold Action.settings Environment.Loads
  split
  · rw [← hr, ← mapError_eq_ok_iff (g := (CommandError.settings · env.fileReason))]
    exact run_ofExcept_eq_ok_iff
  · simp [eq_comm]

/-! ## The parts of commands -/

theorem run_print (text : Text) :
    (Action.print text).run r = .ok () { r with output := r.output ++ text } := rfl

theorem run_warn (text : Text) :
    (Action.warn text).run r = .ok () { r with errorOutput := r.errorOutput ++ text } := rfl

theorem run_copy (desktop : Desktop) (text : Text) :
    (Action.copy desktop text).run r = .ok () { r with
      errorOutput := r.errorOutput ++ Action.copyWarning desktop
      copied := if desktop.hasTool then some text else r.copied } := rfl

/-- The report behind the delivery of an expansion. -/
def delivered (env : Environment) (settings : Settings) (options : ExpandOptions) (e : Expansion)
    (r : Report) : Report :=
  let copies := e.succeeded && (options.copy || settings.copyResult)
  { r with
    output := r.output ++ line (if options.json then (expansionJson e).render else e.url)
    errorOutput := r.errorOutput ++ (if options.json then [] else lines env.colors e.messages) ++
      if copies then Action.copyWarning env.desktop else []
    copied := if copies && env.desktop.hasTool then some e.url else r.copied }

theorem run_deliverExpansion (options : ExpandOptions) (e : Expansion) :
    (deliverExpansion env settings options e).run r =
      .ok e.succeeded (delivered env settings options e r) := by
  unfold deliverExpansion printExpansion copyExpansion delivered
  cases options.json <;> cases e.succeeded && (options.copy || settings.copyResult) <;>
    simp [EStateM.run_bind, run_print, run_warn, run_copy, -bind_pure_comp]

theorem run_forM_print {body : SettingsKey → Action Unit} {text : SettingsKey → Text}
    (hbody : ∀ k r, (body k).run r = .ok () { r with output := r.output ++ text k })
    (keys : List SettingsKey) :
    (keys.forM body).run r = .ok () { r with output := r.output ++ keys.flatMap text } := by
  induction keys generalizing r with
  | nil => simp [List.forM]
  | cons k keys ih =>
    show (body k >>= fun _ => keys.forM body).run r = _
    rw [run_bind_of_ok (hbody k r), ih]
    simp

theorem run_performShow :
    (performShow settings).run r =
      .ok () { r with
        output := r.output ++
          SettingsKey.all.flatMap fun k => line (k.name ++ " = ".toList ++ settings.get k) } := by
  refine run_forM_print (fun k r => ?_) _
  rw [Settings.getByName_name]
  rfl

theorem run_require_bind_eq_ok_iff {α : Type} {condition : Bool} {e : CommandError}
    {f : Unit → Action α} {a : α} :
    (Action.require condition e >>= f).run r = .ok a t ↔
      condition = true ∧ (f ()).run r = .ok a t := by
  cases condition <;> simp [Action.require]

theorem run_store_eq_ok_iff {u : Unit} :
    (Action.store env settings).run r = .ok u t ↔
      env.writable = true ∧ ∃ file, r.settingsFile.save settings = .ok file ∧
        { r with settingsFile := file } = t := by
  rw [Action.store, run_require_bind_eq_ok_iff, EStateM.run_bind, EStateM.run_get]
  simp only [run_ofExcept_bind_eq_ok_iff, mapError_eq_ok_iff, EStateM.run_modify,
    EStateM.Result.ok.injEq, true_and]

theorem run_performChange_eq_ok_iff {name value : Text} {u : Unit} :
    (performChange env settings name value).run r = .ok u t ↔
      env.located = true ∧ ∃ changed, settings.setByName name value = .ok changed ∧
        env.writable = true ∧ ∃ file, r.settingsFile.save changed = .ok file ∧
          { r with
            output := r.output ++ lines env.colors [⟨.success, name ++ " set to ".toList ++ value⟩]
            settingsFile := file } = t := by
  rw [performChange, run_require_bind_eq_ok_iff]
  simp only [run_ofExcept_bind_eq_ok_iff, mapError_eq_ok_iff]
  simp only [run_bind_eq_ok_iff, run_store_eq_ok_iff, run_print]
  constructor
  · rintro ⟨hlocated, changed, hset, _, _, ⟨hwritable, file, hsave, rfl⟩, h⟩
    exact ⟨hlocated, changed, hset, hwritable, file, hsave, (EStateM.Result.ok.inj h).2⟩
  · rintro ⟨hlocated, changed, hset, hwritable, file, hsave, rfl⟩
    exact ⟨hlocated, changed, hset, (), _, ⟨hwritable, file, hsave, rfl⟩, rfl⟩

/-! ## Commands -/

/-- What a command makes of a report with the settings in force, and whether it succeeds. -/
inductive Performs (env : Environment) (settings : Settings) (r : Report) :
    Command → Bool → Report → Prop
  | expand {template : Text} {options : ExpandOptions} {inputs : Inputs}
      (h : expandInputs env settings template options = .ok inputs) :
    Performs env settings r (.expand template options) (expand template inputs).succeeded
      (delivered env settings options (expand template inputs) r)
  | inventory (template : Text) (json : Bool) :
    Performs env settings r (.inventory template json) true
      { r with output := r.output ++ inventoryOutput env json (Inventory.ofTemplate template) }
  | diagnose (template : Text) :
    Performs env settings r (.diagnose template) (Template.problems template).isEmpty
      { r with
        output := r.output ++
          lines env.colors (Template.diagnosisMessages (Template.problems template)) }
  | showSettings :
    Performs env settings r .showSettings true
      { r with
        output := r.output ++
          SettingsKey.all.flatMap fun k => line (k.name ++ " = ".toList ++ settings.get k) }
  | showSetting (k : SettingsKey) :
    Performs env settings r (.showSetting k.name) true
      { r with output := r.output ++ line (settings.get k) }
  | changeSetting {k : SettingsKey} {value : Text} {changed : Settings} {file : SettingsFile}
      (hlocated : env.located = true) (hwritable : env.writable = true)
      (hset : settings.set k value = .ok changed)
      (hsave : r.settingsFile.save changed = .ok file) :
    Performs env settings r (.changeSetting k.name value) true
      { r with
        output := r.output ++
          lines env.colors [⟨.success, k.name ++ " set to ".toList ++ value⟩]
        settingsFile := file }

theorem performWith_eq_ok_iff :
    (performWith env settings command).run r = .ok b t ↔ Performs env settings r command b t := by
  constructor
  · intro h
    cases command with
    | expand template options =>
      obtain ⟨inputs, hinputs, h⟩ := run_ofExcept_bind_eq_ok_iff.mp h
      rw [run_deliverExpansion] at h
      obtain ⟨rfl, rfl⟩ := EStateM.Result.ok.inj h
      exact .expand hinputs
    | inventory template json =>
      obtain ⟨rfl, rfl⟩ := EStateM.Result.ok.inj h
      exact .inventory template json
    | diagnose template =>
      obtain ⟨rfl, rfl⟩ := EStateM.Result.ok.inj h
      exact .diagnose template
    | showSettings =>
      rw [performWith, run_bind_of_ok run_performShow] at h
      obtain ⟨rfl, rfl⟩ := EStateM.Result.ok.inj h
      exact .showSettings
    | showSetting name =>
      obtain ⟨value, hvalue, h⟩ := run_ofExcept_bind_eq_ok_iff.mp h
      obtain ⟨k, rfl, rfl⟩ := Settings.getByName_eq_ok_iff.mp (mapError_eq_ok_iff.mp hvalue)
      obtain ⟨rfl, rfl⟩ := EStateM.Result.ok.inj h
      exact .showSetting k
    | changeSetting name value =>
      obtain ⟨_, r', hchange, h⟩ := run_bind_eq_ok_iff.mp h
      obtain ⟨hlocated, changed, hset, hwritable, file, hsave, rfl⟩ :=
        run_performChange_eq_ok_iff.mp hchange
      obtain ⟨k, rfl, hk⟩ := Settings.setByName_eq_ok_iff.mp hset
      obtain ⟨rfl, rfl⟩ := EStateM.Result.ok.inj h
      exact .changeSetting hlocated hwritable hk hsave
  · intro h
    cases h with
    | expand hinputs =>
      exact run_ofExcept_bind_eq_ok_iff.mpr ⟨_, hinputs, run_deliverExpansion _ _⟩
    | inventory template json => rfl
    | diagnose template => rfl
    | showSettings => exact run_bind_of_ok run_performShow
    | showSetting k =>
      exact run_ofExcept_bind_eq_ok_iff.mpr
        ⟨_, mapError_eq_ok_iff.mpr (settings.getByName_name k), rfl⟩
    | changeSetting hlocated hwritable hset hsave =>
      refine run_bind_eq_ok_iff.mpr ⟨(), _, run_performChange_eq_ok_iff.mpr ?_, rfl⟩
      exact ⟨hlocated, _, Settings.setByName_eq_ok_iff.mpr ⟨_, rfl, hset⟩, hwritable, _, hsave, rfl⟩

/-- A command that does not fail does what `Performs` says, with the settings in force. -/
theorem perform_eq_ok_iff (hr : r.settingsFile = env.settingsFile) :
    (perform env command).run r = .ok b t ↔
      ∃ settings, env.Loads settings ∧ Performs env settings r command b t := by
  rw [perform, run_bind_eq_ok_iff]
  constructor
  · rintro ⟨settings, r', hload, h⟩
    obtain ⟨hsettings, rfl⟩ := (run_settings_eq_ok_iff hr).mp hload
    exact ⟨settings, hsettings, performWith_eq_ok_iff.mp h⟩
  · rintro ⟨settings, hload, h⟩
    exact ⟨settings, r, (run_settings_eq_ok_iff hr).mpr ⟨hload, rfl⟩, performWith_eq_ok_iff.mpr h⟩

theorem Performs.exitCode_eq (h : Performs env settings r command b t) :
    t.exitCode = r.exitCode := by
  cases h <;> rfl

/-- Only a change of a setting writes to the settings file. -/
theorem Performs.settingsFile_cases (h : Performs env settings r command b t) :
    (t.settingsFile = r.settingsFile ∧ ∀ name value, command ≠ .changeSetting name value) ∨
      ∃ k value changed, command = .changeSetting k.name value ∧ b = true ∧
        settings.set k value = .ok changed ∧ r.settingsFile.save changed = .ok t.settingsFile := by
  cases h with
  | expand hinputs => exact .inl ⟨rfl, nofun⟩
  | inventory template json => exact .inl ⟨rfl, nofun⟩
  | diagnose template => exact .inl ⟨rfl, nofun⟩
  | showSettings => exact .inl ⟨rfl, nofun⟩
  | showSetting k => exact .inl ⟨rfl, nofun⟩
  | changeSetting hlocated hwritable hset hsave => exact .inr ⟨_, _, _, rfl, rfl, hset, hsave⟩

/-! ## Reports -/

variable {invocation : Invocation}

theorem run_of_performs (hsettings : env.Loads settings)
    (h : Performs env settings (env.start invocation.logLevel) invocation.command b t) :
    run env invocation = { t with exitCode := if b then 0 else 1 } := by
  have hrun := (perform_eq_ok_iff rfl).mpr ⟨settings, hsettings, h⟩
  have hexit : t.exitCode = 0 := h.exitCode_eq
  rw [run, hrun]
  cases b with
  | true => simp [← hexit]
  | false => rfl

/-- Only a command that succeeds exits with 0. -/
theorem performs_of_exitCode_eq_zero (h : (run env invocation).exitCode = 0) :
    ∃ settings, env.Loads settings ∧
      Performs env settings (env.start invocation.logLevel) invocation.command true
        (run env invocation) := by
  cases hrun : (perform env invocation.command).run (env.start invocation.logLevel) with
  | error e report => simp [run, hrun] at h
  | ok b report =>
    cases b with
    | false => simp [run, hrun] at h
    | true =>
      obtain ⟨settings, hsettings, hperforms⟩ := (perform_eq_ok_iff rfl).mp hrun
      refine ⟨settings, hsettings, ?_⟩
      rwa [run, hrun]

end LinkTemplate.CommandLine
