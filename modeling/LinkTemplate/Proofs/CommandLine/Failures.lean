import LinkTemplate.Proofs.CommandLine.Commands

/-!
# Failing commands

`Refuses` lists why a command fails : exactly for these reasons (`fails_perform_iff`). All of them
are found before the command prints, copies or stores anything (`atomic_perform`), so that a
command that fails leaves nothing but its error.
-/

namespace LinkTemplate.CommandLine

variable {env : Environment} {settings : Settings} {r t : Report} {command : Command}
  {e : CommandError}

/-- The reasons for which a command fails. -/
inductive Refuses (env : Environment) : Command → CommandError → Prop
  /-- The settings file cannot be read. -/
  | unreadable {command : Command} (hlocated : env.located = true)
      (hfile : env.settingsFile = .directory) :
    Refuses env command (.settings .inaccessible env.fileReason)
  /-- The text of the settings file stands for no settings. -/
  | malformed {command : Command} {t : Text} (hlocated : env.located = true)
      (hfile : env.settingsFile = .text t) (ht : Settings.parse? t = none) :
    Refuses env command (.settings .malformed env.fileReason)
  /-- The first value of an argument without an equals sign. -/
  | binding {template text : Text} {options : ExpandOptions} {settings : Settings}
      (hsettings : env.Loads settings)
      (htext : options.arguments.find? (fun t => '=' ∉ t) = some text) :
    Refuses env (.expand template options) (.badBinding text)
  | reference {template text : Text} {options : ExpandOptions} {settings : Settings}
      {reason : Rfc3339.ReadError} (hsettings : env.Loads settings)
      (harguments : ∀ t ∈ options.arguments, '=' ∈ t) (htext : options.reference = some text)
      (hread : Rfc3339.read text = .error reason) :
    Refuses env (.expand template options) (.badReference text reason)
  | unknownKey {name : Text} {settings : Settings} (hsettings : env.Loads settings)
      (hname : ∀ k : SettingsKey, k.name ≠ name) :
    Refuses env (.showSetting name) (.settings (.unknownKey name))
  | noDirectory {name value : Text} (hlocated : env.located = false) :
    Refuses env (.changeSetting name value) .noDirectory
  | unknownKeyChanged {name value : Text} {settings : Settings} (hlocated : env.located = true)
      (hsettings : env.Loads settings) (hname : ∀ k : SettingsKey, k.name ≠ name) :
    Refuses env (.changeSetting name value) (.settings (.unknownKey name))
  /-- A switch with a value that is none of its words. -/
  | badSwitch {k : SettingsKey} {value : Text} {settings : Settings}
      (hlocated : env.located = true) (hsettings : env.Loads settings)
      (hvalue : k.isSwitch = true ∧ readSwitch? value = none) :
    Refuses env (.changeSetting k.name value) (.settings (.badSwitch k value))
  | unwritable {name value : Text} {settings changed : Settings} (hlocated : env.located = true)
      (hsettings : env.Loads settings) (hset : settings.setByName name value = .ok changed)
      (hwritable : env.writable = false) :
    Refuses env (.changeSetting name value) (.settings .inaccessible env.fileReason)

/-! ## The options of an expansion -/

theorem parseBinding_eq_error_iff {text : Text} :
    parseBinding text = .error e ↔ '=' ∉ text ∧ .badBinding text = e := by
  rw [← Text.cut?_eq_none_iff, parseBinding]
  cases Text.cut? '=' text <;> simp

/-- Of several values without an equals sign the first is reported. -/
theorem mapM_parseBinding_eq_error_iff {texts : List Text} :
    texts.mapM parseBinding = .error e ↔
      ∃ text, texts.find? (fun t => '=' ∉ t) = some text ∧ .badBinding text = e := by
  induction texts with
  | nil => simp [List.mapM_nil, pure, Except.pure]
  | cons text texts ih =>
    rw [List.mapM_cons, bind_eq_error_iff]
    by_cases h : '=' ∈ text
    · rw [List.find?_cons_of_neg (by simpa using h), ← ih]
      cases hbinding : parseBinding text with
      | error e' => exact absurd h (parseBinding_eq_error_iff.mp hbinding).1
      | ok binding => simp [bind_eq_error_iff, pure, Except.pure]
    · rw [List.find?_cons_of_pos (by simpa using h),
        parseBinding_eq_error_iff.mpr ⟨h, rfl⟩]
      simp

theorem parseBindings_eq_error_iff {texts : List Text} :
    parseBindings texts = .error e ↔
      ∃ text, texts.find? (fun t => '=' ∉ t) = some text ∧ .badBinding text = e := by
  rw [← mapM_parseBinding_eq_error_iff, parseBindings, bind_eq_error_iff]
  simp [pure, Except.pure]

theorem exists_parseBindings_eq_ok_iff {texts : List Text} :
    (∃ bindings, parseBindings texts = .ok bindings) ↔ ∀ t ∈ texts, '=' ∈ t := by
  have hnone : (∀ t ∈ texts, '=' ∈ t) ↔ texts.find? (fun t => '=' ∉ t) = none := by simp
  rw [hnone]
  cases hbindings : parseBindings texts with
  | ok bindings =>
    cases hfind : texts.find? (fun t => '=' ∉ t) with
    | none => simp
    | some text =>
      have := parseBindings_eq_error_iff.mpr ⟨text, hfind, rfl⟩
      simp [hbindings] at this
  | error e =>
    obtain ⟨text, hfind, -⟩ := parseBindings_eq_error_iff.mp hbindings
    simp only [hfind, reduceCtorEq, exists_false]

theorem parseReference_eq_error_iff {now : Instant} {reference : Option Text} :
    parseReference now reference = .error e ↔
      ∃ text reason, reference = some text ∧ Rfc3339.read text = .error reason ∧
        .badReference text reason = e := by
  cases reference with
  | none => simp [parseReference]
  | some text => cases hread : Rfc3339.read text <;> simp [parseReference, hread]

theorem expandInputs_eq_error_iff {template : Text} {options : ExpandOptions} :
    expandInputs env settings template options = .error e ↔
      (∃ text, options.arguments.find? (fun t => '=' ∉ t) = some text ∧ .badBinding text = e) ∨
        (∀ t ∈ options.arguments, '=' ∈ t) ∧
          ∃ text reason, options.reference = some text ∧ Rfc3339.read text = .error reason ∧
            .badReference text reason = e := by
  rw [expandInputs, bind_eq_error_iff, parseBindings_eq_error_iff, ← exists_parseBindings_eq_ok_iff,
    ← @parseReference_eq_error_iff e env.now]
  simp [bind_eq_error_iff, pure, Except.pure]

/-! ## The reasons are exact -/

theorem fails_settings_iff (hr : r.settingsFile = env.settingsFile) :
    Fails (Action.settings env) r e ↔
      env.located = true ∧
        ∃ e', env.settingsFile.load = .error e' ∧ .settings e' env.fileReason = e := by
  unfold Action.settings
  cases env.located with
  | true =>
    rw [← mapError_eq_error_iff, ← hr]
    exact (fails_ofExcept_iff (s := r)).trans (by simp)
  | false => simpa using NeverFails.pure ({} : Settings) r e

theorem fails_require_bind_iff {α : Type} {condition : Bool} {e' : CommandError}
    {f : Unit → Action α} :
    Fails (Action.require condition e' >>= f) r e ↔
      (condition = false ∧ e' = e) ∨ condition = true ∧ Fails (f ()) r e := by
  cases condition <;> simp [Action.require, Fails]

theorem fails_store_iff (hr : r.settingsFile ≠ .directory) :
    Fails (Action.store env settings) r e ↔
      env.writable = false ∧ .settings .inaccessible env.fileReason = e := by
  have hsave : r.settingsFile.save settings = .ok (.text settings.render) :=
    SettingsFile.save_eq_ok_iff.mpr ⟨hr, rfl⟩
  rw [Action.store, fails_require_bind_iff, fails_get_bind_iff, fails_ofExcept_bind_iff]
  simp [mapError_eq_error_iff, hsave, Fails]

theorem fails_performChange_iff {name value : Text}
    (hr : env.located = true → r.settingsFile ≠ .directory) :
    Fails (performChange env settings name value) r e ↔
      (env.located = false ∧ .noDirectory = e) ∨ env.located = true ∧
        ((∃ e', settings.setByName name value = .error e' ∧ .settings e' = e) ∨
          ∃ changed, settings.setByName name value = .ok changed ∧
            env.writable = false ∧ .settings .inaccessible env.fileReason = e) := by
  rw [performChange, fails_require_bind_iff]
  refine or_congr_right (and_congr_right fun hlocated => ?_)
  rw [fails_ofExcept_bind_iff]
  simp only [mapError_eq_error_iff, mapError_eq_ok_iff, fails_bind_iff, fails_store_iff (hr hlocated)]
  simp [Fails, run_print]

theorem neverFails_deliverExpansion (options : ExpandOptions) (e : Expansion) :
    NeverFails (deliverExpansion env settings options e) :=
  .of_run_eq_ok fun _ => run_deliverExpansion options e

theorem neverFails_performShow : NeverFails (performShow settings) :=
  .of_run_eq_ok fun _ => run_performShow

theorem Environment.Loads.ne_directory (h : env.Loads settings) (hlocated : env.located = true) :
    env.settingsFile ≠ .directory := by
  intro hfile
  simp [Loads, hlocated, hfile, SettingsFile.load] at h

theorem refuses_of_fails (hr : r.settingsFile = env.settingsFile)
    (h : Fails (perform env command) r e) : Refuses env command e := by
  rw [perform, fails_bind_iff, fails_settings_iff hr] at h
  rcases h with ⟨hlocated, e', hload, rfl⟩ | ⟨settings, r', hload, h⟩
  · rcases SettingsFile.load_eq_error_iff.mp hload with ⟨hfile, rfl⟩ | ⟨t, hfile, ht, rfl⟩
    · exact .unreadable hlocated hfile
    · exact .malformed hlocated hfile ht
  obtain ⟨hsettings, rfl⟩ := (run_settings_eq_ok_iff hr).mp hload
  cases command with
  | expand template options =>
    rcases fails_ofExcept_bind_iff.mp h with h | ⟨inputs, -, h⟩
    · rcases expandInputs_eq_error_iff.mp h with
        ⟨text, htext, rfl⟩ | ⟨harguments, text, reason, htext, hread, rfl⟩
      · exact .binding hsettings htext
      · exact .reference hsettings harguments htext hread
    · exact absurd h (neverFails_deliverExpansion _ _ _ _)
  | inventory template json =>
    obtain ⟨_, ⟨⟩⟩ := h
  | diagnose template =>
    obtain ⟨_, ⟨⟩⟩ := h
  | showSettings =>
    rcases fails_bind_iff.mp h with h | ⟨_, _, -, _, ⟨⟩⟩
    exact absurd h (neverFails_performShow _ _)
  | showSetting name =>
    rcases fails_ofExcept_bind_iff.mp h with h | ⟨_, -, _, ⟨⟩⟩
    obtain ⟨e', hget, rfl⟩ := mapError_eq_error_iff.mp h
    obtain ⟨hname, rfl⟩ := Settings.getByName_eq_error_iff.mp hget
    exact .unknownKey hsettings hname
  | changeSetting name value =>
    rcases fails_bind_iff.mp h with h | ⟨_, _, -, _, ⟨⟩⟩
    rw [fails_performChange_iff fun hlocated => hr ▸ hsettings.ne_directory hlocated] at h
    rcases h with ⟨hlocated, rfl⟩ | ⟨hlocated, ⟨e', hset, rfl⟩ | ⟨changed, hset, hwritable, rfl⟩⟩
    · exact .noDirectory hlocated
    · rcases Settings.setByName_eq_error_iff.mp hset with ⟨hname, rfl⟩ | ⟨k, rfl, hvalue, rfl⟩
      · exact .unknownKeyChanged hlocated hsettings hname
      · exact .badSwitch hlocated hsettings hvalue
    · exact .unwritable hlocated hsettings hset hwritable

theorem fails_perform_of_loads (hr : r.settingsFile = env.settingsFile)
    (hsettings : env.Loads settings) (h : Fails (performWith env settings command) r e) :
    Fails (perform env command) r e :=
  fails_bind_iff.mpr (.inr ⟨settings, r, (run_settings_eq_ok_iff hr).mpr ⟨hsettings, rfl⟩, h⟩)

theorem fails_of_refuses (hr : r.settingsFile = env.settingsFile) (h : Refuses env command e) :
    Fails (perform env command) r e := by
  have hchange {settings : Settings} (hsettings : env.Loads settings) {name value : Text} :=
    @fails_performChange_iff env settings r e name value fun hlocated =>
      hr ▸ hsettings.ne_directory hlocated
  cases h with
  | unreadable hlocated hfile =>
    exact fails_bind_iff.mpr (.inl ((fails_settings_iff hr).mpr
      ⟨hlocated, _, SettingsFile.load_eq_error_iff.mpr (.inl ⟨hfile, rfl⟩), rfl⟩))
  | malformed hlocated hfile ht =>
    exact fails_bind_iff.mpr (.inl ((fails_settings_iff hr).mpr
      ⟨hlocated, _, SettingsFile.load_eq_error_iff.mpr (.inr ⟨_, hfile, ht, rfl⟩), rfl⟩))
  | binding hsettings htext =>
    exact fails_perform_of_loads hr hsettings (fails_ofExcept_bind_iff.mpr
      (.inl (expandInputs_eq_error_iff.mpr (.inl ⟨_, htext, rfl⟩))))
  | reference hsettings harguments htext hread =>
    exact fails_perform_of_loads hr hsettings (fails_ofExcept_bind_iff.mpr
      (.inl (expandInputs_eq_error_iff.mpr (.inr ⟨harguments, _, _, htext, hread, rfl⟩))))
  | unknownKey hsettings hname =>
    exact fails_perform_of_loads hr hsettings (fails_ofExcept_bind_iff.mpr
      (.inl (mapError_eq_error_iff.mpr
        ⟨_, Settings.getByName_eq_error_iff.mpr ⟨hname, rfl⟩, rfl⟩)))
  | noDirectory hlocated =>
    have hsettings : env.Loads {} := by simp [Environment.Loads, hlocated]
    exact fails_perform_of_loads hr hsettings
      (fails_bind_iff.mpr (.inl ((hchange hsettings).mpr (.inl ⟨hlocated, rfl⟩))))
  | unknownKeyChanged hlocated hsettings hname =>
    refine fails_perform_of_loads hr hsettings
      (fails_bind_iff.mpr (.inl ((hchange hsettings).mpr (.inr ⟨hlocated, .inl ⟨_, ?_, rfl⟩⟩))))
    exact Settings.setByName_eq_error_iff.mpr (.inl ⟨hname, rfl⟩)
  | badSwitch hlocated hsettings hvalue =>
    refine fails_perform_of_loads hr hsettings
      (fails_bind_iff.mpr (.inl ((hchange hsettings).mpr (.inr ⟨hlocated, .inl ⟨_, ?_, rfl⟩⟩))))
    exact Settings.setByName_eq_error_iff.mpr (.inr ⟨_, rfl, hvalue, rfl⟩)
  | unwritable hlocated hsettings hset hwritable =>
    exact fails_perform_of_loads hr hsettings (fails_bind_iff.mpr (.inl
      ((hchange hsettings).mpr (.inr ⟨hlocated, .inr ⟨_, hset, hwritable, rfl⟩⟩))))

/-- A command fails for the listed reasons and no others. -/
theorem fails_perform_iff (hr : r.settingsFile = env.settingsFile) :
    Fails (perform env command) r e ↔ Refuses env command e :=
  ⟨refuses_of_fails hr, fails_of_refuses hr⟩

/-! ## What a failing command leaves -/

theorem readOnly_settings (env : Environment) : ReadOnly (Action.settings env) := by
  unfold Action.settings
  split
  · exact .bind .get fun _ => .ofExcept _
  · exact .pure _

theorem readOnly_require (condition : Bool) (e : CommandError) :
    ReadOnly (Action.require condition e) := by
  cases condition
  · exact .throw e
  · exact .pure ()

theorem atomic_store (env : Environment) (settings : Settings) :
    Atomic (Action.store env settings) :=
  .bind_of_readOnly (readOnly_require _ _) fun _ => .bind_of_readOnly .get fun _ =>
    .bind_of_readOnly (.ofExcept _) fun _ => (NeverFails.modify _).atomic

theorem atomic_performChange (env : Environment) (settings : Settings) (name value : Text) :
    Atomic (performChange env settings name value) :=
  .bind_of_readOnly (readOnly_require _ _) fun _ => .bind_of_readOnly (.ofExcept _) fun _ =>
    .bind_of_neverFails (atomic_store _ _) fun _ => .modify _

/-- In each command all that can fail comes in front of what it prints, copies and stores. -/
theorem atomic_perform (env : Environment) (command : Command) : Atomic (perform env command) := by
  refine .bind_of_readOnly (readOnly_settings env) fun settings => ?_
  cases command with
  | expand template options =>
    exact .bind_of_readOnly (.ofExcept _) fun _ => (neverFails_deliverExpansion _ _).atomic
  | inventory template json => exact ((NeverFails.modify _).bind fun _ => .pure _).atomic
  | diagnose template => exact ((NeverFails.modify _).bind fun _ => .pure _).atomic
  | showSettings => exact (neverFails_performShow.bind fun _ => .pure _).atomic
  | showSetting name =>
    exact .bind_of_readOnly (.ofExcept _) fun _ =>
      ((NeverFails.modify _).bind fun _ => .pure _).atomic
  | changeSetting name value =>
    exact .bind_of_neverFails (atomic_performChange env settings name value) fun _ => .pure _

variable {invocation : Invocation}

/-- All that is left of a command that fails is its error. -/
theorem run_of_fails (h : Fails (perform env invocation.command) (env.start invocation.logLevel) e) :
    run env invocation =
      { errorOutput := logLevelWarning invocation.logLevel ++ line ("Error: ".toList ++ e.message)
        exitCode := 1
        settingsFile := env.settingsFile } := by
  obtain ⟨report, hrun⟩ := h
  have hreport := atomic_perform _ _ _ _ _ hrun
  subst hreport
  rw [run, hrun]
  rfl

/-- A command that ends without success copies and stores nothing. -/
theorem Performs.eq_of_false (h : Performs env settings r command false t) :
    t.copied = r.copied ∧ t.settingsFile = r.settingsFile := by
  generalize hb : false = b at h
  cases h with
  | expand hinputs => simp [delivered, ← hb]
  | inventory template json => exact ⟨rfl, rfl⟩
  | diagnose template => exact ⟨rfl, rfl⟩
  | showSettings => exact ⟨rfl, rfl⟩
  | showSetting k => exact ⟨rfl, rfl⟩
  | changeSetting hlocated hwritable hset hsave => cases hb

theorem run_of_performs_false (hsettings : env.Loads settings)
    (h : Performs env settings (env.start invocation.logLevel) invocation.command false t) :
    (run env invocation).exitCode = 1 ∧ (run env invocation).copied = none ∧
      (run env invocation).settingsFile = env.settingsFile := by
  rw [run_of_performs hsettings h]
  exact ⟨rfl, h.eq_of_false⟩

/-- Whatever makes a command exit with a failure, it copies nothing and leaves the settings file
as it is. -/
theorem run_of_exitCode_ne_zero (h : (run env invocation).exitCode ≠ 0) :
    (run env invocation).exitCode = 1 ∧ (run env invocation).copied = none ∧
      (run env invocation).settingsFile = env.settingsFile := by
  cases hrun : (perform env invocation.command).run (env.start invocation.logLevel) with
  | error e report =>
    rw [run_of_fails ⟨report, hrun⟩]
    exact ⟨rfl, rfl, rfl⟩
  | ok b report =>
    obtain ⟨settings, hsettings, hperforms⟩ := (perform_eq_ok_iff rfl).mp hrun
    cases b with
    | true =>
      rw [run_of_performs hsettings hperforms] at h
      exact absurd rfl h
    | false => exact run_of_performs_false hsettings hperforms

/-- A command fails for the reasons of `Refuses` and no others, and then all that is left of it is
its error : it prints nothing, copies nothing and leaves the settings file as it is. An expansion
that misses arguments or has placeholders that cannot be read copies and stores nothing either,
and neither does any other command that exits with a failure. -/
theorem failed_run_has_no_effect (env : Environment) (invocation : Invocation) :
    (∀ e, Fails (perform env invocation.command) (env.start invocation.logLevel) e ↔
      Refuses env invocation.command e) ∧
    (∀ e, Refuses env invocation.command e → run env invocation =
      { output := []
        errorOutput := logLevelWarning invocation.logLevel ++ line ("Error: ".toList ++ e.message)
        exitCode := 1
        copied := none
        settingsFile := env.settingsFile }) ∧
    (∀ template options settings inputs, invocation.command = .expand template options →
      env.Loads settings → expandInputs env settings template options = .ok inputs →
      (expand template inputs).missing ≠ [] ∨ (expand template inputs).defects ≠ [] →
      (run env invocation).exitCode = 1 ∧ (run env invocation).copied = none ∧
        (run env invocation).settingsFile = env.settingsFile) ∧
    ((run env invocation).exitCode ≠ 0 →
      (run env invocation).exitCode = 1 ∧ (run env invocation).copied = none ∧
        (run env invocation).settingsFile = env.settingsFile) := by
  refine ⟨fun e => fails_perform_iff rfl, fun e h => run_of_fails (fails_of_refuses rfl h),
    fun template options settings inputs hcommand hsettings hinputs hunsuccessful => ?_,
    run_of_exitCode_ne_zero⟩
  have hfalse : (expand template inputs).succeeded = false := by
    rw [Expansion.succeeded, Bool.and_eq_false_iff]
    simpa using hunsuccessful
  have hperforms := Performs.expand (r := env.start invocation.logLevel) hinputs
  rw [hfalse, ← hcommand] at hperforms
  exact run_of_performs_false hsettings hperforms

/-- Although the settings and an option ask for a copy and a tool would take it, neither a value
without an equals sign nor a missing argument lets anything be copied. -/
theorem failed_run_has_no_effect_copy :
    let env : Environment := {
      settingsFile := .text ({ copyResult := true } : Settings).render
      desktop := { xclip := some {} } }
    let template := "{argument name=x}".toList
    let malformed : Invocation :=
      { command := .expand template { arguments := ["x".toList], copy := true } }
    let incomplete : Invocation := { command := .expand template { copy := true } }
    run env malformed =
      { output := []
        errorOutput := line ("Error: Invalid input: Argument must be NAME=VALUE, got: x".toList)
        exitCode := 1
        copied := none
        settingsFile := env.settingsFile } ∧
    (run env incomplete).exitCode = 1 ∧ (run env incomplete).copied = none ∧
    (run env incomplete).settingsFile = env.settingsFile ∧
    (run {} incomplete).copied = none := by
  intro env template malformed incomplete
  have hsettings : env.Loads { copyResult := true } := SettingsFile.load_text_render _
  have hbinding : ["x".toList].find? (fun t => '=' ∉ t) = some "x".toList := by decide
  have hrefuses : Refuses env malformed.command (.badBinding "x".toList) :=
    .binding hsettings hbinding
  obtain ⟨hexit, hcopied, hfile⟩ :=
    (failed_run_has_no_effect env incomplete).2.2.1 template _ _ _ rfl hsettings rfl (by decide)
  refine ⟨(failed_run_has_no_effect env malformed).2.1 _ hrefuses, hexit, hcopied, hfile, ?_⟩
  exact ((failed_run_has_no_effect {} incomplete).2.2.2 (by decide)).2.1

end LinkTemplate.CommandLine
