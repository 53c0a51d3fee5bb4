import LinkTemplate.Proofs.Effects
import LinkTemplate.Proofs.Settings.Storage
import LinkTemplate.Proofs.Settings.Values
import LinkTemplate.Settings.Session

/-!
# Runs of a session

What the steps of a session do to the settings and to the file (`eq_of_advance_set` and the like),
and what is left of it behind more steps. A step that fails does nothing (`atomic_perform`); the
file keeps what was saved until the next save (`file_run`), and a key the value that it was given
last (`get_run`).
-/

namespace LinkTemplate.Session

variable {x y : Session} {s : Step} {shown : Option Text}

/-! ## One step -/

/-- In each step everything that can fail comes in front of the change. -/
theorem atomic_perform (s : Step) : Atomic (perform s) := by
  cases s with
  | get name =>
    exact .bind_of_readOnly .get fun _ => .bind_of_readOnly (.ofExcept _) fun _ =>
      (NeverFails.pure _).atomic
  | set name value =>
    exact .bind_of_readOnly .get fun _ => .bind_of_readOnly (.ofExcept _) fun _ =>
      ((NeverFails.modify _).bind fun _ => .pure _).atomic
  | save =>
    exact .bind_of_readOnly .get fun _ => .bind_of_readOnly (.ofExcept _) fun _ =>
      ((NeverFails.modify _).bind fun _ => .pure _).atomic
  | load =>
    exact .bind_of_readOnly .get fun _ => .bind_of_readOnly (.ofExcept _) fun _ =>
      ((NeverFails.modify _).bind fun _ => .pure _).atomic

/-- A step that looks for something that may not be there and then only uses it. -/
theorem advance_eq_map {α : Type} {found : Except SettingsError α}
    {use : α → EStateM SettingsError Session (Option Text)} {next : α → Session × Option Text}
    (hperform : (perform s).run x = (ofExcept found >>= use).run x)
    (huse : ∀ a, (use a).run x = .ok (next a).2 (next a).1) :
    x.advance s = found.map next := by
  rw [advance, hperform]
  cases found with
  | ok a =>
    rw [run_bind_of_ok (run_ofExcept_ok a x), huse]
    rfl
  | error e =>
    rw [run_bind_of_error (run_ofExcept_error e x)]
    rfl

theorem advance_get (name : Text) :
    x.advance (.get name) = (x.settings.getByName name).map fun value => (x, some value) :=
  advance_eq_map rfl fun _ => rfl

theorem advance_set (name value : Text) :
    x.advance (.set name value) =
      (x.settings.setByName name value).map fun settings => ({ x with settings }, none) :=
  advance_eq_map rfl fun _ => rfl

theorem advance_save :
    x.advance .save = (x.file.save x.settings).map fun file => ({ x with file }, file.text?) :=
  advance_eq_map rfl fun _ => rfl

theorem advance_load :
    x.advance .load = x.file.load.map fun settings => ({ x with settings }, none) :=
  advance_eq_map rfl fun _ => rfl

theorem step_of_ok (h : x.advance s = .ok (y, shown)) : x.step s = y := by
  unfold advance at h
  unfold step
  cases hrun : (perform s).run x with
  | ok _ next =>
    rw [hrun] at h
    exact (Prod.mk.inj (Except.ok.inj h)).1
  | error e next => simp [hrun] at h

theorem step_of_error {e : SettingsError} (h : x.advance s = .error e) : x.step s = x := by
  unfold advance at h
  unfold step
  cases hrun : (perform s).run x with
  | ok _ next => simp [hrun] at h
  | error e' next => exact atomic_perform s _ _ _ hrun

theorem advance_get_name (k : SettingsKey) :
    x.advance (.get k.name) = .ok (x, some (x.settings.get k)) := by
  rw [advance_get, Settings.getByName_name]
  rfl

theorem eq_of_advance_get {name : Text} (h : x.advance (.get name) = .ok (y, shown)) :
    y = x ∧ ∃ k : SettingsKey, k.name = name ∧ shown = some (x.settings.get k) := by
  rw [advance_get] at h
  cases hget : x.settings.getByName name with
  | error e => simp [hget, Except.map] at h
  | ok value =>
    obtain ⟨k, hname, rfl⟩ := Settings.getByName_eq_ok_iff.mp hget
    rw [hget] at h
    obtain ⟨rfl, rfl⟩ := Prod.mk.inj (Except.ok.inj h)
    exact ⟨rfl, k, hname, rfl⟩

theorem eq_of_advance_set {name value : Text} (h : x.advance (.set name value) = .ok (y, shown)) :
    y.file = x.file ∧ ∃ k : SettingsKey, k.name = name ∧ x.settings.set k value = .ok y.settings := by
  rw [advance_set] at h
  cases hset : x.settings.setByName name value with
  | error e => simp [hset, Except.map] at h
  | ok settings =>
    obtain ⟨k, hname, hk⟩ := Settings.setByName_eq_ok_iff.mp hset
    rw [hset] at h
    obtain ⟨rfl, -⟩ := Prod.mk.inj (Except.ok.inj h)
    exact ⟨rfl, k, hname, hk⟩

theorem eq_of_advance_save (h : x.advance .save = .ok (y, shown)) :
    y.settings = x.settings ∧ x.file.save x.settings = .ok y.file := by
  rw [advance_save] at h
  cases hsave : x.file.save x.settings with
  | error e => simp [hsave, Except.map] at h
  | ok file =>
    rw [hsave] at h
    obtain ⟨rfl, -⟩ := Prod.mk.inj (Except.ok.inj h)
    exact ⟨rfl, rfl⟩

theorem eq_of_advance_load (h : x.advance .load = .ok (y, shown)) :
    y.file = x.file ∧ x.file.load = .ok y.settings := by
  rw [advance_load] at h
  cases hload : x.file.load with
  | error e => simp [hload, Except.map] at h
  | ok settings =>
    rw [hload] at h
    obtain ⟨rfl, -⟩ := Prod.mk.inj (Except.ok.inj h)
    exact ⟨rfl, rfl⟩

theorem advance_load_of_load {settings : Settings} (h : x.file.load = .ok settings) :
    x.advance .load = .ok ({ x with settings }, none) := by
  rw [advance_load, h]
  rfl

/-! ## The file in a run -/

/-- Only saving writes to the file. -/
theorem file_step (hs : s ≠ .save) : (x.step s).file = x.file := by
  cases h : x.advance s with
  | error e => rw [step_of_error h]
  | ok next =>
    rw [step_of_ok h]
    cases s with
    | get name => rw [(eq_of_advance_get h).1]
    | set name value => exact (eq_of_advance_set h).1
    | save => exact absurd rfl hs
    | load => exact (eq_of_advance_load h).1

theorem file_run {steps : List Step} (hsteps : .save ∉ steps) : (x.run steps).file = x.file := by
  induction steps generalizing x with
  | nil => rfl
  | cons s steps ih =>
    rw [List.mem_cons, not_or] at hsteps
    exact (ih hsteps.2).trans (file_step (Ne.symm hsteps.1))

/-- What was saved is loaded, whatever came between but another save. -/
theorem advance_load_run_of_save (h : x.advance .save = .ok (y, shown)) {steps : List Step}
    (hsteps : .save ∉ steps) :
    (y.run steps).advance .load =
      .ok ({ y.run steps with settings := x.settings }, none) := by
  apply advance_load_of_load
  rw [file_run hsteps]
  exact SettingsFile.load_of_save (eq_of_advance_save h).2

/-! ## The values in a run -/

/-- The value that a step gives to a key, if it succeeds and gives it one. -/
def assigned? (k : SettingsKey) (x : Session) : Step → Option Text
  | .get _ | .save => none
  | .set name value =>
    if name = k.name ∧ (x.advance (.set name value)).isOk then some (k.canonical value) else none
  | .load => x.file.load.toOption.map (·.get k)

/-- The value that a sequence of steps gives to a key last. -/
def lastAssigned? (k : SettingsKey) : Session → List Step → Option Text :=
  lastGiven? step (assigned? k)

theorem get_of_advance_set {name value : Text} (h : x.advance (.set name value) = .ok (y, shown))
    (k : SettingsKey) :
    y.settings.get k = if name = k.name then k.canonical value else x.settings.get k := by
  obtain ⟨-, k', rfl, hset⟩ := eq_of_advance_set h
  by_cases hk : k' = k
  · subst hk
    rw [if_pos rfl, Settings.get_set hset]
  · rw [if_neg fun hname => hk (SettingsKey.name_injective hname),
      Settings.get_set_of_ne hset (Ne.symm hk)]

theorem get_step (k : SettingsKey) :
    (x.step s).settings.get k = (assigned? k x s).getD (x.settings.get k) := by
  cases h : x.advance s with
  | error e =>
    rw [step_of_error h]
    cases s with
    | get name => rfl
    | set name value => simp [assigned?, h, Except.isOk, Except.toBool]
    | save => rfl
    | load =>
      rw [advance_load] at h
      cases hload : x.file.load with
      | error e => simp [assigned?, hload, Except.toOption]
      | ok settings => simp [hload, Except.map] at h
  | ok next =>
    rw [step_of_ok h]
    cases s with
    | get name =>
      rw [(eq_of_advance_get h).1]
      rfl
    | set name value =>
      rw [get_of_advance_set h, assigned?, h]
      split <;> simp_all [Except.isOk, Except.toBool]
    | save =>
      rw [(eq_of_advance_save h).1]
      rfl
    | load => simp [assigned?, (eq_of_advance_load h).2, Except.toOption]

/-- A key has the value that it was given last, or else the one that it had. -/
theorem get_run (k : SettingsKey) (steps : List Step) :
    (x.run steps).settings.get k = (lastAssigned? k x steps).getD (x.settings.get k) := by
  induction steps generalizing x with
  | nil => rfl
  | cons s steps ih =>
    rw [lastAssigned?, getD_lastGiven?_cons, ← get_step]
    exact ih

/-- To set a key to the value that it has succeeds and changes nothing. -/
theorem advance_set_get (k : SettingsKey) :
    x.advance (.set k.name (x.settings.get k)) = .ok (x, none) := by
  rw [advance_set, Settings.setByName_name, Settings.set_get]
  rfl

/-! ## The laws of the store -/

/-- The settings and their file, from any session on and so at any point of a run : a step that
fails changes neither; what is saved is what is loaded until the next save; a key shows the value
that it was given last and is changed under its own name only; and to set a key to what it shows
changes nothing. -/
theorem store_laws (x : Session) :
    (∀ s e, x.advance s = .error e → x.step s = x) ∧
    (∀ y shown steps, x.advance .save = .ok (y, shown) → .save ∉ steps →
      (y.run steps).advance .load = .ok ({ y.run steps with settings := x.settings }, none)) ∧
    (∀ steps k, (x.run steps).advance (.get k.name) =
      .ok (x.run steps, some ((lastAssigned? k x steps).getD (x.settings.get k)))) ∧
    (∀ name value y shown, x.advance (.set name value) = .ok (y, shown) →
      y.file = x.file ∧ ∀ k : SettingsKey, k.name ≠ name → y.settings.get k = x.settings.get k) ∧
    (∀ k : SettingsKey, ∃ value, x.advance (.get k.name) = .ok (x, some value) ∧
      x.advance (.set k.name value) = .ok (x, none)) := by
  refine ⟨fun s e h => step_of_error h, fun y shown steps h hsteps => advance_load_run_of_save h hsteps,
    fun steps k => ?_, fun name value y shown h => ⟨(eq_of_advance_set h).1, fun k hk => ?_⟩,
    fun k => ⟨_, advance_get_name k, advance_set_get k⟩⟩
  · rw [advance_get_name, get_run]
  · rw [get_of_advance_set h, if_neg (Ne.symm hk)]

/-- A pattern of a quote, a backslash and a line break is saved, replaced in memory, and loaded
again; in between a switch rejects a word and stays. -/
theorem store_laws_quotes :
    let x : Session := { settings := { patterns := { date := ['"', '\\', '\n'] } } }
    let steps : List Step := [
      .set "date-format".toList "yyyy".toList, .set "copy-result".toList "maybe".toList,
      .set "copy-result".toList "YES".toList]
    let y := x.step .save
    x.advance .save = .ok (y, some x.settings.render) ∧
    (y.run steps).advance .load = .ok ({ y.run steps with settings := x.settings }, none) ∧
    y.advance (.set "copy-result".toList "maybe".toList) =
      .error (.badSwitch .copyResult "maybe".toList) ∧
    y.step (.set "copy-result".toList "maybe".toList) = y ∧
    (y.run steps).advance (.get "copy-result".toList) = .ok (y.run steps, some "true".toList) := by
  intro x steps y
  have hsave : x.advance .save = .ok (y, some x.settings.render) := rfl
  have hbad : y.advance (.set "copy-result".toList "maybe".toList) =
      .error (.badSwitch .copyResult "maybe".toList) := by rfl
  refine ⟨hsave, (store_laws x).2.1 y _ steps hsave (by decide), hbad,
    (store_laws y).1 _ _ hbad, ?_⟩
  exact (store_laws y).2.2.1 steps .copyResult

end LinkTemplate.Session
