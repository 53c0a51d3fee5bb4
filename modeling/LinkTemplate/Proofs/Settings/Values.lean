import LinkTemplate.Settings.Basic

/-!
# Values of settings

A key is read back as it was changed, in the words that it keeps : a pattern as it was given, a
switch as `true` or `false` (`SettingsKey.canonical`). Changing one key leaves the others alone,
and changing a key to the value that it has changes nothing (`set_get`). Of values given one after
the other the last one counts (`lastGiven?`).
-/

namespace LinkTemplate

/-! ## Names -/

namespace SettingsKey

theorem ofName?_eq_some_iff {name : Text} {k : SettingsKey} :
    ofName? name = some k ↔ k.name = name := by
  constructor
  · intro h
    simpa using List.find?_some h
  · rintro rfl
    exact ofName?_name k

theorem ofName?_eq_none_iff {name : Text} : ofName? name = none ↔ ∀ k : SettingsKey, k.name ≠ name := by
  rw [Option.eq_none_iff_forall_ne_some]
  simp only [ne_eq, ofName?_eq_some_iff]

theorem name_injective {k k' : SettingsKey} (h : k.name = k'.name) : k = k' := by
  have := ofName?_name k
  rw [h, ofName?_name k'] at this
  exact (Option.some.inj this).symm

/-- The value of a switch is one of a few words. -/
def isSwitch : SettingsKey → Bool
  | .pattern _ => false
  | .readClipboard | .copyResult => true

/-- The words that a key keeps of a value that it is given. -/
def canonical (k : SettingsKey) (value : Text) : Text :=
  if k.isSwitch then ((readSwitch? value).map switchText).getD value else value

end SettingsKey

theorem readSwitch?_switchText (b : Bool) : readSwitch? (switchText b) = some b := by
  cases b <;> decide

/-! ## Changes -/

namespace Settings

variable {s s' : Settings} {k : SettingsKey} {value : Text}

/-- A change fails for a switch with a value that is none of its words. -/
theorem set_eq_error_iff {e : SettingsError} :
    s.set k value = .error e ↔
      (k.isSwitch = true ∧ readSwitch? value = none) ∧ e = .badSwitch k value := by
  cases k with
  | pattern style => simp [set, SettingsKey.isSwitch]
  | readClipboard | copyResult =>
    cases h : readSwitch? value <;> simp [set, SettingsKey.isSwitch, h, eq_comm]

theorem get_set (h : s.set k value = .ok s') : s'.get k = k.canonical value := by
  cases k with
  | pattern style =>
    obtain rfl := Except.ok.inj h
    cases style <;> rfl
  | readClipboard | copyResult =>
    cases hswitch : readSwitch? value with
    | none => simp [set, hswitch] at h
    | some b =>
      obtain rfl : _ = s' := by simpa [set, hswitch] using h
      simp [get, SettingsKey.canonical, SettingsKey.isSwitch, hswitch]

theorem get_set_of_ne (h : s.set k value = .ok s') {other : SettingsKey} (hne : other ≠ k) :
    s'.get other = s.get other := by
  cases k with
  | pattern style =>
    obtain rfl := Except.ok.inj h
    rcases other with (_ | _ | _) | _ | _ <;> cases style <;> first | rfl | exact absurd rfl hne
  | readClipboard | copyResult =>
    cases hswitch : readSwitch? value with
    | none => simp [set, hswitch] at h
    | some b =>
      obtain rfl : _ = s' := by simpa [set, hswitch] using h
      cases other <;> first | rfl | exact absurd rfl hne

/-- A change to the value that a key has is no change. -/
theorem set_get (s : Settings) (k : SettingsKey) : s.set k (s.get k) = .ok s := by
  cases k with
  | pattern style => cases style <;> rfl
  | readClipboard | copyResult => simp [set, get, readSwitch?_switchText]

/-! ## By name -/

theorem key_eq_ok_iff {name : Text} : key name = .ok k ↔ k.name = name := by
  rw [← SettingsKey.ofName?_eq_some_iff, key]
  cases SettingsKey.ofName? name <;> simp

theorem key_name (k : SettingsKey) : key k.name = .ok k :=
  key_eq_ok_iff.mpr rfl

theorem key_eq_error_iff {name : Text} {e : SettingsError} :
    key name = .error e ↔ (∀ k : SettingsKey, k.name ≠ name) ∧ e = .unknownKey name := by
  rw [← SettingsKey.ofName?_eq_none_iff, key]
  cases SettingsKey.ofName? name <;> simp [eq_comm]

theorem getByName_name (s : Settings) (k : SettingsKey) : s.getByName k.name = .ok (s.get k) := by
  rw [getByName, key_name]
  rfl

theorem getByName_eq_ok_iff {name : Text} :
    s.getByName name = .ok value ↔ ∃ k : SettingsKey, k.name = name ∧ value = s.get k := by
  constructor
  · intro h
    cases hkey : key name with
    | error e =>
      rw [getByName, hkey] at h
      cases h
    | ok k =>
      rw [getByName, hkey] at h
      exact ⟨k, key_eq_ok_iff.mp hkey, (Except.ok.inj h).symm⟩
  · rintro ⟨k, rfl, rfl⟩
    exact s.getByName_name k

theorem getByName_eq_error_iff {name : Text} {e : SettingsError} :
    s.getByName name = .error e ↔ (∀ k : SettingsKey, k.name ≠ name) ∧ e = .unknownKey name := by
  rw [← key_eq_error_iff, getByName]
  cases key name with
  | error e' =>
    constructor <;> intro h <;> cases h <;> rfl
  | ok k => exact ⟨nofun, nofun⟩

theorem setByName_name (s : Settings) (k : SettingsKey) (value : Text) :
    s.setByName k.name value = s.set k value := by
  rw [setByName, key_name]
  rfl

theorem setByName_eq_ok_iff {name : Text} :
    s.setByName name value = .ok s' ↔ ∃ k : SettingsKey, k.name = name ∧ s.set k value = .ok s' := by
  constructor
  · intro h
    cases hkey : key name with
    | error e =>
      rw [setByName, hkey] at h
      cases h
    | ok k =>
      rw [setByName, hkey] at h
      exact ⟨k, key_eq_ok_iff.mp hkey, h⟩
  · rintro ⟨k, rfl, h⟩
    rw [setByName_name, h]

/-- A change by name fails for a name that is none of a key and for a switch with a value that is
none of its words. -/
theorem setByName_eq_error_iff {name : Text} {e : SettingsError} :
    s.setByName name value = .error e ↔
      ((∀ k : SettingsKey, k.name ≠ name) ∧ e = .unknownKey name) ∨
        ∃ k : SettingsKey, k.name = name ∧ (k.isSwitch = true ∧ readSwitch? value = none) ∧
          e = .badSwitch k value := by
  constructor
  · intro h
    cases hkey : key name with
    | error e' =>
      rw [setByName, hkey] at h
      obtain rfl : e' = e := Except.error.inj h
      exact Or.inl (key_eq_error_iff.mp hkey)
    | ok k =>
      rw [setByName, hkey] at h
      exact Or.inr ⟨k, key_eq_ok_iff.mp hkey, set_eq_error_iff.mp h⟩
  · rintro (⟨hname, rfl⟩ | ⟨k, rfl, h⟩)
    · rw [setByName, key_eq_error_iff.mpr ⟨hname, rfl⟩]
      rfl
    · rw [setByName_name, set_eq_error_iff.mpr h]

end Settings

/-! ## Values that are given one after the other -/

section Last

variable {σ ι α : Type} (step : σ → ι → σ) (given? : σ → ι → Option α)

/-- The value that the last of the steps to give one gives. -/
def lastGiven? : σ → List ι → Option α
  | _, [] => none
  | s, i :: rest => (lastGiven? (step s i) rest).or (given? s i)

theorem getD_lastGiven?_cons (s : σ) (i : ι) (rest : List ι) (a : α) :
    (lastGiven? step given? s (i :: rest)).getD a =
      (lastGiven? step given? (step s i) rest).getD ((given? s i).getD a) := by
  rw [lastGiven?]
  cases lastGiven? step given? (step s i) rest <;> rfl

end Last

end LinkTemplate
