import LinkTemplate.Proofs.Json.Values
import LinkTemplate.Settings.File

/-!
# Stored settings

Settings that are stored are loaded as they were, whatever characters their patterns hold :
`parse?_render` for the text of the settings file, and `load_of_save` for the file.
-/

namespace LinkTemplate

namespace Settings

open Json (Value)

theorem isPlain_toJson (s : Settings) : s.toJson.IsPlain :=
  Value.isPlain_ofMembers <| by
    simp only [List.forall_mem_cons, Value.IsPlain.text, Value.IsPlain.bool, List.not_mem_nil,
      false_implies, implies_true, and_self]

theorem ofJson?_toJson (s : Settings) : ofJson? s.toJson = some s := rfl

/-- The text of a settings file stands for the settings that it was written for. -/
theorem parse?_render (s : Settings) : parse? s.render = some s := by
  rw [parse?, render, Json.read?_render s.isPlain_toJson, Option.bind_some, ofJson?_toJson]

end Settings

namespace SettingsFile

/-- Settings can be stored unless a directory is in the way. -/
theorem save_eq_ok_iff {s : Settings} {file next : SettingsFile} :
    file.save s = .ok next ↔ file ≠ .directory ∧ next = .text s.render := by
  cases file <;> simp [save, eq_comm]

/-- Settings cannot be loaded from a directory or a text that stands for no settings. -/
theorem load_eq_error_iff {file : SettingsFile} {e : SettingsError} :
    file.load = .error e ↔
      (file = .directory ∧ e = .inaccessible) ∨
        ∃ t, file = .text t ∧ Settings.parse? t = none ∧ e = .malformed := by
  cases file with
  | absent => simp [load]
  | text t => cases h : Settings.parse? t <;> simp [load, h, eq_comm]
  | directory => simp [load, eq_comm]

theorem load_text_render (s : Settings) : load (.text s.render) = .ok s := by
  rw [load, Settings.parse?_render]

theorem load_of_save {s : Settings} {file next : SettingsFile} (h : file.save s = .ok next) :
    next.load = .ok s := by
  obtain ⟨-, rfl⟩ := save_eq_ok_iff.mp h
  exact load_text_render s

end SettingsFile

end LinkTemplate
