import LinkTemplate.Proofs.CommandLine.Buffers
import LinkTemplate.Proofs.CommandLine.Failures
import LinkTemplate.Proofs.Expansion.Substitution

/-!
# The presentation of an expansion

An expansion is printed as a text, with what kept it from succeeding on the error output, or as one
JSON value. Both say the same : the JSON value is read back to the result of the expansion
(`ExpansionResult.read?_line`), from which the two outputs of the text can be told. Neither the
presentation nor copying has a part in the result : only where a tool is there does an expansion
that succeeds hand over its text, and what the tool makes of it shows on the error output alone.
-/

namespace LinkTemplate.CommandLine

open Json (Value)

/-! ## Results in JSON -/

/-- What is told of an expansion. -/
structure ExpansionResult where
  url : Text
  /-- The names of missing arguments, in order and with duplicates. -/
  missing : List Text
  /-- The words for the defects of placeholders, in order. -/
  errors : List Text
  succeeded : Bool
deriving DecidableEq, Repr

namespace ExpansionResult

/-- What is told of an expansion. -/
def of (e : Expansion) : ExpansionResult :=
  ⟨e.url, e.missing, e.errors, e.succeeded⟩

/-- One message for each missing argument and then one for each defect. -/
def messages (result : ExpansionResult) : List Message :=
  result.missing.map (fun name => ⟨.warning, "Missing argument: ".toList ++ name⟩) ++
    result.errors.map fun text => ⟨.error, text⟩

theorem messages_of (e : Expansion) : (of e).messages = e.messages := by
  simp [messages, of, Expansion.messages, Expansion.errors]

/-- The text of a string. -/
def text? : Value → Option Text
  | .string content => content
  | _ => none

/-- The texts of an array of strings. -/
def texts? : Value → Option (List Text)
  | .array items => items.mapM text?
  | _ => none

/-- The truth value of a switch. -/
def switch? : Value → Option Bool
  | .bool b => some b
  | _ => none

/-- The result that a JSON value stands for. -/
def ofJson? : Value → Option ExpansionResult
  | .object members => do
    let member (name : String) : Option Value := (Settings.member? name members).join
    return {
      url := ← (member "url").bind text?
      missing := ← (member "missing_arguments").bind texts?
      errors := ← (member "errors").bind texts?
      succeeded := ← (member "success").bind switch? }
  | _ => none

/-- The result that a printed JSON value stands for. -/
def read? (t : Text) : Option ExpansionResult :=
  (Json.read? t).bind ofJson?

theorem texts?_ofTexts (ts : List Text) : texts? (.ofTexts ts) = some ts := by
  show (ts.map Value.ofText).mapM text? = some ts
  induction ts with
  | nil => rfl
  | cons t ts ih =>
    rw [List.map_cons, List.mapM_cons, ih]
    rfl

theorem ofJson?_expansionJson (e : Expansion) : ofJson? (expansionJson e) = some (of e) := by
  have hmissing := texts?_ofTexts e.missing
  have herrors := texts?_ofTexts e.errors
  show (do
    let missing ← texts? (.ofTexts e.missing)
    let errors ← texts? (.ofTexts e.errors)
    return (⟨e.url, missing, errors, e.succeeded⟩ : ExpansionResult)) = _
  rw [hmissing, herrors]
  rfl

theorem isPlain_expansionJson (e : Expansion) : (expansionJson e).IsPlain :=
  Value.isPlain_ofMembers <| by
    simp only [List.forall_mem_cons, Value.IsPlain.text, Value.IsPlain.bool,
      Value.isPlain_ofTexts, List.not_mem_nil, false_implies, implies_true, and_self]

/-- What is printed of an expansion as JSON is read back to its result. -/
theorem read?_line (e : Expansion) : read? (line (expansionJson e).render) = some (of e) := by
  rw [read?, line, Json.read?_render_append (isPlain_expansionJson e) rfl, Option.bind_some,
    ofJson?_expansionJson]

end ExpansionResult

/-! ## Reports on an expansion -/

/-- The report on the expansion of a template, as JSON or plainly. -/
def expandReport (env : Environment) (template : Text) (options : ExpandOptions) (level : Text)
    (json : Bool) : Report :=
  run env ⟨.expand template { options with json }, level⟩

variable {env : Environment} {settings : Settings} {template : Text} {options : ExpandOptions}
  {inputs : Inputs}

/-- An expansion is refused, or it is delivered. -/
theorem refuses_or_expands (env : Environment) (template : Text) (options : ExpandOptions) :
    (∃ e, Refuses env (.expand template options) e) ∨
      ∃ settings inputs, env.Loads settings ∧
        expandInputs env settings template options = .ok inputs := by
  cases hrun : (perform env (.expand template options)).run (env.start []) with
  | error e report => exact .inl ⟨e, refuses_of_fails rfl ⟨report, hrun⟩⟩
  | ok b report =>
    obtain ⟨settings, hsettings, hperforms⟩ := (perform_eq_ok_iff rfl).mp hrun
    cases hperforms with
    | expand hinputs => exact .inr ⟨settings, _, hsettings, hinputs⟩

/-- Neither the desktop nor the presentation is a reason to refuse an expansion. -/
theorem refuses_expand_congr {e : CommandError} (h : Refuses env (.expand template options) e)
    (desktop : Desktop) (json : Bool) :
    Refuses { env with desktop } (.expand template { options with json }) e := by
  cases h with
  | unreadable hlocated hfile => exact .unreadable hlocated hfile
  | malformed hlocated hfile ht => exact .malformed hlocated hfile ht
  | binding hsettings htext => exact .binding hsettings htext
  | reference hsettings harguments htext hread =>
    exact .reference hsettings harguments htext hread

/-- An expansion that is refused looks the same on every desktop and in every presentation. -/
theorem expandReport_of_refuses {e : CommandError} (h : Refuses env (.expand template options) e)
    (desktop : Desktop) (level : Text) (json : Bool) :
    expandReport { env with desktop } template options level json =
      { errorOutput := logLevelWarning level ++ line ("Error: ".toList ++ e.message)
        exitCode := 1
        settingsFile := env.settingsFile } :=
  @run_of_fails { env with desktop } e ⟨.expand template { options with json }, level⟩
    (fails_of_refuses rfl (refuses_expand_congr h desktop json))

theorem expandReport_of_eq_ok (hsettings : env.Loads settings)
    (hinputs : expandInputs env settings template options = .ok inputs) (level : Text)
    (json : Bool) :
    expandReport env template options level json =
      { delivered env settings { options with json } (expand template inputs) (env.start level) with
        exitCode := if (expand template inputs).succeeded then 0 else 1 } :=
  @run_of_performs env settings _ _ ⟨.expand template { options with json }, level⟩ hsettings
    (.expand hinputs)

/-- Printed as JSON an expansion exits with the same code and copies the same text as printed
plainly. -/
theorem expandReport_json_congr (env : Environment) (template : Text) (options : ExpandOptions)
    (level : Text) :
    (expandReport env template options level true).exitCode =
      (expandReport env template options level false).exitCode ∧
    (expandReport env template options level true).copied =
      (expandReport env template options level false).copied ∧
    (expandReport env template options level true).settingsFile =
      (expandReport env template options level false).settingsFile := by
  rcases refuses_or_expands env template options with
    ⟨e, hrefuses⟩ | ⟨settings, inputs, hsettings, hinputs⟩
  · have hreport := expandReport_of_refuses hrefuses env.desktop level
    rw [hreport true, hreport false]
    exact ⟨rfl, rfl, rfl⟩
  · have hreport := expandReport_of_eq_ok hsettings hinputs level
    rw [hreport true, hreport false]
    exact ⟨rfl, rfl, rfl⟩

/-- What the tools make of a text that is copied shows neither on the output nor in the exit code,
as long as the same texts are read from the buffers. -/
theorem expandReport_desktop_congr {desktop : Desktop}
    (h : ∀ settings, env.Loads settings → ∀ buffer, Reads settings template options buffer →
      desktop.read buffer = env.desktop.read buffer) (level : Text) (json : Bool) :
    (expandReport { env with desktop } template options level json).output =
      (expandReport env template options level json).output ∧
    (expandReport { env with desktop } template options level json).exitCode =
      (expandReport env template options level json).exitCode := by
  rcases refuses_or_expands env template options with
    ⟨e, hrefuses⟩ | ⟨settings, inputs, hsettings, hinputs⟩
  · have hreport (desktop : Desktop) := expandReport_of_refuses hrefuses desktop level json
    rw [hreport desktop, hreport env.desktop]
    exact ⟨rfl, rfl⟩
  · have hsame := @expansion_desktop_congr env settings template options desktop env.desktop
      (h settings hsettings)
    rw [show expandInputs { env with desktop := env.desktop } settings template options =
      .ok inputs from hinputs] at hsame
    cases hinputs' : expandInputs { env with desktop } settings template options with
    | error e =>
      rw [hinputs'] at hsame
      cases hsame
    | ok inputs' =>
      rw [hinputs'] at hsame
      have hexpand : expand template inputs' = expand template inputs := Except.ok.inj hsame
      have hreport := @expandReport_of_eq_ok { env with desktop } settings template options inputs'
        hsettings hinputs' level json
      rw [hreport, expandReport_of_eq_ok hsettings hinputs, hexpand]
      exact ⟨rfl, rfl⟩

/-- A text is handed over if the expansion succeeds, a copy is wanted and a tool is there, and it
is the text of the expansion. -/
theorem copied_expandReport_iff (hsettings : env.Loads settings)
    (hinputs : expandInputs env settings template options = .ok inputs) (level : Text)
    (json : Bool) {text : Text} :
    (expandReport env template options level json).copied = some text ↔
      ((expand template inputs).succeeded && (options.copy || settings.copyResult)) = true ∧
        env.desktop.hasTool = true ∧ (expand template inputs).url = text := by
  rw [expandReport_of_eq_ok hsettings hinputs, ← and_assoc, ← Bool.and_eq_true,
    ← Option.some.injEq (expand template inputs).url]
  exact Option.ite_none_right_eq_some

theorem exitCode_expandReport_eq_zero_iff (hsettings : env.Loads settings)
    (hinputs : expandInputs env settings template options = .ok inputs) (level : Text)
    (json : Bool) :
    (expandReport env template options level json).exitCode = 0 ↔
      (expand template inputs).succeeded = true := by
  rw [expandReport_of_eq_ok hsettings hinputs]
  cases (expand template inputs).succeeded <;> simp

/-- Neither the presentation nor copying has a part in the result of an expansion. Printed as JSON
it exits with the same code and hands over the same text as printed plainly. What is printed as JSON
is read back to the result, whose text is the plain output, whose success is the exit code 0, and
whose missing arguments and errors are the messages on the plain error output, in that order. A text
is handed over if the expansion succeeds, a copy is wanted and a tool is there, and it is that text
of the result; and whatever the tools do with it, the output and the exit code are the same. -/
theorem presentation_is_invisible (env : Environment) (template : Text) (options : ExpandOptions)
    (level : Text) :
    let report := expandReport env template options level
    ((report true).exitCode = (report false).exitCode ∧
      (report true).copied = (report false).copied ∧
      (report true).settingsFile = (report false).settingsFile) ∧
    (∀ e, Refuses env (.expand template options) e → report true = report false) ∧
    (∀ settings inputs, env.Loads settings →
      expandInputs env settings template options = .ok inputs →
      let result := ExpansionResult.of (expand template inputs)
      let copies := result.succeeded && (options.copy || settings.copyResult)
      let warning := if copies then Action.copyWarning env.desktop else []
      ExpansionResult.read? (report true).output = some result ∧
      (report false).output = line result.url ∧
      (report false).errorOutput =
        logLevelWarning level ++ lines env.colors result.messages ++ warning ∧
      (report true).errorOutput = logLevelWarning level ++ warning ∧
      ∀ json, ((report json).exitCode = 0 ↔ result.succeeded = true) ∧
        ∀ text, (report json).copied = some text ↔
          copies = true ∧ env.desktop.hasTool = true ∧ result.url = text) ∧
    ∀ desktop : Desktop,
      (∀ settings, env.Loads settings → ∀ buffer, Reads settings template options buffer →
        desktop.read buffer = env.desktop.read buffer) →
      ∀ json, (expandReport { env with desktop } template options level json).output =
          (report json).output ∧
        (expandReport { env with desktop } template options level json).exitCode =
          (report json).exitCode := by
  intro report
  refine ⟨expandReport_json_congr env template options level, fun e hrefuses => ?_,
    fun settings inputs hsettings hinputs => ?_, fun desktop h => expandReport_desktop_congr h level⟩
  · have hreport := expandReport_of_refuses hrefuses env.desktop level
    exact (hreport true).trans (hreport false).symm
  · intro result copies warning
    have hreport := expandReport_of_eq_ok hsettings hinputs level
    refine ⟨?_, ?_, ?_, ?_, fun json =>
      ⟨exitCode_expandReport_eq_zero_iff hsettings hinputs level json,
        fun text => copied_expandReport_iff hsettings hinputs level json⟩⟩
    · simp only [report, hreport]
      exact ExpansionResult.read?_line _
    · simp only [report, hreport]
      rfl
    · simp only [report, hreport, result, ExpansionResult.messages_of]
      rfl
    · simp only [report, hreport]
      exact congrArg (· ++ warning) (List.append_nil (logLevelWarning level))

/-- A value with a quotation mark and a new line is printed and handed over to a tool that does not
take it, and an entry without an equals sign is refused. -/
theorem presentation_is_invisible_quotes :
    let env : Environment := { desktop := { xclip := some { copies := false } } }
    let template := "é{argument name=q}".toList
    let level := "warn".toList
    let options : ExpandOptions := { arguments := ["q=\"\n".toList], copy := true }
    let refused : ExpandOptions := { arguments := ["q".toList] }
    let report := expandReport env template options level
    (ExpansionResult.read? (report true).output = some ⟨"é\"\n".toList, [], [], true⟩ ∧
      (report false).output = line "é\"\n".toList ∧
      (report true).copied = some "é\"\n".toList) ∧
    ((report true).exitCode = (report false).exitCode ∧
      (report true).copied = (report false).copied) ∧
    (expandReport { env with desktop := {} } template options level false).output =
      (report false).output ∧
    expandReport env template refused level true = expandReport env template refused level false := by
  intro env template level options refused report
  obtain ⟨⟨hexit, hcopied, -⟩, -, hresult, hdesktop⟩ :=
    presentation_is_invisible env template options level
  have hinputs : expandInputs env {} template options =
      .ok { arguments := [("q".toList, "\"\n".toList)], reference := Instant.epoch } := by
    decide +kernel
  have hexpand : expand template
      { arguments := [("q".toList, "\"\n".toList)], reference := Instant.epoch } =
        ⟨"é\"\n".toList, [], []⟩ := by
    decide +kernel
  have hunused (buffer : Buffer) : (Inventory.ofTemplate template).uses buffer = false := by
    cases buffer <;> decide +kernel
  have hbinding : refused.arguments.find? (fun t => '=' ∉ t) = some "q".toList := by decide
  have hloads : env.Loads {} := rfl
  obtain ⟨hread, houtput, -, -, hjson⟩ := hresult {} _ hloads hinputs
  rw [hexpand] at hread houtput hjson
  refine ⟨⟨hread, houtput, ((hjson true).2 _).mpr ⟨by decide, by decide, rfl⟩⟩,
    ⟨hexit, hcopied⟩, ?_, ?_⟩
  · refine (hdesktop {} (fun settings _ buffer hreads => ?_) false).1
    exact absurd hreads.2.2 (by simp [hunused buffer])
  · exact (presentation_is_invisible env template refused level).2.1 _ (.binding hloads hbinding)

end LinkTemplate.CommandLine
