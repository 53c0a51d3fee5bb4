import LinkTemplate.CommandLine.Run
import LinkTemplate.Proofs.Inventory.Dependence

/-!
# Reading the buffers of the desktop

A template is expanded with the clipboard and the selection as they are given, or as the desktop
has them where the template needs them. `performReading` leaves open which buffers count as needed.
An expansion looks at no other buffer than the inventory lists (`expansionReading_congr`), so that
reading every buffer makes no difference (`reading_on_demand_is_invisible`), and neither does what
a buffer holds that is given or may not be read.
-/

namespace LinkTemplate

/-- Whether a template uses a buffer. -/
def Inventory.uses (inventory : Inventory) : Buffer → Bool
  | .clipboard => inventory.usesClipboard
  | .selection => inventory.usesSelection

namespace CommandLine

/-- The text that is given for a buffer. -/
def ExpandOptions.given (options : ExpandOptions) : Buffer → Option Text
  | .clipboard => options.clipboard
  | .selection => options.selection

variable {env : Environment} {settings : Settings} {template : Text} {options : ExpandOptions}

/-! ## Which buffers are read -/

/-- What a template is expanded with if the buffers in `needed` count as needed. -/
def inputsReading (needed : Buffer → Bool) (env : Environment) (settings : Settings)
    (options : ExpandOptions) : Except CommandError Inputs := do
  let arguments ← parseBindings options.arguments
  let reference ← parseReference env.now options.reference
  let text buffer :=
    bufferText (options.given buffer) settings.readClipboard (needed buffer) env.desktop buffer
  return {
    arguments, reference
    clipboard := text .clipboard
    selection := text .selection
    patterns := settings.patterns }

/-- The expansion if the buffers in `needed` count as needed. -/
def expansionReading (needed : Buffer → Bool) (env : Environment) (settings : Settings)
    (template : Text) (options : ExpandOptions) : Except CommandError Expansion :=
  (inputsReading needed env settings options).map (expand template)

/-- Expands a template with the buffers in `needed` read, where no text is given for them and the
settings allow reading. -/
def performReading (needed : Buffer → Bool) (env : Environment) (settings : Settings)
    (template : Text) (options : ExpandOptions) : Action Bool := do
  let inputs ← ofExcept (inputsReading needed env settings options)
  deliverExpansion env settings options (expand template inputs)

/-- The buffers that a template uses are those that count as needed. -/
theorem expandInputs_eq_inputsReading :
    expandInputs env settings template options =
      inputsReading (Inventory.ofTemplate template).uses env settings options := rfl

theorem performExpand_eq_performReading :
    performExpand env settings template options =
      performReading (Inventory.ofTemplate template).uses env settings template options := rfl

theorem performReading_eq (needed : Buffer → Bool) :
    performReading needed env settings template options =
      ofExcept (expansionReading needed env settings template options) >>=
        deliverExpansion env settings options := by
  unfold performReading expansionReading
  cases inputsReading needed env settings options <;> rfl

/-- An expansion looks at the buffers that its template uses and at no others. -/
theorem expansionReading_congr {needed needed' : Buffer → Bool} {desktop desktop' : Desktop}
    (h : ∀ buffer, (Inventory.ofTemplate template).uses buffer = true →
      bufferText (options.given buffer) settings.readClipboard (needed buffer) desktop buffer =
        bufferText (options.given buffer) settings.readClipboard (needed' buffer) desktop' buffer) :
    expansionReading needed { env with desktop } settings template options =
      expansionReading needed' { env with desktop := desktop' } settings template options := by
  unfold expansionReading inputsReading
  cases parseBindings options.arguments with
  | error e => rfl
  | ok arguments =>
    cases parseReference env.now options.reference with
    | error e => rfl
    | ok reference =>
      refine congrArg Except.ok (expand_eq_of_agree ?_)
      exact ⟨fun _ _ => rfl, h .clipboard, h .selection, fun _ => rfl, fun _ => rfl⟩

/-! ## What a desktop does for an expansion -/

/-- An expansion of the template reads a buffer of the desktop. -/
def Reads (settings : Settings) (template : Text) (options : ExpandOptions) (buffer : Buffer) :
    Prop :=
  options.given buffer = none ∧ settings.readClipboard = true ∧
    (Inventory.ofTemplate template).uses buffer = true

/-- The template is expanded with success and the result is to be copied. -/
def Copies (env : Environment) (settings : Settings) (template : Text) (options : ExpandOptions) :
    Prop :=
  (options.copy || settings.copyResult) = true ∧
    ∃ inputs, expandInputs env settings template options = .ok inputs ∧
      (expand template inputs).succeeded = true

/-- Desktops from which the same texts are read give the same expansion. -/
theorem expansion_desktop_congr {desktop desktop' : Desktop}
    (h : ∀ buffer, Reads settings template options buffer →
      desktop.read buffer = desktop'.read buffer) :
    (expandInputs { env with desktop } settings template options).map (expand template) =
      (expandInputs { env with desktop := desktop' } settings template options).map
        (expand template) := by
  rw [expandInputs_eq_inputsReading, expandInputs_eq_inputsReading]
  refine expansionReading_congr fun buffer huses => ?_
  unfold bufferText
  cases hgiven : options.given buffer with
  | some text => rfl
  | none =>
    cases hallowed : settings.readClipboard with
    | false => rfl
    | true => rw [h buffer ⟨hgiven, hallowed, huses⟩]

/-- Where a text is handed over, only whether a tool is there and whether it copies matters. -/
theorem deliverExpansion_desktop_congr {desktop desktop' : Desktop} {e : Expansion}
    (h : e.succeeded = true → (options.copy || settings.copyResult) = true →
      desktop.hasTool = desktop'.hasTool ∧ desktop.copyError? = desktop'.copyError?) :
    deliverExpansion { env with desktop } settings options e =
      deliverExpansion { env with desktop := desktop' } settings options e := by
  unfold deliverExpansion copyExpansion
  cases hsucceeded : e.succeeded with
  | false => rfl
  | true =>
    cases hwanted : options.copy || settings.copyResult with
    | false => rfl
    | true =>
      obtain ⟨htool, herror⟩ := h hsucceeded hwanted
      have hcopy : Action.copy desktop e.url = Action.copy desktop' e.url := by
        unfold Action.copy Action.copyWarning
        rw [htool, herror]
      simp only [hcopy]
      rfl

/-- An expansion of a template depends on the desktop through the buffers that it reads and, where
its result is copied, through the tools that copy. -/
theorem performExpand_desktop_congr {desktop desktop' : Desktop}
    (hread : ∀ buffer, Reads settings template options buffer →
      desktop.read buffer = desktop'.read buffer)
    (hcopy : Copies { env with desktop } settings template options →
      desktop.hasTool = desktop'.hasTool ∧ desktop.copyError? = desktop'.copyError?) :
    performExpand { env with desktop } settings template options =
      performExpand { env with desktop := desktop' } settings template options := by
  have hexpansion := @expansion_desktop_congr env settings template options _ _ hread
  rw [performExpand_eq_performReading, performExpand_eq_performReading, performReading_eq,
    performReading_eq]
  unfold expansionReading
  rw [← expandInputs_eq_inputsReading, ← expandInputs_eq_inputsReading, ← hexpansion]
  cases hinputs : expandInputs { env with desktop } settings template options with
  | error e => rfl
  | ok inputs =>
    refine deliverExpansion_desktop_congr fun hsucceeded hwanted => ?_
    exact hcopy ⟨hwanted, inputs, hinputs, hsucceeded⟩

/-- Reading a buffer only where the template needs it cannot be told from reading every buffer that
no text is given for : both print the same, hand over the same text, and end with the same success
or error. Only the buffers that are read have a part in it, and none that is given or that the
settings keep from being read; and as long as a copy does not fail, it does not matter which of the
two tools is there. -/
theorem reading_on_demand_is_invisible (env : Environment) (settings : Settings) (template : Text)
    (options : ExpandOptions) :
    performReading (fun _ => true) env settings template options =
      performExpand env settings template options ∧
    (∀ desktop desktop' : Desktop,
      (∀ buffer, options.given buffer = none → settings.readClipboard = true →
        (Inventory.ofTemplate template).uses buffer = true →
        desktop.read buffer = desktop'.read buffer) →
      (Copies { env with desktop } settings template options →
        desktop.hasTool = desktop'.hasTool ∧ desktop.copyError? = desktop'.copyError?) →
      performExpand { env with desktop } settings template options =
        performExpand { env with desktop := desktop' } settings template options) ∧
    (∀ tool : ClipboardTool,
      (Copies { env with desktop := { xclip := some tool } } settings template options →
        tool.copies = true) →
      performExpand { env with desktop := { xclip := some tool } } settings template options =
        performExpand { env with desktop := { xsel := some tool } } settings template options) := by
  refine ⟨?_, fun desktop desktop' hread hcopy => ?_, fun tool hcopies => ?_⟩
  · have hexpansion : expansionReading (fun _ => true) env settings template options =
        expansionReading (Inventory.ofTemplate template).uses env settings template options :=
      @expansionReading_congr env settings template options _ _ env.desktop env.desktop
        fun buffer huses => by rw [huses]
    rw [performExpand_eq_performReading, performReading_eq, performReading_eq, hexpansion]
  · exact performExpand_desktop_congr (fun buffer ⟨hgiven, hallowed, huses⟩ =>
      hread buffer hgiven hallowed huses) hcopy
  · refine performExpand_desktop_congr (fun buffer _ => ?_) fun h => ⟨rfl, ?_⟩
    · simp [Desktop.read]
    · simp [Desktop.copyError?, hcopies h]

/-- A text is given for the clipboard, and the selection is read : what the clipboard of the desktop
holds makes no difference, and neither does the tool that reads and copies. -/
theorem reading_on_demand_is_invisible_given :
    let settings : Settings := { copyResult := true }
    let template := "{clipboard}{selection | trim}".toList
    let options : ExpandOptions := { clipboard := some "q=".toList }
    let tool : ClipboardTool := { clipboard := some "old".toList, selection := some " a ".toList }
    let env : Environment := { desktop := { xclip := some tool } }
    performReading (fun _ => true) env settings template options =
      performExpand env settings template options ∧
    performExpand env settings template options =
      performExpand { env with desktop := { xclip := some { tool with clipboard := none } } }
        settings template options ∧
    performExpand env settings template options =
      performExpand { env with desktop := { xsel := some tool } } settings template options := by
  intro settings template options tool env
  obtain ⟨hlazy, hdesktop, htool⟩ := reading_on_demand_is_invisible env settings template options
  refine ⟨hlazy, hdesktop _ _ (fun buffer hgiven _ _ => ?_) fun _ => ⟨rfl, rfl⟩, htool tool fun _ => rfl⟩
  cases buffer with
  | clipboard => exact absurd hgiven (by decide)
  | selection => rfl

end CommandLine

end LinkTemplate
