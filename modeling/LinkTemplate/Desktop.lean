import LinkTemplate.Text.Basic

/-!
# The clipboard of the desktop

The clipboard and the selection are reached through tools. Reading asks `xclip` first and `xsel`
if that gives nothing; copying hands the text to `xclip` first and to `xsel` if that does not
take it. A tool can fail at any stage of a copy (`ToolFailure`), and what the system says about it
is then part of the message. What a tool prints of its own accord is not followed here.
-/

namespace LinkTemplate

/-- A buffer of the desktop. -/
inductive Buffer where
  | clipboard
  | selection
deriving DecidableEq, Repr

/-- How copying with a tool that was started fails. A `reason` is what the system says. -/
inductive ToolFailure where
  /-- The text cannot be written to the tool. -/
  | write (reason : Text)
  /-- The end of the tool cannot be awaited. -/
  | wait (reason : Text)
  /-- The tool ends with an error. -/
  | exit
deriving DecidableEq, Repr

/-- A clipboard tool that can be started. -/
structure ClipboardTool where
  /-- What reading the clipboard gives, if it succeeds. -/
  clipboard : Option Text := none
  /-- What reading the selection gives, if it succeeds. -/
  selection : Option Text := none
  /-- Whether the tool succeeds in copying. -/
  copies : Bool := true
  /-- How copying fails where it does not succeed. -/
  failure : ToolFailure := .exit
deriving DecidableEq, Repr

/-- The contents of a buffer, as a tool reads it. -/
def ClipboardTool.read (tool : ClipboardTool) : Buffer → Option Text
  | .clipboard => tool.clipboard
  | .selection => tool.selection

/-- The clipboard tools of a desktop. -/
structure Desktop where
  xclip : Option ClipboardTool := none
  xsel : Option ClipboardTool := none
  /-- What the system says where a tool cannot be started; by default, that it is not there. -/
  startReason : Text := "No such file or directory (os error 2)".toList
deriving DecidableEq, Repr

/-- Why a text could not be copied; the tool is the one that was asked last. -/
inductive CopyError where
  | notStarted (tool reason : Text)
  | toolFailed (tool : Text) (failure : ToolFailure)
deriving DecidableEq, Repr

/-- The words for what went wrong with a tool. -/
def CopyError.cause : CopyError → Text
  | .notStarted tool reason => "Failed to spawn ".toList ++ tool ++ ": ".toList ++ reason
  | .toolFailed tool (.write reason) =>
    "Failed to write to ".toList ++ tool ++ ": ".toList ++ reason
  | .toolFailed tool (.wait reason) =>
    "Failed to wait for ".toList ++ tool ++ ": ".toList ++ reason
  | .toolFailed tool .exit => tool ++ " exited with error".toList

/-- The words for a failed copy. -/
def CopyError.message (e : CopyError) : Text :=
  "Clipboard error: Clipboard error: ".toList ++ e.cause ++ ". Install xclip or xsel.".toList

namespace Desktop

/-- The contents of a buffer, if a tool can read it. -/
def read (desktop : Desktop) (buffer : Buffer) : Option Text :=
  (desktop.xclip.bind (·.read buffer)).or (desktop.xsel.bind (·.read buffer))

/-- Whether there is a tool that a text can be handed to. -/
def hasTool (desktop : Desktop) : Bool :=
  desktop.xclip.isSome || desktop.xsel.isSome

/-- Why copying fails, if it does. -/
def copyError? (desktop : Desktop) : Option CopyError :=
  if (desktop.xclip.map (·.copies)).getD false then none
  else match desktop.xsel with
    | none => some (.notStarted "xsel".toList desktop.startReason)
    | some tool => if tool.copies then none else some (.toolFailed "xsel".toList tool.failure)

end Desktop

end LinkTemplate
