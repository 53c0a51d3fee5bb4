import LinkTemplate.Settings.File

/-!
# Sessions

A session holds settings in memory beside the settings file. A step reads or changes one of the
two or copies one to the other. `perform` carries a step out piece by piece : where it fails, the
session stays as the pieces in front have left it.
-/

namespace LinkTemplate

/-- Settings in memory and the file they are kept in. -/
structure Session where
  settings : Settings := {}
  file : SettingsFile := .absent
deriving DecidableEq, Repr

namespace Session

/-- A step of a session. -/
inductive Step where
  | get (name : Text)
  | set (name value : Text)
  | save
  | load
deriving DecidableEq, Repr

/-- Carries a step out and gives what it shows. -/
def perform : Step → EStateM SettingsError Session (Option Text)
  | .get name => do
    let value ← ofExcept ((← get).settings.getByName name)
    return some value
  | .set name value => do
    let settings ← ofExcept ((← get).settings.setByName name value)
    modify fun session => { session with settings }
    return none
  | .save => do
    let session ← get
    let file ← ofExcept (session.file.save session.settings)
    modify fun session => { session with file }
    return file.text?
  | .load => do
    let settings ← ofExcept (← get).file.load
    modify fun session => { session with settings }
    return none

/-- The session behind a step that succeeds and what the step shows, or why the step fails. -/
def advance (session : Session) (s : Step) : Except SettingsError (Session × Option Text) :=
  match (perform s).run session with
  | .ok shown next => .ok (next, shown)
  | .error e _ => .error e

/-- The session behind a step, whether it succeeds or fails. -/
def step (session : Session) (s : Step) : Session :=
  match (perform s).run session with
  | .ok _ next => next
  | .error _ next => next

/-- The session behind a sequence of steps. -/
def run (session : Session) (steps : List Step) : Session :=
  steps.foldl step session

end Session

end LinkTemplate
