import PasswordHashing.Failure

/-!
Log events as data. An operation that logs returns its events beside its answer, so that what is
logged can be compared like any other result.
-/

namespace PasswordHashing

inductive Level where
  | error
  | warn
  | info
  | debug
  deriving DecidableEq, Repr

def Level.name : Level → String
  | error => "ERROR"
  | warn => "WARN"
  | info => "INFO"
  | debug => "DEBUG"

/-- Whether the hashing library or the check program logged an event. -/
inductive Source where
  | library
  | program
  deriving DecidableEq, Repr

structure Event where
  source : Source
  level : Level
  message : String
  fields : List (String × String)
  deriving DecidableEq, Repr

/-- The message and the fields of an event on one line. -/
def Event.line (e : Event) : String :=
  " ".intercalate (e.message :: e.fields.map fun (name, value) => name ++ "=" ++ value)

/-- An answer and the events logged on the way to it, oldest first. -/
structure Logged (α : Type) where
  answer : α
  events : List Event
  deriving DecidableEq, Repr

def Logged.silent {α : Type} (answer : α) : Logged α :=
  ⟨answer, []⟩

@[simp] theorem Logged.answer_silent {α : Type} (answer : α) : (silent answer).answer = answer :=
  rfl

namespace Failure

/-- The event that reports a failure, at the level of its kind. -/
def event (f : Failure) : Event :=
  match f with
  | derivationFailure fault =>
      ⟨.library, .error, "Credential derivation failed", [("message", fault.message)]⟩
  | malformedRecord fault =>
      ⟨.library, .warn, "Malformed credential record", [("message", fault.message)]⟩
  | invalidConfig fault =>
      ⟨.library, .error, "Rejected hasher configuration", [("message", fault.message)]⟩
  | invalidInput _ => ⟨.library, .debug, "Credential input rejected", [("error", f.message)]⟩

/-- A failure as an answer, reported by its event. -/
def logged {α : Type} (f : Failure) : Logged (Except Failure α) :=
  ⟨.error f, [f.event]⟩

@[simp] theorem answer_logged {α : Type} (f : Failure) :
    (f.logged : Logged (Except Failure α)).answer = .error f :=
  rfl

end Failure

end PasswordHashing
