import PasswordHashing.Bytes.Utf8
import PasswordHashing.Password
import PasswordHashing.Record

/-!
The settings of a check, from variables. Numbers and the layout may have blanks around them, a
password may not; a blank record counts as none. The lengths of salt and key are those of the
standard policy.
-/

namespace PasswordHashing

structure Settings where
  policy : Policy
  maxInFlight : UInt64
  password : Password
  /-- The record to verify; without one a record is made. -/
  record : Option Record

inductive SettingsFault where
  /-- A variable holds no number that fits. -/
  | number (name value : String) (fault : Decimal.Fault)
  | layout (fault : PolicyFault)
  | missingPassword
  | emptyPassword
  deriving DecidableEq, Repr

/-- The fault in words, followed by its cause if it has one. -/
def SettingsFault.chain : SettingsFault → List String
  | .number name value fault =>
      [name ++ " has invalid value " ++ Text.Quoted.text value, fault.message]
  | .layout fault => [(Failure.invalidConfig fault).message]
  | .missingPassword => ["CREDENTIAL_PASSWORD (or BSKY_TEST_PASSWORD) must be set"]
  | .emptyPassword =>
      ["password from environment", (Failure.invalidInput .emptyPassword).message]

namespace Settings

/-- The bound on running derivations when none is given. -/
def standardInFlight : Nat := 4

/-- The number in a variable, or a default if the variable is absent. -/
def numberIn (given : String → Option String) (name : String) (bound default : Nat) :
    Except SettingsFault Nat :=
  match given name with
  | none => .ok default
  | some value =>
      match Decimal.read bound (Text.trim value.toList) with
      | .ok n => .ok n
      | .error fault => .error (.number name value fault)

def layoutIn (given : String → Option String) : Except SettingsFault Layout :=
  match given "CREDENTIAL_FORMAT" with
  | none => .ok Policy.standard.layout
  | some value =>
      match Layout.ofText value with
      | .ok layout => .ok layout
      | .error fault => .error (.layout fault)

/-- The password in the first of its two variables that is present. -/
def passwordIn (given : String → Option String) : Except SettingsFault Password :=
  match given "CREDENTIAL_PASSWORD" <|> given "BSKY_TEST_PASSWORD" with
  | none => .error .missingPassword
  | some value =>
      match Password.ofBytes (Utf8.encode value) with
      | .ok password => .ok password
      | .error _ => .error .emptyPassword

/-- The record in its variable, unless that is absent or blank. -/
def recordIn (given : String → Option String) : Option Record :=
  match given "CREDENTIAL_RECORD" with
  | none => none
  | some value =>
      match Text.trim value.toList with
      | [] => none
      | cs => some ⟨String.ofList cs⟩

/-- The settings in variables. The first fault in this order is reported. -/
def ofVariables (given : String → Option String) : Except SettingsFault Settings := do
  let standard := Policy.standard
  let word := UInt64.size - 1
  let half := UInt32.size - 1
  let workFactor ← numberIn given "CREDENTIAL_WORK_FACTOR" word standard.workFactor.toNat
  let blockSize ← numberIn given "CREDENTIAL_BLOCK_SIZE" half standard.blockSize.toNat
  let parallelism ← numberIn given "CREDENTIAL_PARALLELISM" half standard.parallelism.toNat
  let maxMemory ← numberIn given "CREDENTIAL_MAX_MEMORY" word standard.maxMemory.toNat
  let layout ← layoutIn given
  let maxInFlight ← numberIn given "CREDENTIAL_MAX_IN_FLIGHT" word standardInFlight
  let password ← passwordIn given
  let policy : Policy := {
    standard with
    workFactor := workFactor.toUInt64, blockSize := blockSize.toUInt32,
    parallelism := parallelism.toUInt32, maxMemory := maxMemory.toUInt64, layout := layout }
  return ⟨policy, maxInFlight.toUInt64, password, recordIn given⟩

def inspect (s : Settings) : String :=
  Text.Inspect.fields "CheckConfig"
    [("hasher", s.policy.inspect), ("max_in_flight", Decimal.text s.maxInFlight.toNat),
     ("password", s.password.inspect),
     ("record", Text.Inspect.optional (s.record.map Record.inspect))]

end Settings

end PasswordHashing
