import PasswordHashing.Bytes.Hex
import PasswordHashing.Cost

/-!
What can go wrong, by cause. A failure is of one of four kinds, by who has to act: the caller, the
keeper of the stored records, the operator of the machine, or the author of the policy. A password
that does not match is no failure. Each cause has its wording in one place.
-/

namespace PasswordHashing

/-- Lengths of random salts that a policy may ask for, in bytes. -/
def saltLengths : Nat × Nat := (8, 64)

/-- Lengths of derived keys, in bytes. -/
def keyLengths : Nat × Nat := (16, 64)

def rangeText (range : Nat × Nat) : String :=
  Decimal.text range.1 ++ "..=" ++ Decimal.text range.2

/-- The most derivations that a pool may allow to run at a time. -/
def maxPermits : Nat := 0x1fffffffffffffff

inductive InputFault where
  | emptyPassword
  | unusableSalt
  | emptyAccount
  /-- A caller's own words. -/
  | described (text : String)
  deriving DecidableEq, Repr

def InputFault.message : InputFault → String
  | .emptyPassword => "password must not be empty"
  | .unusableSalt => "salt must be non-empty and must not contain ':'"
  | .emptyAccount => "did must not be empty"
  | .described text => text

inductive RecordFault where
  | unsupportedTag (tag : String)
  | fieldCount (count : Nat)
  | badParameter (item : String)
  | badValue (name value : String)
  | unknownParameter (name : String)
  | duplicateParameter (name : String)
  | missingParameter
  | emptySalt
  | keyNotHex (fault : Hex.Fault)
  | keyLength (length : Nat)
  | unusableCost (cost : Cost) (fault : Cost.Fault)
  /-- A caller's own words. -/
  | described (text : String)
  deriving DecidableEq, Repr

def RecordFault.message : RecordFault → String
  | .unsupportedTag tag => "unsupported algorithm tag " ++ Text.Quoted.text tag
  | .fieldCount count => "expected 2 or 4 fields, got " ++ Decimal.text count
  | .badParameter item => "bad parameter " ++ Text.Quoted.text item
  | .badValue name value => "parameter " ++ name ++ " has bad value " ++ Text.Quoted.text value
  | .unknownParameter name => "unknown parameter " ++ Text.Quoted.text name
  | .duplicateParameter name => "duplicate parameter " ++ Text.Quoted.text name
  | .missingParameter => "parameters must include ln, r and p"
  | .emptySalt => "empty salt"
  | .keyNotHex fault => "derived key is not hex: " ++ fault.message
  | .keyLength length =>
      "derived key is " ++ Decimal.text length ++ " bytes, expected " ++ rangeText keyLengths
  | .unusableCost cost fault => "unusable parameters " ++ cost.text ++ ": " ++ fault.message
  | .described text => text

inductive DerivationFault where
  | cost (fault : Cost.Fault)
  /-- The memory needed, nothing if it exceeds a word, and the ceiling below it. -/
  | aboveCeiling (cost : Cost) (needed : Option Nat) (ceiling : UInt64)
  | keyLength
  /-- A worker ended without an answer. -/
  | workerFailed (reason : String)
  /-- A caller's own words. -/
  | described (text : String)
  deriving DecidableEq, Repr

def DerivationFault.message : DerivationFault → String
  | .cost fault => fault.message
  | .aboveCeiling c needed ceiling =>
      "parameters " ++ c.text ++ " need " ++
        (match needed with
          | some bytes => Decimal.text bytes
          | none => "more than u64::MAX") ++
        " bytes, above the " ++ Decimal.text ceiling.toNat ++ " byte ceiling"
  | .keyLength => "invalid output buffer length"
  | .workerFailed reason => "hashing worker failed: " ++ reason
  | .described text => text

inductive PolicyFault where
  | workFactor (workFactor : UInt64)
  | saltLength (length : UInt64)
  | keyLength (length : UInt64)
  | cost (fault : Cost.Fault)
  | aboveCeiling (needed : Nat) (ceiling : UInt64)
  | memoryOverflow
  | compactCost
  | unknownLayout (name : String)
  | inFlight (count : UInt64)
  /-- A caller's own words. -/
  | described (text : String)
  deriving DecidableEq, Repr

def PolicyFault.message : PolicyFault → String
  | .workFactor n =>
      "work factor must be a power of two greater than 1 (got " ++ Decimal.text n.toNat ++ ")"
  | .saltLength length =>
      "salt length must be within " ++ rangeText saltLengths ++ " bytes (got " ++
        Decimal.text length.toNat ++ ")"
  | .keyLength length =>
      "key length must be within " ++ rangeText keyLengths ++ " bytes (got " ++
        Decimal.text length.toNat ++ ")"
  | .cost fault => fault.message
  | .aboveCeiling needed ceiling =>
      "parameters need " ++ Decimal.text needed ++ " bytes, above the " ++
        Decimal.text ceiling.toNat ++ " byte ceiling"
  | .memoryOverflow => "memory requirement overflows u64"
  | .compactCost => "compact records require N=16384, r=8, p=1 and a 64 byte key"
  | .unknownLayout name => "unknown record format " ++ Text.Quoted.text name
  | .inFlight count =>
      "max in-flight derivations must be within " ++ rangeText (1, maxPermits) ++ " (got " ++
        Decimal.text count.toNat ++ ")"
  | .described text => text

/-- A failure: its kind and its cause. -/
inductive Failure where
  | invalidInput (fault : InputFault)
  | malformedRecord (fault : RecordFault)
  | derivationFailure (fault : DerivationFault)
  | invalidConfig (fault : PolicyFault)
  deriving DecidableEq, Repr

namespace Failure

def kind : Failure → String
  | invalidInput _ => "InvalidInput"
  | malformedRecord _ => "MalformedRecord"
  | derivationFailure _ => "DerivationFailure"
  | invalidConfig _ => "InvalidConfig"

/-- The kind of failure in words. -/
def heading : Failure → String
  | invalidInput _ => "Invalid input"
  | malformedRecord _ => "Malformed credential record"
  | derivationFailure _ => "Key derivation failed"
  | invalidConfig _ => "Invalid hasher configuration"

def reason : Failure → String
  | invalidInput fault => fault.message
  | malformedRecord fault => fault.message
  | derivationFailure fault => fault.message
  | invalidConfig fault => fault.message

def message (f : Failure) : String :=
  f.heading ++ ": " ++ f.reason

def inspect (f : Failure) : String :=
  Text.Inspect.wrapped f.kind (Text.Quoted.text f.reason)

/-- Whether stored data are to blame, rather than the caller or the machine. Such a failure must
never be reported as a wrong password. -/
def isIntegrityProblem : Failure → Bool
  | malformedRecord _ => true
  | _ => false

end Failure

end PasswordHashing
