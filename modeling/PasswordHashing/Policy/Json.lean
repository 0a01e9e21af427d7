import PasswordHashing.Json.Value
import PasswordHashing.Policy

/-!
Policies as JSON. A policy is written as one object with all its settings in order, and read from
an object with any of them, in any order and among members of other names, or from an array of the
first few values. What is not given is as in the standard policy. A setting given twice is
refused.
-/

namespace PasswordHashing

inductive Setting where
  | workFactor
  | blockSize
  | parallelism
  | maxMemory
  | saltLength
  | keyLength
  | layout
  deriving DecidableEq, Repr

namespace Setting

/-- All settings in the order in which they are written. -/
def all : List Setting :=
  [workFactor, blockSize, parallelism, maxMemory, saltLength, keyLength, layout]

def name : Setting → String
  | workFactor => "work_factor"
  | blockSize => "block_size"
  | parallelism => "parallelism"
  | maxMemory => "max_memory"
  | saltLength => "salt_len"
  | keyLength => "key_len"
  | layout => "format"

def ofName? (name : String) : Option Setting :=
  all.find? fun setting => setting.name = name

end Setting

namespace Policy

def literal (text : String) : List Char :=
  '"' :: text.toList ++ ['"']

def written (p : Policy) : Setting → List Char
  | .workFactor => Decimal.render p.workFactor.toNat
  | .blockSize => Decimal.render p.blockSize.toNat
  | .parallelism => Decimal.render p.parallelism.toNat
  | .maxMemory => Decimal.render p.maxMemory.toNat
  | .saltLength => Decimal.render p.saltLength.toNat
  | .keyLength => Decimal.render p.keyLength.toNat
  | .layout => literal p.layout.name

/-- A policy as a JSON object without blanks. -/
def toJson (p : Policy) : String :=
  let members := Setting.all.map fun setting =>
    literal setting.name ++ [':'] ++ p.written setting
  String.ofList (['\x7b'] ++ [','].intercalate members ++ ['\x7d'])

/-- A number that is written with digits alone and does not exceed a bound. -/
def natural? (bound : Nat) : Json.Value → Option Nat
  | .number written =>
      match Decimal.readDigits bound 0 written with
      | .ok n => some n
      | .error _ => none
  | _ => none

/-- A layout: its name, or an object whose only key is its name and whose value is null. -/
def layout? : Json.Value → Option Layout
  | .string text => named text
  | .object [(key, .null)] => named key
  | _ => none
where
  named (text : Option String) : Option Layout :=
    [Layout.compact, Layout.selfDescribing].find? fun layout => text = some layout.name

def word? (value : Json.Value) : Option UInt64 :=
  (natural? (UInt64.size - 1) value).map Nat.toUInt64

def half? (value : Json.Value) : Option UInt32 :=
  (natural? (UInt32.size - 1) value).map Nat.toUInt32

def set? (p : Policy) (setting : Setting) (value : Json.Value) : Option Policy :=
  match setting with
  | .workFactor => (word? value).map fun n => { p with workFactor := n }
  | .blockSize => (half? value).map fun n => { p with blockSize := n }
  | .parallelism => (half? value).map fun n => { p with parallelism := n }
  | .maxMemory => (word? value).map fun n => { p with maxMemory := n }
  | .saltLength => (word? value).map fun n => { p with saltLength := n }
  | .keyLength => (word? value).map fun n => { p with keyLength := n }
  | .layout => (layout? value).map fun layout => { p with layout := layout }

/-- Read members from left to right, with the settings already `given`. Every key must have a text,
also one that names no setting. -/
def readMembers (p : Policy) (given : List Setting) :
    List (Option String × Json.Value) → Option Policy
  | [] => some p
  | (none, _) :: _ => none
  | (some key, value) :: members =>
      match Setting.ofName? key with
      | none => p.readMembers given members
      | some setting =>
          if setting ∈ given then none
          else
            match p.set? setting value with
            | none => none
            | some p => p.readMembers (setting :: given) members

/-- Read values of the given settings, of which there may be more than values. -/
def readItems (p : Policy) : List Setting → List Json.Value → Option Policy
  | _, [] => some p
  | [], _ :: _ => none
  | setting :: settings, value :: values =>
      match p.set? setting value with
      | none => none
      | some p => p.readItems settings values

def ofValue? : Json.Value → Option Policy
  | .object members => standard.readMembers [] members
  | .array items => standard.readItems Setting.all items
  | _ => none

def ofJson? (text : String) : Option Policy :=
  (Json.parse text.toList).bind ofValue?

end Policy

end PasswordHashing
