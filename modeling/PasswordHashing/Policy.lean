import PasswordHashing.Event
import PasswordHashing.Text.Blank

/-!
The policy for new records: their cost, the lengths of salt and key, their layout, and the memory
that one derivation may take. `Policy.check` accepts a policy as a whole, once, and gives the cost
it stands for.
-/

namespace PasswordHashing

/-- How a record is laid out as text. -/
inductive Layout where
  /-- The salt and the key; the cost is the standard one. -/
  | compact
  /-- The algorithm, the cost, the salt and the key. -/
  | selfDescribing
  deriving DecidableEq, Repr

namespace Layout

/-- The name of a layout in configuration files. -/
def name : Layout → String
  | compact => "compact"
  | selfDescribing => "self-describing"

def inspect : Layout → String
  | compact => "Compact"
  | selfDescribing => "SelfDescribing"

/-- The layout of a name, as an operator may spell it: blanks around it and the case of ASCII
letters do not matter, and an underscore may join the two words. -/
def ofText (text : String) : Except PolicyFault Layout :=
  let name := String.ofList ((Text.trim text.toList).map Char.toLower)
  if name = "compact" then .ok .compact
  else if name = "self-describing" ∨ name = "self_describing" then .ok .selfDescribing
  else .error (.unknownLayout name)

end Layout

/-- What new records are made with, and how much memory one derivation may take. Any word is allowed
in any place until the policy is checked. -/
structure Policy where
  workFactor : UInt64
  blockSize : UInt32
  parallelism : UInt32
  maxMemory : UInt64
  saltLength : UInt64
  keyLength : UInt64
  layout : Layout
  deriving DecidableEq, Repr

namespace Policy

/-- The standard cost, a ceiling of 32 MiB, 16 bytes of salt and 64 bytes of key. -/
def standard : Policy where
  workFactor := 16384
  blockSize := 8
  parallelism := 1
  maxMemory := 33554432
  saltLength := 16
  keyLength := 64
  layout := .selfDescribing

/-- The standard policy for compact records. -/
def compact : Policy :=
  { standard with layout := .compact }

/-- Twice the work and the memory of the standard policy. -/
def interactive : Policy :=
  { standard with workFactor := 32768, maxMemory := 67108864 }

/-- A cheap policy for trials. -/
def testing : Policy :=
  { standard with workFactor := 1024 }

def within (range : Nat × Nat) (length : UInt64) : Prop :=
  range.1 ≤ length.toNat ∧ length.toNat ≤ range.2

instance (range : Nat × Nat) (length : UInt64) : Decidable (within range length) :=
  inferInstanceAs (Decidable (_ ∧ _))

/-- The cost a policy stands for, with its work factor as a logarithm. It is meant for work factors
that are powers of two. -/
def cost (p : Policy) : Cost :=
  ⟨p.workFactor.toNat.log2.toUInt8, p.blockSize, p.parallelism⟩

/-- Accept a policy and give its cost. Of several faults the one checked first is reported: work
factor, lengths of salt and key, cost, memory, and last the layout, since compact records must have
the standard cost and key length. -/
def check (p : Policy) : Except PolicyFault Cost :=
  if p.workFactor < 2 ∨ Nat.pow 2 p.workFactor.toNat.log2 ≠ p.workFactor.toNat then
    .error (.workFactor p.workFactor)
  else if ¬ within saltLengths p.saltLength then .error (.saltLength p.saltLength)
  else if ¬ within keyLengths p.keyLength then .error (.keyLength p.keyLength)
  else
    match p.cost.fault? with
    | some fault => .error (.cost fault)
    | none =>
        match p.cost.memory? with
        | none => .error .memoryOverflow
        | some needed =>
            if p.maxMemory.toNat < needed then .error (.aboveCeiling needed p.maxMemory)
            else if p.layout = .compact ∧
                (p.cost ≠ .standard ∨ p.keyLength ≠ standard.keyLength) then
              .error .compactCost
            else .ok p.cost

def inspect (p : Policy) : String :=
  Text.Inspect.fields "HasherConfig"
    [("work_factor", Decimal.text p.workFactor.toNat),
     ("block_size", Decimal.text p.blockSize.toNat),
     ("parallelism", Decimal.text p.parallelism.toNat),
     ("max_memory", Decimal.text p.maxMemory.toNat),
     ("salt_len", Decimal.text p.saltLength.toNat),
     ("key_len", Decimal.text p.keyLength.toNat),
     ("format", p.layout.inspect)]

end Policy

end PasswordHashing
