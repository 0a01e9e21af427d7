import PasswordHashing.Text.Decimal
import PasswordHashing.Text.Inspect

/-!
The cost of a key derivation: how much work and memory one password takes. A cost carried by a
record is arbitrary, so that its numbers are only words; `Cost.fault?` tells which costs a
derivation can be run with, and `Cost.memory?` what it would allocate.
-/

namespace PasswordHashing

/-- The cost parameters of a key derivation. The work factor is kept as its binary logarithm. -/
structure Cost where
  logN : UInt8
  blockSize : UInt32
  parallelism : UInt32
  deriving DecidableEq, Repr

namespace Cost

/-- The cost of records that name none. -/
def standard : Cost := ⟨14, 8, 1⟩

/-- A number, if a word of 64 bits can hold it. -/
def word? (n : Nat) : Option Nat :=
  if n < UInt64.size then some n else none

def workFactor? (c : Cost) : Option Nat :=
  if c.logN < 64 then some (Nat.pow 2 c.logN.toNat) else none

/-- The bytes a derivation allocates: 128 for each unit of the block size, times the work factor,
the parallelism and two more. Nothing if any step exceeds a word. -/
def memory? (c : Cost) : Option Nat := do
  let n ← c.workFactor?
  let rows ← word? (n + c.parallelism.toNat)
  let rows ← word? (rows + 2)
  let units ← word? (rows * c.blockSize.toNat)
  word? (units * 128)

inductive Fault where
  | outOfRange (logN : UInt8)
  | zeroFactor
  | refused
  deriving DecidableEq, Repr

def Fault.message : Fault → String
  | .outOfRange logN => "ln=" ++ Decimal.text logN.toNat ++ " is out of range"
  | .zeroFactor => "block size and parallelism must be at least 1"
  | .refused => "invalid scrypt parameters"

/-- What keeps a derivation from being run, if anything does: every factor must be positive, the
tables must be addressable by a word, the work factor must be below `2 ^ (16 * r)`, and block size
times parallelism below `2 ^ 30`. -/
def fault? (c : Cost) : Option Fault :=
  let n := Nat.pow 2 c.logN.toNat
  let r := c.blockSize.toNat
  let p := c.parallelism.toNat
  if c.logN = 0 ∨ 64 ≤ c.logN then some (.outOfRange c.logN)
  else if c.blockSize = 0 ∨ c.parallelism = 0 then some .zeroFactor
  else if UInt64.size ≤ 128 * r * n ∨ UInt64.size ≤ 128 * r * p ∨ 16 * r ≤ c.logN.toNat ∨
      0x40000000 ≤ r * p then
    some .refused
  else none

/-- The cost as records carry it. -/
def chars (c : Cost) : List Char :=
  ['l', 'n', '='] ++ Decimal.render c.logN.toNat ++
    [',', 'r', '='] ++ Decimal.render c.blockSize.toNat ++
    [',', 'p', '='] ++ Decimal.render c.parallelism.toNat

def text (c : Cost) : String :=
  String.ofList c.chars

def inspect (c : Cost) : String :=
  Text.Inspect.fields "ScryptParams"
    [("log_n", Decimal.text c.logN.toNat), ("block_size", Decimal.text c.blockSize.toNat),
     ("parallelism", Decimal.text c.parallelism.toNat)]

end Cost

end PasswordHashing
