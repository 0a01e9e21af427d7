import PasswordHashing.Derivation.Pbkdf2
import PasswordHashing.Derivation.Salsa

/-!
The scrypt key derivation. Each of `p` lanes of `2 * r` blocks is stretched from the password and
the salt, stirred through a table of `2 ^ k` earlier states of itself, and the stirred lanes salt
the final stretching of the password. Main statement: `length_eq_of_derive`, a derived key has
exactly the length that was asked for.
-/

namespace PasswordHashing.Scrypt

open Salsa (Block)

abbrev Lane := Array Block

/-- One pass over the blocks from index `i` on: each is combined with the result `x` before it. The
results at even places come before those at odd places. -/
def mixFrom (lane : Lane) (i : Nat) (x : Block) (evens odds : Lane) : Lane :=
  if h : i < lane.size then
    let y := (x.xor lane[i]).core
    if i % 2 = 0 then mixFrom lane (i + 1) y (evens.push y) odds
    else mixFrom lane (i + 1) y evens (odds.push y)
  else evens ++ odds
termination_by lane.size - i

/-- One pass over a lane, begun with its last block. -/
def mix (lane : Lane) : Lane :=
  match lane.back? with
  | some x => mixFrom lane 0 x #[] #[]
  | none => #[]

/-- Mix `n` times and note each state before it is mixed. -/
def fill : (n : Nat) → Lane → (table : Array Lane) → Lane × Array Lane
  | 0, lane, table => (lane, table)
  | n + 1, lane, table => fill n (mix lane) (table.push lane)

/-- The number at the head of the last block: its first two words, the lower one first. -/
def index (lane : Lane) : Nat :=
  match lane.back? with
  | some x => x.x0.toNat + UInt32.size * x.x1.toNat
  | none => 0

/-- Mix `n` times, each time with the table entry that the state itself points to. -/
def stir (table : Array Lane) : (n : Nat) → Lane → Lane
  | 0, lane => lane
  | n + 1, lane =>
      let noted := table.getD (index lane % table.size) #[]
      stir table n (mix (Array.zipWith Block.xor lane noted))

/-- Fill a table of `n` states and stir as many times. -/
def stirred (n : Nat) (lane : Lane) : Lane :=
  let (last, table) := fill n lane (Array.mkEmpty n)
  stir table n last

/-- Four bytes as a little-endian word. -/
@[inline] def wordAt (bytes : ByteArray) (i : Nat) : UInt32 :=
  (Sha256.byteAt bytes i).toUInt32 ||| ((Sha256.byteAt bytes (i + 1)).toUInt32 <<< 8) |||
    ((Sha256.byteAt bytes (i + 2)).toUInt32 <<< 16) |||
    ((Sha256.byteAt bytes (i + 3)).toUInt32 <<< 24)

def blockAt (bytes : ByteArray) (i : Nat) : Block :=
  let x (j : Nat) := wordAt bytes (i + 4 * j)
  ⟨x 0, x 1, x 2, x 3, x 4, x 5, x 6, x 7, x 8, x 9, x 10, x 11, x 12, x 13, x 14, x 15⟩

/-- The lane of `2 * r` blocks at an index. -/
def laneAt (bytes : ByteArray) (r i : Nat) : Lane :=
  Array.ofFn fun j : Fin (2 * r) => blockAt bytes (i + 64 * j)

/-- Append a word, little-endian. -/
@[inline] def pushWord (out : ByteArray) (x : UInt32) : ByteArray :=
  (((out.push x.toUInt8).push (x >>> 8).toUInt8).push (x >>> 16).toUInt8).push (x >>> 24).toUInt8

def pushLane (out : ByteArray) (lane : Lane) : ByteArray :=
  lane.foldl (fun out block => block.words.foldl pushWord out) out

/-- Stir each of `p` lanes of `bytes`, `128 * r` bytes a lane, from lane `i` on. -/
def stirLanes (n r : Nat) (bytes : ByteArray) : (p i : Nat) → (out : ByteArray) → ByteArray
  | 0, _, out => out
  | p + 1, i, out =>
      stirLanes n r bytes p (i + 1) (pushLane out (stirred n (laneAt bytes r (128 * r * i))))

/-- The longest key the derivation can give: the number of a 32-byte part is one word. -/
def maxLength : Nat := (UInt32.size - 1) * 32

/-- The key for an absorbed password: `length` bytes from `p` lanes of `2 * r` blocks with a table
of `n` states. -/
def stretch (key : Hmac.Key) (salt : List UInt8) (n r p length : Nat) : List UInt8 :=
  let lanes := Pbkdf2.stretch key ⟨salt.toArray⟩ (128 * r * p)
  (Pbkdf2.stretch key (stirLanes n r lanes p 0 .empty) length).data.toList

@[simp] theorem length_stretch (key : Hmac.Key) (salt : List UInt8) (n r p length : Nat) :
    (stretch key salt n r p length).length = length := by
  rw [stretch, Array.length_toList]
  exact Pbkdf2.size_stretch _ _ _

/-- The key for a password, or nothing if no key of that length can be given. -/
def derive (password salt : List UInt8) (n r p length : Nat) : Option (List UInt8) :=
  if 0 < length ∧ length ≤ maxLength then
    some (stretch (.ofBytes password) salt n r p length)
  else none

theorem length_eq_of_derive {password salt key : List UInt8} {n r p length : Nat}
    (hDerive : derive password salt n r p length = some key) : key.length = length := by
  unfold derive at hDerive
  split at hDerive
  · obtain rfl := Option.some.inj hDerive
    exact length_stretch _ _ _ _ _ _
  · cases hDerive

/-- A password enters a derivation only through its key block. -/
theorem derive_eq_of_keyBlock_eq {password other : List UInt8}
    (hBlock : Hmac.keyBlock password = Hmac.keyBlock other) :
    derive password = derive other := by
  funext salt n r p length
  simp only [derive, Hmac.Key.ofBytes, hBlock]

end PasswordHashing.Scrypt
