import PasswordHashing.Derivation.Sha256

/-!
Keyed hashing with SHA-256 and the one-round key stretching built on it. A key enters only through
its `keyBlock` of 64 bytes, so two keys with one block are interchangeable. Main statement:
`size_stretch`, stretching gives exactly as many bytes as were asked for.
-/

namespace PasswordHashing

namespace Hmac

/-- The 64 bytes a key stands for: a key of at most 64 bytes itself, a longer one its digest, with
zeros after it. -/
def keyBlock (key : List UInt8) : List UInt8 :=
  let short := if key.length ≤ 64 then key else Sha256.digest key
  short ++ List.replicate (64 - short.length) 0

/-- A key that has been absorbed: the chaining values from which the inner and the outer hash
continue. -/
structure Key where
  inner : Sha256.Chain
  outer : Sha256.Chain

def Key.ofBlock (block : List UInt8) : Key :=
  let absorbed (mask : UInt8) :=
    Sha256.Chain.start.absorb ⟨(block.map (· ^^^ mask)).toArray⟩ 1 0
  ⟨absorbed 0x36, absorbed 0x5c⟩

def Key.ofBytes (key : List UInt8) : Key :=
  .ofBlock (keyBlock key)

def Key.tag (key : Key) (message : ByteArray) : Sha256.Chain :=
  key.outer.finish 64 (key.inner.finish 64 message).bytes

end Hmac

namespace Pbkdf2

/-- Append `parts` blocks of the key stream from block `i` on. Block `i` has 32 bytes: the tag of
the salt followed by `i` as a big-endian word. -/
def appendStream (key : Hmac.Key) (salt : ByteArray) :
    (parts i : Nat) → (out : ByteArray) → ByteArray
  | 0, _, out => out
  | parts + 1, i, out =>
      appendStream key salt parts (i + 1) ((key.tag (Sha256.pushWord salt i.toUInt32)).pushTo out)

@[simp] theorem size_appendStream (key : Hmac.Key) (salt : ByteArray) (parts i : Nat)
    (out : ByteArray) : (appendStream key salt parts i out).size = out.size + 32 * parts := by
  induction parts generalizing i out with
  | zero => rfl
  | succ parts ih => simp [appendStream, ih]; omega

/-- The first `size` bytes of the key stream, whose blocks are counted from one. -/
def stretch (key : Hmac.Key) (salt : ByteArray) (size : Nat) : ByteArray :=
  (appendStream key salt ((size + 31) / 32) 1 .empty).extract 0 size

@[simp] theorem size_stretch (key : Hmac.Key) (salt : ByteArray) (size : Nat) :
    (stretch key salt size).size = size := by
  simp [stretch]; omega

end Pbkdf2

end PasswordHashing
