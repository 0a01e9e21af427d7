/-!
SHA-256 over byte strings. A message is padded to whole blocks of sixteen words, and each block is
compressed into a chaining value of eight words; the last chaining value, written big-endian, is the
digest. A computation may start from a chaining value that has absorbed whole blocks before, which
is what keyed hashing needs. The length of a digest is `length_digest`.
-/

namespace PasswordHashing.Sha256

/-- The eight words carried from one block to the next. -/
structure Chain where
  a : UInt32
  b : UInt32
  c : UInt32
  d : UInt32
  e : UInt32
  f : UInt32
  g : UInt32
  h : UInt32
  deriving DecidableEq

def Chain.start : Chain :=
  ⟨0x6a09e667, 0xbb67ae85, 0x3c6ef372, 0xa54ff53a, 0x510e527f, 0x9b05688c, 0x1f83d9ab, 0x5be0cd19⟩

def roundConstants : List UInt32 :=
  [0x428a2f98, 0x71374491, 0xb5c0fbcf, 0xe9b5dba5, 0x3956c25b, 0x59f111f1, 0x923f82a4, 0xab1c5ed5,
   0xd807aa98, 0x12835b01, 0x243185be, 0x550c7dc3, 0x72be5d74, 0x80deb1fe, 0x9bdc06a7, 0xc19bf174,
   0xe49b69c1, 0xefbe4786, 0x0fc19dc6, 0x240ca1cc, 0x2de92c6f, 0x4a7484aa, 0x5cb0a9dc, 0x76f988da,
   0x983e5152, 0xa831c66d, 0xb00327c8, 0xbf597fc7, 0xc6e00bf3, 0xd5a79147, 0x06ca6351, 0x14292967,
   0x27b70a85, 0x2e1b2138, 0x4d2c6dfc, 0x53380d13, 0x650a7354, 0x766a0abb, 0x81c2c92e, 0x92722c85,
   0xa2bfe8a1, 0xa81a664b, 0xc24b8b70, 0xc76c51a3, 0xd192e819, 0xd6990624, 0xf40e3585, 0x106aa070,
   0x19a4c116, 0x1e376c08, 0x2748774c, 0x34b0bcb5, 0x391c0cb3, 0x4ed8aa4a, 0x5b9cca4f, 0x682e6ff3,
   0x748f82ee, 0x78a5636f, 0x84c87814, 0x8cc70208, 0x90befffa, 0xa4506ceb, 0xbef9a3f7, 0xc67178f2]

@[inline] def rotateRight (x n : UInt32) : UInt32 :=
  (x >>> n) ||| (x <<< (32 - n))

@[inline] def bigSigma0 (x : UInt32) : UInt32 :=
  rotateRight x 2 ^^^ rotateRight x 13 ^^^ rotateRight x 22

@[inline] def bigSigma1 (x : UInt32) : UInt32 :=
  rotateRight x 6 ^^^ rotateRight x 11 ^^^ rotateRight x 25

@[inline] def smallSigma0 (x : UInt32) : UInt32 :=
  rotateRight x 7 ^^^ rotateRight x 18 ^^^ (x >>> 3)

@[inline] def smallSigma1 (x : UInt32) : UInt32 :=
  rotateRight x 17 ^^^ rotateRight x 19 ^^^ (x >>> 10)

@[inline] def choose (x y z : UInt32) : UInt32 :=
  (x &&& y) ^^^ ((~~~ x) &&& z)

@[inline] def majority (x y z : UInt32) : UInt32 :=
  (x &&& y) ^^^ (x &&& z) ^^^ (y &&& z)

/-- The rounds for the given constants, from round `t` on. The schedule keeps only the sixteen words
that later rounds still need: word `t` lies at index `t % 16` and makes room for word `t + 16`. -/
def rounds : List UInt32 → Nat → Vector UInt32 16 →
    (a b c d e f g h : UInt32) → Chain
  | [], _, _, a, b, c, d, e, f, g, h => ⟨a, b, c, d, e, f, g, h⟩
  | k :: ks, t, w, a, b, c, d, e, f, g, h =>
      let word := w[t % 16]
      let later :=
        word + smallSigma0 w[(t + 1) % 16] + w[(t + 9) % 16] + smallSigma1 w[(t + 14) % 16]
      let t₁ := h + bigSigma1 e + choose e f g + k + word
      let t₂ := bigSigma0 a + majority a b c
      rounds ks (t + 1) (w.set (t % 16) later) (t₁ + t₂) a b c (d + t₁) e f g

def Chain.compress (s : Chain) (block : Vector UInt32 16) : Chain :=
  let r := rounds roundConstants 0 block s.a s.b s.c s.d s.e s.f s.g s.h
  ⟨s.a + r.a, s.b + r.b, s.c + r.c, s.d + r.d, s.e + r.e, s.f + r.f, s.g + r.g, s.h + r.h⟩

/-- The byte at an index, zero past the end. -/
@[inline] def byteAt (bytes : ByteArray) (i : Nat) : UInt8 :=
  if h : i < bytes.size then bytes[i] else 0

/-- Four bytes as a big-endian word. -/
@[inline] def wordAt (bytes : ByteArray) (i : Nat) : UInt32 :=
  ((byteAt bytes i).toUInt32 <<< 24) ||| ((byteAt bytes (i + 1)).toUInt32 <<< 16) |||
    ((byteAt bytes (i + 2)).toUInt32 <<< 8) ||| (byteAt bytes (i + 3)).toUInt32

/-- Absorb `count` blocks of 64 bytes, the first at index `i`. -/
def Chain.absorb (bytes : ByteArray) : (count i : Nat) → Chain → Chain
  | 0, _, s => s
  | count + 1, i, s =>
      absorb bytes count (i + 64) (s.compress (Vector.ofFn fun j => wordAt bytes (i + 4 * j)))

/-- Append a word, big-endian. -/
@[inline] def pushWord (out : ByteArray) (x : UInt32) : ByteArray :=
  (((out.push (x >>> 24).toUInt8).push (x >>> 16).toUInt8).push (x >>> 8).toUInt8).push x.toUInt8

@[simp] theorem size_pushWord (out : ByteArray) (x : UInt32) :
    (pushWord out x).size = out.size + 4 := by
  simp [pushWord, ByteArray.size_push]

def pushZeros : Nat → ByteArray → ByteArray
  | 0, out => out
  | n + 1, out => pushZeros n (out.push 0)

/-- The message with its padding: a one bit, zeros, and the length in bits of all that was hashed,
`before` bytes in earlier blocks included. The result is a whole number of blocks. -/
def pad (before : Nat) (message : ByteArray) : ByteArray :=
  let bits := 8 * (before + message.size)
  let marked := pushZeros ((119 - message.size % 64) % 64) (message.push 0x80)
  pushWord (pushWord marked (bits / UInt32.size).toUInt32) bits.toUInt32

/-- The chaining value after the last message bytes and their padding, when `before` bytes (whole
blocks) were absorbed earlier. -/
def Chain.finish (s : Chain) (before : Nat) (message : ByteArray) : Chain :=
  let padded := pad before message
  absorb padded (padded.size / 64) 0 s

/-- Append the eight words, big-endian. -/
def Chain.pushTo (s : Chain) (out : ByteArray) : ByteArray :=
  pushWord (pushWord (pushWord (pushWord (pushWord (pushWord (pushWord (pushWord out
    s.a) s.b) s.c) s.d) s.e) s.f) s.g) s.h

@[simp] theorem Chain.size_pushTo (s : Chain) (out : ByteArray) :
    (s.pushTo out).size = out.size + 32 := by
  simp [pushTo]

def Chain.bytes (s : Chain) : ByteArray :=
  s.pushTo .empty

@[simp] theorem Chain.size_bytes (s : Chain) : s.bytes.size = 32 := by
  simp [bytes]

def digest (message : List UInt8) : List UInt8 :=
  (Chain.start.finish 0 ⟨message.toArray⟩).bytes.data.toList

@[simp] theorem length_digest (message : List UInt8) : (digest message).length = 32 := by
  rw [digest, Array.length_toList]
  generalize Chain.start.finish 0 ⟨message.toArray⟩ = s
  exact s.size_bytes

end PasswordHashing.Sha256
