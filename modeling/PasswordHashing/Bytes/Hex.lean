import PasswordHashing.Text.Quoted
import PasswordHashing.Text.Decimal

/-!
Bytes as pairs of hexadecimal digits, written in lower case and read in either case. `decode_encode`
says that reading undoes writing. A fault is located in the UTF-8 form of the text.
-/

namespace PasswordHashing.Hex

def digit (n : Nat) : Char :=
  if n < 10 then Char.ofNat (48 + n) else Char.ofNat (87 + n)

def digit? (c : Char) : Option Nat :=
  let n := c.toNat
  if 48 ≤ n ∧ n ≤ 57 then some (n - 48)
  else if 97 ≤ n ∧ n ≤ 102 then some (n - 87)
  else if 65 ≤ n ∧ n ≤ 70 then some (n - 55)
  else none

def encode (bytes : List UInt8) : List Char :=
  bytes.flatMap fun b => [digit (b.toNat / 16), digit (b.toNat % 16)]

inductive Fault where
  /-- The UTF-8 form has an odd number of bytes. -/
  | oddLength
  /-- The first byte of the UTF-8 form that is no digit, and its index. -/
  | badByte (byte : UInt8) (position : Nat)
  deriving DecidableEq, Repr

/-- The fault in words. The byte is shown as the character of that number. -/
def Fault.message : Fault → String
  | .oddLength => "Odd number of digits"
  | .badByte byte position =>
      "Invalid character " ++ Text.Quoted.char (Char.ofNat byte.toNat) ++ " at position " ++
        Decimal.text position

/-- The values of the digits, the first of them at index `position`. All characters before a fault
are ASCII, so that an index counts characters and bytes alike. -/
def digits (position : Nat) : List Char → Except Fault (List Nat)
  | [] => .ok []
  | c :: cs =>
      match digit? c with
      | none => .error (.badByte ((String.utf8EncodeChar c).headD 0) position)
      | some d => (digits (position + 1) cs).map (d :: ·)

def pairs : List Nat → List UInt8
  | high :: low :: rest => UInt8.ofNat (16 * high + low) :: pairs rest
  | _ => []

/-- The length of the UTF-8 form. -/
def width : List Char → Nat
  | [] => 0
  | c :: cs => c.utf8Size + width cs

def decode (cs : List Char) : Except Fault (List UInt8) :=
  if width cs % 2 = 1 then .error .oddLength
  else (digits 0 cs).map pairs

theorem digit?_digit {n : Nat} (hLt : n < 16) : digit? (digit n) = some n := by
  have hAll : ∀ n : Fin 16, digit? (digit n) = some n.val := by decide
  exact hAll ⟨n, hLt⟩

theorem utf8Size_digit {n : Nat} (hLt : n < 16) : (digit n).utf8Size = 1 := by
  have hAll : ∀ n : Fin 16, (digit n).utf8Size = 1 := by decide
  exact hAll ⟨n, hLt⟩

@[simp] theorem encode_nil : encode [] = [] := rfl

@[simp] theorem encode_cons (b : UInt8) (bytes : List UInt8) :
    encode (b :: bytes) = digit (b.toNat / 16) :: digit (b.toNat % 16) :: encode bytes := rfl

/-- What holds of the sixteen digits holds of all that is written. -/
theorem forall_mem_encode {P : Char → Prop} (hDigit : ∀ n : Fin 16, P (digit n))
    (bytes : List UInt8) : ∀ c ∈ encode bytes, P c := by
  induction bytes with
  | nil => exact List.forall_mem_nil P
  | cons b bytes ih =>
      have hLt := b.toNat_lt
      intro c hMem
      rw [encode_cons, List.mem_cons, List.mem_cons] at hMem
      rcases hMem with rfl | rfl | hMem
      · exact hDigit ⟨b.toNat / 16, by omega⟩
      · exact hDigit ⟨b.toNat % 16, by omega⟩
      · exact ih c hMem

@[simp] theorem length_encode (bytes : List UInt8) : (encode bytes).length = 2 * bytes.length := by
  induction bytes with
  | nil => rfl
  | cons b bytes ih => simp [ih]; omega

/-- Of what is written for a byte, its upper half is read first. -/
theorem digits_encode (bytes : List UInt8) (position : Nat) :
    digits position (encode bytes) =
      .ok (bytes.flatMap fun b => [b.toNat / 16, b.toNat % 16]) := by
  induction bytes generalizing position with
  | nil => rfl
  | cons b bytes ih =>
      have hLt := b.toNat_lt
      simp [digits, digit?_digit (show b.toNat / 16 < 16 by omega),
        digit?_digit (show b.toNat % 16 < 16 by omega), ih, Except.map]

theorem pairs_digits (bytes : List UInt8) :
    pairs (bytes.flatMap fun b => [b.toNat / 16, b.toNat % 16]) = bytes := by
  induction bytes with
  | nil => rfl
  | cons b bytes ih =>
      have hByte : 16 * (b.toNat / 16) + b.toNat % 16 = b.toNat := by omega
      simp [pairs, ih, hByte]

theorem width_encode (bytes : List UInt8) :
    width (encode bytes) = 2 * bytes.length := by
  induction bytes with
  | nil => rfl
  | cons b bytes ih =>
      have hLt := b.toNat_lt
      simp [width, utf8Size_digit (show b.toNat / 16 < 16 by omega),
        utf8Size_digit (show b.toNat % 16 < 16 by omega), ih]
      omega

/-- Bytes are read back from their digits, whatever they are. -/
@[simp] theorem decode_encode (bytes : List UInt8) : decode (encode bytes) = .ok bytes := by
  simp [decode, width_encode, digits_encode, pairs_digits, Except.map]

end PasswordHashing.Hex
