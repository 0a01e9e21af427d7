import PasswordHashing.Hasher
import PasswordHashing.Password

/-!
App passwords: further passwords of an account, made by the machine and revocable one by one. Their
salt is a function of the account, so that equal passwords of one account have equal records, and a
record of another account is a mismatch.
-/

namespace PasswordHashing.AppPassword

/-- The letters and digits of app passwords: base32 in lower case. -/
def alphabet : Vector UInt8 32 :=
  #v[0x61, 0x62, 0x63, 0x64, 0x65, 0x66, 0x67, 0x68, 0x69, 0x6a, 0x6b, 0x6c, 0x6d,
    0x6e, 0x6f, 0x70, 0x71, 0x72, 0x73, 0x74, 0x75, 0x76, 0x77, 0x78, 0x79, 0x7a,
    0x32, 0x33, 0x34, 0x35, 0x36, 0x37]

def dash : UInt8 := 0x2d

/-- The symbol for a random byte. Each symbol stands for eight of the 256 bytes. -/
def symbol (b : UInt8) : UInt8 :=
  alphabet[b.toNat % 32]

/-- Symbols for random bytes, with a dash before every fifth, ninth and so on; `i` bytes went
before. -/
def write (i : Nat) : List UInt8 → List UInt8
  | [] => []
  | b :: bytes =>
      if 0 < i ∧ i % 4 = 0 then dash :: symbol b :: write (i + 1) bytes
      else symbol b :: write (i + 1) bytes

@[simp] theorem write_nil (i : Nat) : write i [] = [] := rfl

theorem write_ne_nil {i : Nat} {bytes : List UInt8} (hNonempty : bytes ≠ []) :
    write i bytes ≠ [] := by
  cases bytes with
  | nil => exact absurd rfl hNonempty
  | cons b bytes => rw [write]; split <;> simp

/-- The app password of sixteen random bytes: four groups of four symbols. -/
def generate (draw : Vector UInt8 16) : Password where
  bytes := write 0 draw.toList
  nonempty := write_ne_nil fun hNil => by simpa using congrArg List.length hNil

def isAppPassword (candidate : List UInt8) : Bool :=
  candidate.length = 19 &&
    candidate.zipIdx.all fun (c, i) =>
      if i % 5 = 4 then c = dash else alphabet.contains c

/-- The salt of an account: sixteen bytes of its digest. -/
def salt (account : String) : String :=
  String.ofList (Hex.encode ((Sha256.digest (Utf8.encode account)).take 16))

def hash (h : Hasher) (account : String) (password : List UInt8) :
    Logged (Except Failure Record) :=
  if account.toList = [] then .silent (.error (.invalidInput .emptyAccount))
  else h.hashWithSalt password (salt account)

/-- Whether a record belongs to an app password of an account. A record with another salt is a
mismatch, whatever its cost. -/
def verify (h : Hasher) (account : String) (password : List UInt8) (record : Record) :
    Logged (Except Failure Bool) :=
  match record.parse with
  | .error fault => (Failure.malformedRecord fault).logged
  | .ok fields =>
      if fields.salt = salt account then h.verify password record
      else
        ⟨.ok false,
          [⟨.library, .debug, "App password record is salted for another account",
            [("did", account)]⟩]⟩

end PasswordHashing.AppPassword
