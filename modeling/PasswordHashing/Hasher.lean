import PasswordHashing.Bytes.Utf8
import PasswordHashing.Derivation.Scrypt
import PasswordHashing.Record

/-!
Hashing and verification. A hasher is a policy that has been accepted. It makes records under its
own policy and verifies records of any cost that its memory ceiling admits; a record that cannot
be read or afforded is a failure, never a mismatch. Random bytes are arguments, and what is logged
is part of the result.
-/

namespace PasswordHashing

/-- An accepted policy with the cost it stands for. -/
structure Hasher where
  policy : Policy
  cost : Cost
  accepted : policy.check = .ok cost

namespace Hasher

def ofPolicy (p : Policy) : Logged (Except Failure Hasher) :=
  match hCheck : p.check with
  | .ok cost => .silent (.ok ⟨p, cost, hCheck⟩)
  | .error fault => (Failure.invalidConfig fault).logged

def inspect (h : Hasher) : String :=
  Text.Inspect.fields "CredentialHasher"
    [("config", h.policy.inspect), ("params", h.cost.inspect)]

/-- Derive a key at a cost, if it stays below the memory ceiling. The salt is taken as the bytes of
its text. -/
def derive (h : Hasher) (password : List UInt8) (salt : String) (cost : Cost) (length : Nat) :
    Except Failure (List UInt8) :=
  match cost.memory? with
  | none => .error (.derivationFailure (.aboveCeiling cost none h.policy.maxMemory))
  | some needed =>
      if needed ≤ h.policy.maxMemory.toNat then
        match Scrypt.derive password (Utf8.encode salt) (Nat.pow 2 cost.logN.toNat)
            cost.blockSize.toNat cost.parallelism.toNat length with
        | none => .error (.derivationFailure .keyLength)
        | some key => .ok key
      else .error (.derivationFailure (.aboveCeiling cost needed h.policy.maxMemory))

/-- Whether a salt may be given by a caller: it must not be empty, nor end its field early. -/
def usableSalt (salt : String) : Prop :=
  salt.toList ≠ [] ∧ delimiter ∉ salt.toList

instance (salt : String) : Decidable (usableSalt salt) :=
  inferInstanceAs (Decidable (_ ∧ _))

/-- Hash a password with a salt of the caller's choice. The same password and salt give the same
record every time. Unusable input is the caller's mistake and leaves no event. -/
def hashWithSalt (h : Hasher) (password : List UInt8) (salt : String) :
    Logged (Except Failure Record) :=
  if password = [] then .silent (.error (.invalidInput .emptyPassword))
  else if ¬ usableSalt salt then .silent (.error (.invalidInput .unusableSalt))
  else
    match h.cost.fault? with
    | some fault => .silent (.error (.derivationFailure (.cost fault)))
    | none =>
        match h.derive password salt h.cost h.policy.keyLength.toNat with
        | .error failure => failure.logged
        | .ok key =>
            ⟨.ok (Fields.encode ⟨h.policy.layout, h.cost, salt, key⟩),
              [⟨.library, .debug, "Credential hashed",
                [("format", h.policy.layout.inspect), ("params", h.cost.text)]⟩]⟩

/-- A salt made of random bytes. -/
def saltOfDraw {n : Nat} (draw : Vector UInt8 n) : String :=
  String.ofList (Hex.encode draw.toList)

/-- Hash a password with a fresh salt, made of as many random bytes as the policy asks for. -/
def hash (h : Hasher) (password : List UInt8) (draw : Vector UInt8 h.policy.saltLength.toNat) :
    Logged (Except Failure Record) :=
  h.hashWithSalt password (saltOfDraw draw)

/-- Whether a password is the one a record was made from. The candidate key is derived under the
record's own cost and to the length of the record's key. -/
def verify (h : Hasher) (password : List UInt8) (record : Record) : Logged (Except Failure Bool) :=
  match record.parse with
  | .error fault => (Failure.malformedRecord fault).logged
  | .ok fields =>
      match fields.cost.fault? with
      | some fault => (Failure.malformedRecord (.unusableCost fields.cost fault)).logged
      | none =>
          match h.derive password fields.salt fields.cost fields.key.length with
          | .error failure => failure.logged
          | .ok candidate =>
              let isMatch := candidate == fields.key
              ⟨.ok isMatch,
                [⟨.library, .debug, "Credential verified",
                  [("matches", toString isMatch), ("format", fields.layout.inspect)]⟩]⟩

/-- Whether a record should be replaced at the next login: it differs from what the hasher makes in
layout, cost or key length. -/
def needsRehash (h : Hasher) (record : Record) : Except Failure Bool :=
  match record.parse with
  | .error fault => .error (.malformedRecord fault)
  | .ok fields =>
      .ok (fields.layout ≠ h.policy.layout ∨ fields.cost ≠ h.cost ∨
        fields.key.length ≠ h.policy.keyLength.toNat)

end Hasher

end PasswordHashing
