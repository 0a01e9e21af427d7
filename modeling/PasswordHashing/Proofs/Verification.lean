import PasswordHashing.Hasher
import PasswordHashing.Proofs.CostLimits
import PasswordHashing.Proofs.RecordGrammar

/-! What hashing and verification answer, for any record and for records that a hasher made. The
key derivation enters only as a function with keys of the length asked for; nothing is assumed of
which passwords share a key. -/
namespace PasswordHashing

/-- The scrypt key for a password and the bytes of a salt text. -/
def Cost.scrypt (c : Cost) (password : List UInt8) (salt : String) (length : Nat) :
    Option (List UInt8) :=
  Scrypt.derive password (Utf8.encode salt) (2 ^ c.logN.toNat) c.blockSize.toNat
    c.parallelism.toNat length

/-- A key of a length that records have can always be given. -/
theorem Cost.exists_scrypt (c : Cost) (password : List UInt8) (salt : String) {length : Nat}
    (hPositive : 0 < length) (hLength : length ≤ 64) :
    ∃ key, c.scrypt password salt length = some key ∧ key.length = length := by
  have hLimit : length ≤ Scrypt.maxLength := by
    have hMax : Scrypt.maxLength = 137438953440 := rfl
    omega
  have hDerive : c.scrypt password salt length =
      some (Scrypt.stretch (.ofBytes password) (Utf8.encode salt) (2 ^ c.logN.toNat)
        c.blockSize.toNat c.parallelism.toNat length) := by
    rw [Cost.scrypt, Scrypt.derive, if_pos ⟨hPositive, hLimit⟩]
  exact ⟨_, hDerive, Scrypt.length_stretch _ _ _ _ _ _⟩

namespace Hasher

variable (h : Hasher) (password : List UInt8)

/-- A hasher exists only for an accepted policy, so that its cost is within the limits. -/
theorem accepts : h.policy.Accepts h.cost :=
  Policy.accepts_of_check h.accepted

/-- At a cost within the ceiling the scrypt key is derived. -/
theorem derive_of_fits {salt : String} {cost : Cost} {length : Nat} {key : List UInt8}
    (hLogN : cost.logN.toNat < 64) (hFits : cost.bytes ≤ h.policy.maxMemory.toNat)
    (hKey : cost.scrypt password salt length = some key) :
    h.derive password salt cost length = .ok key := by
  have hCeiling := h.policy.maxMemory.toNat_lt
  rw [derive, Cost.memory?_of_fits hLogN (by omega)]
  simp only [hFits, if_true]
  rw [Cost.scrypt] at hKey
  simp only [Nat.pow_eq, hKey]

/-- At a cost beyond the ceiling no key is derived, whatever the password. The memory is told if a
word can hold it. -/
theorem derive_of_exceeds {salt : String} {cost : Cost} {length : Nat}
    (hExceeds : h.policy.maxMemory.toNat < cost.bytes) :
    h.derive password salt cost length =
      .error (.derivationFailure (.aboveCeiling cost cost.memory? h.policy.maxMemory)) := by
  rw [derive]
  cases hMemory : cost.memory? with
  | none => rfl
  | some needed =>
      obtain ⟨-, -, rfl⟩ := Cost.bytes_of_memory? hMemory
      exact if_neg (Nat.not_le.mpr hExceeds)

/-- A hasher can derive keys at its own cost. -/
theorem fault?_cost : h.cost.fault? = none :=
  Cost.fault?_eq_none_iff.mpr h.accepts.usable

/-- A hasher can always derive keys under its own policy. -/
theorem exists_derive (salt : String) :
    ∃ key, h.cost.scrypt password salt h.policy.keyLength.toNat = some key ∧
      key.length = h.policy.keyLength.toNat ∧
        h.derive password salt h.cost h.policy.keyLength.toNat = .ok key := by
  have hAccepts := h.accepts
  obtain ⟨hLow, hHigh⟩ := hAccepts.keyLength
  obtain ⟨key, hKey, hLength⟩ :=
    h.cost.exists_scrypt password salt (Nat.lt_of_lt_of_le (by omega) hLow) hHigh
  have hLogN := Cost.logN_lt_of_usable hAccepts.usable
  exact ⟨key, hKey, hLength, h.derive_of_fits password hLogN hAccepts.affordable hKey⟩

/-- The event of a record that was made. It shows the policy alone. -/
def hashedEvent (h : Hasher) : Event :=
  ⟨.library, .debug, "Credential hashed",
    [("format", h.policy.layout.inspect), ("params", h.cost.text)]⟩

/-- All that hashing comes to. The caller's input is looked at first; after that nothing fails, as
the checks that are repeated here hold since the policy was accepted. -/
theorem hashWithSalt_eq (salt : String) :
    ∃ key, h.cost.scrypt password salt h.policy.keyLength.toNat = some key ∧
      key.length = h.policy.keyLength.toNat ∧
        h.hashWithSalt password salt =
          if password = [] then .silent (.error (.invalidInput .emptyPassword))
          else if ¬ usableSalt salt then .silent (.error (.invalidInput .unusableSalt))
          else ⟨.ok (Fields.encode ⟨h.policy.layout, h.cost, salt, key⟩), [h.hashedEvent]⟩ := by
  obtain ⟨key, hKey, hLength, hDerive⟩ := h.exists_derive password salt
  refine ⟨key, hKey, hLength, ?_⟩
  simp only [hashWithSalt, h.fault?_cost, hDerive, hashedEvent]

/-- Usable input is always hashed, to the record of the key that scrypt gives. -/
theorem exists_hashWithSalt {salt : String} (hPassword : password ≠ [])
    (hSalt : salt.toList ≠ []) (hColon : ':' ∉ salt.toList) :
    ∃ key, h.cost.scrypt password salt h.policy.keyLength.toNat = some key ∧
      key.length = h.policy.keyLength.toNat ∧
        (h.hashWithSalt password salt).answer =
          .ok (Fields.encode ⟨h.policy.layout, h.cost, salt, key⟩) := by
  obtain ⟨key, hKey, hLength, hHash⟩ := h.hashWithSalt_eq password salt
  have hUsableSalt : usableSalt salt := ⟨hSalt, hColon⟩
  refine ⟨key, hKey, hLength, ?_⟩
  rw [hHash, if_neg hPassword, if_neg (not_not.mpr hUsableSalt)]

/-- Why a hasher derives no key at the cost of a record, if it does not. Nothing but the cost is
asked for. -/
def refusal? (h : Hasher) (cost : Cost) : Option Failure :=
  match cost.fault? with
  | some fault => some (.malformedRecord (.unusableCost cost fault))
  | none =>
      if cost.bytes ≤ h.policy.maxMemory.toNat then none
      else some (.derivationFailure (.aboveCeiling cost cost.memory? h.policy.maxMemory))

/-- A hasher refuses no cost that is usable and stays within its ceiling. -/
theorem refusal?_eq_none_iff {cost : Cost} :
    h.refusal? cost = none ↔ ¬ cost.Unusable ∧ cost.bytes ≤ h.policy.maxMemory.toNat := by
  rw [← Cost.fault?_eq_none_iff, refusal?]
  split
  · rename_i fault hFault
    simp [hFault]
  · rename_i hFault
    simp [hFault]

/-- A cost at which nobody can derive a key is the record's fault. -/
theorem refusal?_of_unusable {cost : Cost} (hUnusable : cost.Unusable) :
    ∃ fault, h.refusal? cost = some (.malformedRecord (.unusableCost cost fault)) := by
  cases hFault : cost.fault? with
  | none => exact absurd hUnusable (Cost.fault?_eq_none_iff.mp hFault)
  | some fault => exact ⟨fault, by rw [refusal?, hFault]⟩

/-- A cost that this hasher has not the memory for is no fault of the record. -/
theorem refusal?_of_exceeds {cost : Cost} (hUsable : ¬ cost.Unusable)
    (hExceeds : h.policy.maxMemory.toNat < cost.bytes) :
    h.refusal? cost =
      some (.derivationFailure (.aboveCeiling cost cost.memory? h.policy.maxMemory)) := by
  simp only [refusal?, Cost.fault?_eq_none_iff.mpr hUsable, if_neg (Nat.not_le.mpr hExceeds)]

/-- The result for a record whose key was compared. -/
def compared (layout : Layout) (isMatch : Bool) : Logged (Except Failure Bool) :=
  ⟨.ok isMatch, [⟨.library, .debug, "Credential verified",
    [("matches", toString isMatch), ("format", layout.inspect)]⟩]⟩

/-- All that verification comes to. A record is refused for its text or its cost, before anything is
derived, or the key in it is compared with the one that scrypt gives. -/
theorem verify_eq (record : Record) :
    h.verify password record =
      match record.parse with
      | .error fault => (Failure.malformedRecord fault).logged
      | .ok fields =>
          match h.refusal? fields.cost with
          | some failure => failure.logged
          | none => compared fields.layout
            (fields.cost.scrypt password fields.salt fields.key.length = some fields.key) := by
  rw [verify]
  cases hParse : record.parse with
  | error fault => rfl
  | ok fields =>
      by_cases hUnusable : fields.cost.Unusable
      · obtain ⟨fault, hFault⟩ := Option.ne_none_iff_exists'.mp
          (mt Cost.fault?_eq_none_iff.mp (not_not.mpr hUnusable))
        simp only [refusal?, hFault]
      have hNone := Cost.fault?_eq_none_iff.mpr hUnusable
      by_cases hFits : fields.cost.bytes ≤ h.policy.maxMemory.toNat
      · have hStorable := Record.storable_of_parse hParse
        have hLow := hStorable.le_length_key
        have hHigh := hStorable.length_key_le
        obtain ⟨key, hKey, -⟩ := fields.cost.exists_scrypt password fields.salt (by omega) hHigh
        have hLogN := Cost.logN_lt_of_usable hUnusable
        simp only [h.refusal?_eq_none_iff.mpr ⟨hUnusable, hFits⟩, hNone,
          h.derive_of_fits password hLogN hFits hKey, compared, hKey, beq_eq_decide,
          Option.some.injEq]
      · have hExceeds := Nat.not_le.mp hFits
        simp only [h.refusal?_of_exceeds hUnusable hExceeds, hNone,
          h.derive_of_exceeds password hExceeds]

variable {record : Record} {fields : Fields}

/-- A record that cannot be read is malformed, whatever the password. -/
theorem verify_of_unreadable {fault : RecordFault} (hParse : record.parse = .error fault) :
    h.verify password record = (Failure.malformedRecord fault).logged := by
  rw [verify_eq, hParse]

/-- At a cost that the hasher refuses verification fails with the refusal, whatever the password. -/
theorem verify_of_refused {failure : Failure} (hParse : record.parse = .ok fields)
    (hRefusal : h.refusal? fields.cost = some failure) :
    h.verify password record = failure.logged := by
  simp only [verify_eq, hParse, hRefusal]

/-- A cost above the ceiling is an error of the derivation, also where its bytes exceed a word. -/
theorem verify_of_exceeds (hParse : record.parse = .ok fields)
    (hUsable : ¬ fields.cost.Unusable)
    (hExceeds : h.policy.maxMemory.toNat < fields.cost.bytes) :
    h.verify password record = (Failure.derivationFailure
      (.aboveCeiling fields.cost fields.cost.memory? h.policy.maxMemory)).logged :=
  h.verify_of_refused password hParse (h.refusal?_of_exceeds hUsable hExceeds)

/-- A record that the hasher can afford is never a failure: the keys decide, whatever the rest of
the hasher's policy is. -/
theorem verify_of_fits (hParse : record.parse = .ok fields) (hUsable : ¬ fields.cost.Unusable)
    (hFits : fields.cost.bytes ≤ h.policy.maxMemory.toNat) :
    h.verify password record = compared fields.layout
      (fields.cost.scrypt password fields.salt fields.key.length = some fields.key) := by
  simp only [verify_eq, hParse, h.refusal?_eq_none_iff.mpr ⟨hUsable, hFits⟩]

/-- Every record is decided in one of three ways, by conditions on its numbers over the integers.
The only failure of a derivation is a cost above the ceiling, also where its bytes exceed a word;
a key that scrypt would not give is never asked for. -/
theorem verify_decision (record : Record) :
    ((∃ fault, (h.verify password record).answer = .error (.malformedRecord fault)) ↔
        (∀ fields, record.parse ≠ .ok fields) ∨
          ∃ fields, record.parse = .ok fields ∧ fields.cost.Unusable) ∧
      (∀ fault, (h.verify password record).answer = .error (.derivationFailure fault) ↔
        ∃ fields, record.parse = .ok fields ∧ ¬ fields.cost.Unusable ∧
          h.policy.maxMemory.toNat < fields.cost.bytes ∧
            fault = .aboveCeiling fields.cost
              (if fields.cost.bytes < 2 ^ 64 then some fields.cost.bytes else none)
              h.policy.maxMemory) ∧
      (∀ isMatch, (h.verify password record).answer = .ok isMatch ↔
        ∃ fields, record.parse = .ok fields ∧ ¬ fields.cost.Unusable ∧
          fields.cost.bytes ≤ h.policy.maxMemory.toNat ∧
            (isMatch = true ↔
              fields.cost.scrypt password fields.salt fields.key.length = some fields.key)) ∧
      (∀ fault, (h.verify password record).answer ≠ .error (.invalidInput fault)) ∧
      (∀ fault, (h.verify password record).answer ≠ .error (.invalidConfig fault)) := by
  cases hParse : record.parse with
  | error fault => simp [h.verify_of_unreadable password hParse]
  | ok fields =>
      by_cases hUsable : fields.cost.Unusable
      · obtain ⟨fault, hRefusal⟩ := h.refusal?_of_unusable hUsable
        simp [h.verify_of_refused password hParse hRefusal, hUsable]
      · by_cases hFits : fields.cost.bytes ≤ h.policy.maxMemory.toNat
        · have hResult := h.verify_of_fits password hParse hUsable hFits
          have hNot : ¬ h.policy.maxMemory.toNat < fields.cost.bytes := Nat.not_lt.mpr hFits
          simp [hResult, compared, hUsable, hFits, hNot]
        · have hExceeds := Nat.not_le.mp hFits
          have hResult := h.verify_of_exceeds password hParse hUsable hExceeds
          have hLogN := Cost.logN_lt_of_usable hUsable
          simp [hResult, hUsable, hFits, hExceeds, Cost.memory?_eq, hLogN, eq_comm]

end Hasher

end PasswordHashing
