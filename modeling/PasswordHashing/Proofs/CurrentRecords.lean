import PasswordHashing.Proofs.CanonicalForm
import PasswordHashing.Proofs.Hashing
import PasswordHashing.Proofs.PasswordEquivalence

/-! Records that a hasher would make itself. A record is current if it shows the settings of the
hasher, whoever wrote it. Verification reads and compares where hashing derives and writes, and on
current records the two agree: the hasher's own policy vouches for what the text asks for. -/
namespace PasswordHashing

namespace Hasher

variable {h : Hasher} {password : List UInt8} {salt : String} {key : List UInt8} {record : Record}
  {fields : Fields}

/-- The record has this salt and key, and for the rest shows the settings of the hasher. -/
structure IsCurrent (h : Hasher) (record : Record) (salt : String) (key : List UInt8) : Prop where
  parse : record.parse = .ok ⟨h.policy.layout, h.cost, salt, key⟩
  length_key : key.length = h.policy.keyLength.toNat

/-- A record that can be read is out of date exactly if layout, cost or key length differ from those
of the hasher. The salt and the ceiling do not matter. -/
theorem needsRehash_of_parse (hParse : record.parse = .ok fields) :
    h.needsRehash record = .ok (fields.layout ≠ h.policy.layout ∨ fields.cost ≠ h.cost ∨
      fields.key.length ≠ h.policy.keyLength.toNat) := by
  rw [needsRehash, hParse]

/-- The records that need not be replaced. -/
theorem needsRehash_eq_false_iff :
    h.needsRehash record = .ok false ↔ ∃ salt key, h.IsCurrent record salt key := by
  constructor
  · intro hNeeds
    cases hParse : record.parse with
    | error fault =>
        rw [needsRehash, hParse] at hNeeds
        cases hNeeds
    | ok fields =>
        rw [needsRehash_of_parse hParse, Except.ok.injEq, decide_eq_false_iff_not] at hNeeds
        obtain ⟨layout, cost, salt, key⟩ := fields
        simp only [not_or, not_not] at hNeeds
        obtain ⟨rfl, rfl, hLength⟩ := hNeeds
        exact ⟨salt, key, hParse, hLength⟩
  · rintro ⟨salt, key, hParse, hLength⟩
    rw [needsRehash_of_parse hParse, hLength]
    simp

/-- The records that a hasher makes are current and written canonically. -/
theorem isCurrent_of_hashWithSalt (hRecord : (h.hashWithSalt password salt).answer = .ok record) :
    ∃ key, h.IsCurrent record salt key ∧
      record = Fields.encode ⟨h.policy.layout, h.cost, salt, key⟩ := by
  obtain ⟨-, ⟨hSalt, hColon⟩, key, hKey, rfl⟩ := h.hashWithSalt_eq_ok_iff.mp hRecord
  have hLength := Scrypt.length_eq_of_derive hKey
  exact ⟨key, ⟨h.parse_record hSalt hColon hLength, hLength⟩, rfl⟩

theorem IsCurrent.usableSalt (hCurrent : h.IsCurrent record salt key) : usableSalt salt := by
  have hStorable := Record.storable_of_parse hCurrent.parse
  exact ⟨hStorable.salt_ne_nil, hStorable.colon_not_mem_salt⟩

/-- The checks on the text of a current record are those that the policy has passed. -/
theorem IsCurrent.verify (hCurrent : h.IsCurrent record salt key) (password : List UInt8) :
    (h.verify password record).answer =
      .ok (h.cost.scrypt password salt h.policy.keyLength.toNat = some key) := by
  rw [h.verify_of_fits password hCurrent.parse h.accepts.usable h.accepts.affordable,
    hCurrent.length_key]
  rfl

/-- Hashing gives the record of a key exactly if it derives the key: no other key has this text. -/
theorem IsCurrent.hashWithSalt_eq_encode_iff (hCurrent : h.IsCurrent record salt key)
    (hPassword : password ≠ []) :
    (h.hashWithSalt password salt).answer =
        .ok (Fields.encode ⟨h.policy.layout, h.cost, salt, key⟩) ↔
      h.cost.scrypt password salt h.policy.keyLength.toNat = some key := by
  have hUsable := hCurrent.usableSalt
  rw [hashWithSalt_eq_ok_iff]
  constructor
  · rintro ⟨-, -, made, hMade, hSame⟩
    have hMadeLength := Scrypt.length_eq_of_derive hMade
    have hTold := (Fields.encode_eq_encode_iff (Record.storable_of_parse hCurrent.parse)
      (h.storable hUsable.1 hUsable.2 hMadeLength)).mp hSame
    obtain ⟨-, -, hKey, -⟩ := Fields.told_eq_told_iff.mp hTold
    obtain rfl : key = made := hKey
    exact hMade
  · intro hKey
    exact ⟨hPassword, hUsable, key, hKey, rfl⟩

/-- Comparing keys comes to the same as comparing records. -/
theorem IsCurrent.verify_eq_true_iff (hCurrent : h.IsCurrent record salt key)
    (hPassword : password ≠ []) :
    (h.verify password record).answer = .ok true ↔
      (h.hashWithSalt password salt).answer =
        .ok (Fields.encode ⟨h.policy.layout, h.cost, salt, key⟩) := by
  rw [hCurrent.hashWithSalt_eq_encode_iff hPassword, hCurrent.verify, Except.ok.injEq,
    decide_eq_true_iff]

/-- A record opens for the password it was made from. -/
theorem verify_of_hashWithSalt (hRecord : (h.hashWithSalt password salt).answer = .ok record) :
    (h.verify password record).answer = .ok true := by
  obtain ⟨hPassword, -⟩ := h.hashWithSalt_eq_ok_iff.mp hRecord
  obtain ⟨key, hCurrent, rfl⟩ := isCurrent_of_hashWithSalt hRecord
  exact (hCurrent.verify_eq_true_iff hPassword).mpr hRecord

/-- To scrypt, the empty password is a single NUL byte. -/
theorem verify_nil (h : Hasher) (record : Record) : h.verify [] record = h.verify [0] record := by
  have hBlock : Hmac.keyBlock [] = Hmac.keyBlock [0] := by decide
  simp only [verify_eq, Cost.scrypt_eq_of_keyBlock_eq _ hBlock]

/-- What opens a current record need not be a password that is hashed: the record of one NUL byte
opens to the empty password. -/
theorem not_every_match_is_hashed :
    ∃ record fields, (testing.hashWithSalt [0] "salt").answer = .ok record ∧
      testing.needsRehash record = .ok false ∧ record.parse = .ok fields ∧
        ¬ ((testing.verify [] record).answer = .ok true ↔
          (testing.hashWithSalt [] fields.salt).answer = .ok fields.encode) := by
  have hUsable : usableSalt "salt" := by decide
  obtain ⟨_, -, -, hRecord⟩ :=
    testing.exists_hashWithSalt [0] (by decide) hUsable.1 hUsable.2
  obtain ⟨key, hCurrent, -⟩ := isCurrent_of_hashWithSalt hRecord
  refine ⟨_, _, hRecord, needsRehash_eq_false_iff.mpr ⟨_, key, hCurrent⟩, hCurrent.parse, ?_⟩
  intro hAgree
  have hOpens := verify_of_hashWithSalt hRecord
  rw [← verify_nil, hAgree] at hOpens
  cases hOpens

/-- Only a malformed record cannot be read: any other answer of verification shows its fields. -/
theorem exists_parse_of_verify
    (hVerify : ∀ fault, (h.verify password record).answer ≠ .error (.malformedRecord fault)) :
    ∃ fields, record.parse = .ok fields := by
  cases hParse : record.parse with
  | error fault =>
      rw [h.verify_of_unreadable password hParse] at hVerify
      exact absurd rfl (hVerify fault)
  | ok fields => exact ⟨fields, rfl⟩

/-- Verification and hashing agree on every record that need not be replaced. No password makes such
a record fail, and a password opens it exactly if hashing the password with the salt of the record
gives its canonical text. The empty password, which is never hashed, is taken for a NUL byte. Any
record that is not malformed to verification can also be told to be current or not, and has a
layout. -/
theorem verify_agrees_with_hash_on_current_records (h : Hasher) (record : Record) :
    (h.needsRehash record = .ok false → ∃ fields, record.parse = .ok fields ∧
        (∀ password, ∃ isMatch, (h.verify password record).answer = .ok isMatch) ∧
        (∀ password, password ≠ [] →
          ∃ made, (h.hashWithSalt password fields.salt).answer = .ok made ∧
            ((h.verify password record).answer = .ok true ↔ made = fields.encode)) ∧
        ((h.verify [] record).answer = .ok true ↔
          (h.hashWithSalt [0] fields.salt).answer = .ok fields.encode)) ∧
      ∀ password,
        (∀ fault, (h.verify password record).answer ≠ .error (.malformedRecord fault)) →
          (∃ outdated, h.needsRehash record = .ok outdated) ∧
            ∃ layout, record.layout = .ok layout := by
  constructor
  · intro hNeeds
    obtain ⟨salt, key, hCurrent⟩ := needsRehash_eq_false_iff.mp hNeeds
    obtain ⟨hSalt, hColon⟩ := hCurrent.usableSalt
    refine ⟨_, hCurrent.parse, fun password => ⟨_, hCurrent.verify password⟩, ?_, ?_⟩
    · intro password hPassword
      obtain ⟨made, -, -, hMade⟩ := h.exists_hashWithSalt password hPassword hSalt hColon
      refine ⟨_, hMade, ?_⟩
      rw [hCurrent.verify_eq_true_iff hPassword, hMade, Except.ok.injEq]
    · rw [verify_nil, hCurrent.verify_eq_true_iff (by decide)]
  · intro password hVerify
    obtain ⟨fields, hParse⟩ := exists_parse_of_verify hVerify
    exact ⟨⟨_, needsRehash_of_parse hParse⟩, _, Record.layout_eq_ok_iff.mpr ⟨_, hParse, rfl⟩⟩

/-- A record with a sign, a leading zero, its parameters out of order and a key in the upper
case. -/
def respelledRecord : Record :=
  ⟨"scrypt:p=+1,ln=010,r=8:salt:" ++ String.ofList (List.replicate 128 'A')⟩

theorem parse_respelledRecord : respelledRecord.parse =
    .ok ⟨.selfDescribing, ⟨10, 8, 1⟩, "salt", List.replicate 64 0xaa⟩ := by
  decide +kernel

/-- A record that asks for 2 ^ 50 bytes. -/
def costlyRecord : Record :=
  ⟨"scrypt:ln=40,r=8,p=1:salt:" ++ String.ofList (List.replicate 32 'a')⟩

/-- A hasher may judge a record that it cannot afford, and hash and verify agree on one that it did
not write. -/
theorem testing_agrees_on_respelled_record :
    testing.needsRehash respelledRecord = .ok false ∧
      (∃ made isMatch, (testing.hashWithSalt [0x70, 0x77] "salt").answer = .ok made ∧
        (testing.verify [0x70, 0x77] respelledRecord).answer = .ok isMatch ∧
        (isMatch = true ↔
          made = Fields.encode ⟨.selfDescribing, ⟨10, 8, 1⟩, "salt", List.replicate 64 0xaa⟩)) ∧
      (∀ fault, (testing.verify [0x70] costlyRecord).answer ≠ .error (.malformedRecord fault)) ∧
      ∃ outdated, testing.needsRehash costlyRecord = .ok outdated := by
  have hCurrent : testing.needsRehash respelledRecord = .ok false :=
    needsRehash_eq_false_iff.mpr ⟨_, _, parse_respelledRecord, rfl⟩
  have hCostly : (testing.verify [0x70] costlyRecord).answer = .error (.derivationFailure
      (.aboveCeiling ⟨40, 8, 1⟩ (some 1125899906845696) 33554432)) := rfl
  have hReadable : ∀ fault, (testing.verify [0x70] costlyRecord).answer ≠
      .error (.malformedRecord fault) := by
    intro fault hFault
    rw [hCostly] at hFault
    cases hFault
  obtain ⟨hAgree, -⟩ := verify_agrees_with_hash_on_current_records testing respelledRecord
  obtain ⟨-, hJudge⟩ := verify_agrees_with_hash_on_current_records testing costlyRecord
  obtain ⟨fields, hFields, hAnswer, hHash, -⟩ := hAgree hCurrent
  rw [parse_respelledRecord] at hFields
  obtain rfl := Except.ok.inj hFields
  obtain ⟨made, hMade, hIff⟩ := hHash [0x70, 0x77] (by decide)
  obtain ⟨isMatch, hMatch⟩ := hAnswer [0x70, 0x77]
  rw [hMatch, Except.ok.injEq] at hIff
  exact ⟨hCurrent, ⟨made, isMatch, hMade, hMatch, hIff⟩, hReadable, (hJudge [0x70] hReadable).1⟩

end Hasher

end PasswordHashing
