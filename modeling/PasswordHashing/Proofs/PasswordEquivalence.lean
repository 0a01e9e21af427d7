import Mathlib.Data.Fintype.BigOperators
import Mathlib.Data.Fintype.Pigeonhole
import PasswordHashing.Proofs.RoundTrip

/-! Which other passwords open a record. A password enters scrypt as the key of an HMAC, where NUL
bytes at its end and the hashing of long keys make different byte strings one key. The hasher does
not separate such passwords, so that a record distinguishes keys and not passwords. -/
namespace PasswordHashing

namespace Hmac

/-- A key that fits in a block is followed by zeros, so that zeros at its end are lost. -/
theorem keyBlock_of_short {key : List UInt8} (hShort : key.length ≤ 64) :
    keyBlock key = key ++ List.replicate (64 - key.length) 0 := by
  simp only [keyBlock, hShort, if_true]

/-- A key of the length of a block is its own block. -/
theorem keyBlock_of_length {key : List UInt8} (hLength : key.length = 64) : keyBlock key = key := by
  rw [keyBlock_of_short (Nat.le_of_eq hLength), hLength, Nat.sub_self, List.replicate_zero,
    List.append_nil]

/-- NUL bytes after a short key are taken for its padding. -/
theorem keyBlock_append_zeros {key : List UInt8} {n : Nat} (hFits : key.length + n ≤ 64) :
    keyBlock (key ++ List.replicate n 0) = keyBlock key := by
  have hLength : (key ++ List.replicate n 0).length = key.length + n := by simp
  have hPadding : n + (64 - (key.length + n)) = 64 - key.length := by omega
  rw [keyBlock_of_short (by omega), keyBlock_of_short (by omega), hLength, List.append_assoc,
    List.replicate_append_replicate, hPadding]

/-- A long key stands for its digest. -/
theorem keyBlock_digest {key : List UInt8} (hLong : 64 < key.length) :
    keyBlock (Sha256.digest key) = keyBlock key := by
  have hDigest : (Sha256.digest key).length ≤ 64 := by simp
  simp only [keyBlock, hDigest, Nat.not_le.mpr hLong, if_true, if_false]

end Hmac

/-- Of a password the derivation sees its block alone. -/
theorem Cost.scrypt_eq_of_keyBlock_eq (c : Cost) {password other : List UInt8}
    (hBlock : Hmac.keyBlock password = Hmac.keyBlock other) (salt : String) (length : Nat) :
    c.scrypt password salt length = c.scrypt other salt length := by
  rw [Cost.scrypt, Scrypt.derive_eq_of_keyBlock_eq hBlock]
  rfl

/-- Passwords of 64 bytes outnumber keys of fewer bytes, so that two of them share a key. They are
counted as functions into the numbers below 256. -/
theorem Cost.exists_scrypt_eq (c : Cost) (salt : String) {length : Nat} (hPositive : 0 < length)
    (hShort : length < 64) :
    ∃ first second : List UInt8, first.length = 64 ∧ second.length = 64 ∧ first ≠ second ∧
      c.scrypt first salt length = c.scrypt second salt length := by
  let password (v : Fin 64 → Fin 256) : List UInt8 := List.ofFn fun i => UInt8.ofNat (v i)
  have hInjective (v w : Fin 64 → Fin 256) (hEq : password v = password w) : v = w := by
    funext i
    have hByte := congrFun (List.ofFn_injective hEq) i
    have hNat := congrArg UInt8.toNat hByte
    simp only [UInt8.toNat_ofNat'] at hNat
    have hV := (v i).isLt
    have hW := (w i).isLt
    omega
  have hKey (v : Fin 64 → Fin 256) :=
    c.exists_scrypt (password v) salt hPositive (Nat.le_of_lt hShort)
  choose key hScrypt hLength using hKey
  let bytes (v : Fin 64 → Fin 256) (i : Fin length) : Fin 256 :=
    ⟨((key v).get (i.cast (hLength v).symm)).toNat, UInt8.toNat_lt _⟩
  have hCard : Fintype.card (Fin length → Fin 256) < Fintype.card (Fin 64 → Fin 256) := by
    simp only [Fintype.card_fun, Fintype.card_fin]
    exact Nat.pow_lt_pow_right (by omega) hShort
  obtain ⟨v, w, hNe, hBytes⟩ := Fintype.exists_ne_map_eq_of_card_lt bytes hCard
  have hSame : key v = key w := by
    apply List.ext_getElem (by rw [hLength, hLength])
    intro i hI _
    have hByte := congrFun hBytes ⟨i, by rwa [hLength] at hI⟩
    exact UInt8.toNat_inj.mp (congrArg Fin.val hByte)
  refine ⟨password v, password w, by simp [password], by simp [password],
    fun hEq => hNe (hInjective v w hEq), ?_⟩
  rw [hScrypt, hScrypt, hSame]

namespace Hasher

variable {password : List UInt8} {salt : String}

/-- The record of a password opens exactly for the candidates that have the same key under its
salt. -/
theorem exists_record_of_key_eq (h : Hasher) (hPassword : password ≠ [])
    (hSalt : salt.toList ≠ []) (hColon : ':' ∉ salt.toList) :
    ∃ record, (h.hashWithSalt password salt).answer = .ok record ∧
      ∀ candidate, (h.verify candidate record).answer =
        .ok (h.cost.scrypt candidate salt h.policy.keyLength.toNat =
          h.cost.scrypt password salt h.policy.keyLength.toNat) := by
  obtain ⟨record, key, hRecord, hKey, hVerify⟩ := h.exists_record hPassword hSalt hColon
  refine ⟨record, hRecord, fun candidate => ?_⟩
  rw [hVerify, if_pos h.accepts.affordable, hKey]

/-- A trailing NUL byte opens the record of a password without it. -/
theorem not_every_other_password_fails :
    ¬ ∀ (h : Hasher) (password candidate : List UInt8) (salt : String) (record : Record),
      password ≠ [] → candidate ≠ password → (h.hashWithSalt password salt).answer = .ok record →
        (h.verify candidate record).answer = .ok false := by
  intro hAll
  have hPassword : ([0x70, 0x77] : List UInt8) ≠ [] := by decide
  have hNe : ([0x70, 0x77, 0] : List UInt8) ≠ [0x70, 0x77] := by decide
  have hSalt : "salt".toList ≠ [] ∧ ':' ∉ "salt".toList := by decide
  have hBlock : Hmac.keyBlock [0x70, 0x77, 0] = Hmac.keyBlock [0x70, 0x77] := by decide
  obtain ⟨record, hRecord, hVerify⟩ :=
    testing.exists_record_of_key_eq hPassword hSalt.1 hSalt.2
  have hFalse := hAll testing _ [0x70, 0x77, 0] "salt" record hPassword hNe hRecord
  rw [hVerify, decide_eq_true (testing.cost.scrypt_eq_of_keyBlock_eq hBlock _ _)] at hFalse
  cases hFalse

/-- A record fails exactly the candidates with another key. Candidates with the key block of the
password never fail, which covers NUL bytes at its end and the digest of a long password. If keys
are shorter than a key block, there are others for every salt. -/
theorem verify_false_iff_keys_differ (h : Hasher) (hPassword : password ≠ [])
    (hSalt : salt.toList ≠ []) (hColon : ':' ∉ salt.toList) :
    (∃ record, (h.hashWithSalt password salt).answer = .ok record ∧
      (∀ candidate, ∃ isMatch, (h.verify candidate record).answer = .ok isMatch ∧
        (isMatch = false ↔ h.cost.scrypt candidate salt h.policy.keyLength.toNat ≠
          h.cost.scrypt password salt h.policy.keyLength.toNat)) ∧
      (∀ candidate, Hmac.keyBlock candidate = Hmac.keyBlock password →
        (h.verify candidate record).answer = .ok true) ∧
      (∀ n, password.length + n ≤ 64 →
        (h.verify (password ++ List.replicate n 0) record).answer = .ok true) ∧
      (64 < password.length →
        (h.verify (Sha256.digest password) record).answer = .ok true)) ∧
    (h.policy.keyLength.toNat < 64 →
      ∃ first second record, Hmac.keyBlock first ≠ Hmac.keyBlock second ∧
        (h.hashWithSalt first salt).answer = .ok record ∧
          (h.verify second record).answer = .ok true) := by
  constructor
  · obtain ⟨record, hRecord, hVerify⟩ := h.exists_record_of_key_eq hPassword hSalt hColon
    have hTrue (candidate : List UInt8)
        (hBlock : Hmac.keyBlock candidate = Hmac.keyBlock password) :
        (h.verify candidate record).answer = .ok true := by
      rw [hVerify, decide_eq_true (h.cost.scrypt_eq_of_keyBlock_eq hBlock _ _)]
    refine ⟨record, hRecord, fun candidate => ?_, hTrue, ?_, ?_⟩
    · exact ⟨_, hVerify candidate, decide_eq_false_iff_not⟩
    · intro n hFits
      exact hTrue _ (Hmac.keyBlock_append_zeros hFits)
    · intro hLong
      exact hTrue _ (Hmac.keyBlock_digest hLong)
  · intro hShort
    have hLow := h.accepts.keyLength.1
    obtain ⟨first, second, hFirst, hSecond, hNe, hSame⟩ :=
      h.cost.exists_scrypt_eq salt (Nat.lt_of_lt_of_le (by omega) hLow) hShort
    have hNonempty : first ≠ [] := by
      rintro rfl
      cases hFirst
    obtain ⟨record, hRecord, hVerify⟩ := h.exists_record_of_key_eq hNonempty hSalt hColon
    refine ⟨first, second, record, ?_, hRecord, ?_⟩
    · rwa [Hmac.keyBlock_of_length hFirst, Hmac.keyBlock_of_length hSecond]
    · rw [hVerify, decide_eq_true hSame.symm]

/-- A password of one NUL byte is opened by no bytes at all, and a password of 65 bytes by the 32
bytes of its digest. -/
theorem testing_verifies_other_passwords :
    ([0] : List UInt8) ≠ [] ∧ List.replicate 65 (0x61 : UInt8) ≠ [] ∧ "salt".toList ≠ [] ∧
      ':' ∉ "salt".toList ∧
      (∃ record, (testing.hashWithSalt [0] "salt").answer = .ok record ∧
        (testing.verify [] record).answer = .ok true) ∧
      ∃ record, (testing.hashWithSalt (List.replicate 65 0x61) "salt").answer = .ok record ∧
        (testing.verify (Sha256.digest (List.replicate 65 0x61)) record).answer = .ok true := by
  have hNul : ([0] : List UInt8) ≠ [] := by decide
  have hLong : List.replicate 65 (0x61 : UInt8) ≠ [] := by decide
  have hSalt : "salt".toList ≠ [] := by decide
  have hColon : ':' ∉ "salt".toList := by decide
  refine ⟨hNul, hLong, hSalt, hColon, ?_, ?_⟩
  · obtain ⟨⟨record, hRecord, -, hBlock, -⟩, -⟩ :=
      verify_false_iff_keys_differ testing hNul hSalt hColon
    exact ⟨record, hRecord, hBlock [] (by decide)⟩
  · obtain ⟨⟨record, hRecord, -, -, -, hDigest⟩, -⟩ :=
      verify_false_iff_keys_differ testing hLong hSalt hColon
    exact ⟨record, hRecord, hDigest (by decide)⟩

end Hasher

end PasswordHashing
