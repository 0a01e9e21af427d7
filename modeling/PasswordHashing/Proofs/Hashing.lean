import PasswordHashing.AppPassword
import PasswordHashing.Proofs.Verification

/-! What hashing answers. An accepted policy can always be hashed with: its cost, its ceiling and
its key length were settled once and do not fail later, so that every failure is the caller's input.
Salts that are made here, from random bytes or for an account, are always usable. -/
namespace PasswordHashing

namespace Hasher

theorem usableSalt_hex {bytes : List UInt8} (hPositive : 0 < bytes.length) :
    usableSalt (String.ofList (Hex.encode bytes)) := by
  rw [usableSalt, String.toList_ofList]
  refine ⟨?_, Hex.colon_not_mem_of_spells (Hex.spells_encode bytes)⟩
  apply List.ne_nil_of_length_pos
  rw [Hex.length_encode]
  omega

/-- A random salt is never refused. -/
theorem usableSalt_saltOfDraw {n : Nat} (draw : Vector UInt8 n) (hPositive : 0 < n) :
    usableSalt (saltOfDraw draw) := by
  apply usableSalt_hex
  simpa using hPositive

variable (h : Hasher) {password : List UInt8} {failure : Failure}

/-- Hashing with a given salt fails for an empty password first, and then for an unusable salt.
Nothing else can fail. -/
theorem hashWithSalt_eq_error_iff {salt : String} :
    (h.hashWithSalt password salt).answer = .error failure ↔
      (password = [] ∧ failure = .invalidInput .emptyPassword) ∨
        (password ≠ [] ∧ ¬ usableSalt salt ∧ failure = .invalidInput .unusableSalt) := by
  obtain ⟨key, -, -, hHash⟩ := h.hashWithSalt_eq password salt
  rw [hHash]
  by_cases hPassword : password = []
  · simp [hPassword, eq_comm]
  · by_cases hSalt : usableSalt salt <;> simp [hPassword, hSalt, eq_comm]

/-- Everything that hashing can give. -/
theorem hashWithSalt_eq_ok_iff {salt : String} {record : Record} :
    (h.hashWithSalt password salt).answer = .ok record ↔
      password ≠ [] ∧ usableSalt salt ∧
        ∃ key, h.cost.scrypt password salt h.policy.keyLength.toNat = some key ∧
          record = Fields.encode ⟨h.policy.layout, h.cost, salt, key⟩ := by
  obtain ⟨key, hKey, -, hHash⟩ := h.hashWithSalt_eq password salt
  rw [hHash]
  by_cases hPassword : password = []
  · simp [hPassword]
  · by_cases hSalt : usableSalt salt <;> simp [hPassword, hSalt, hKey, eq_comm]

/-- With a random salt only the empty password is refused, since a policy asks for some bytes of
salt. -/
theorem hash_eq_error_iff {draw : Vector UInt8 h.policy.saltLength.toNat} :
    (h.hash password draw).answer = .error failure ↔
      password = [] ∧ failure = .invalidInput .emptyPassword := by
  have hSalt := usableSalt_saltOfDraw draw (Nat.lt_of_lt_of_le (by omega) h.accepts.saltLength.1)
  rw [hash, hashWithSalt_eq_error_iff]
  simp [hSalt]

/-- Every password but the empty one is hashed, whatever is drawn. -/
theorem exists_hash (hPassword : password ≠ [])
    (draw : Vector UInt8 h.policy.saltLength.toNat) :
    ∃ record, (h.hash password draw).answer = .ok record := by
  cases hAnswer : (h.hash password draw).answer with
  | ok record => exact ⟨record, rfl⟩
  | error failure => exact absurd (h.hash_eq_error_iff.mp hAnswer).1 hPassword

end Hasher

namespace AppPassword

/-- The salt of an account is never refused. -/
theorem usableSalt_salt (account : String) : Hasher.usableSalt (salt account) := by
  apply Hasher.usableSalt_hex
  simp

/-- For app passwords an account without a name is refused first, and then an empty password.
Nothing else can fail. -/
theorem hash_eq_error_iff (h : Hasher) {account : String} {password : List UInt8}
    {failure : Failure} :
    (hash h account password).answer = .error failure ↔
      (account.toList = [] ∧ failure = .invalidInput .emptyAccount) ∨
        (account.toList ≠ [] ∧ password = [] ∧ failure = .invalidInput .emptyPassword) := by
  rw [hash]
  split
  · rename_i hAccount
    simp [hAccount, eq_comm]
  · rename_i hAccount
    rw [h.hashWithSalt_eq_error_iff]
    simp [hAccount, usableSalt_salt]

end AppPassword

/-- A hasher can always hash. It refuses exactly the empty passwords and accounts and the salts that
a record could not hold, always as invalid input, and makes of everything else the record of the key
that scrypt gives at the hasher's own cost. That cost is never refused and never above the ceiling,
and scrypt always gives a key. -/
theorem Hasher.hashing_fails_only_on_input (h : Hasher) :
    (∀ password salt,
        ((∃ failure, (h.hashWithSalt password salt).answer = .error failure) ↔
          password = [] ∨ salt.toList = [] ∨ ':' ∈ salt.toList) ∧
        (∀ failure, (h.hashWithSalt password salt).answer = .error failure →
          ∃ fault, failure = .invalidInput fault) ∧
        ∀ record, (h.hashWithSalt password salt).answer = .ok record ↔
          password ≠ [] ∧ usableSalt salt ∧
            ∃ key, h.cost.scrypt password salt h.policy.keyLength.toNat = some key ∧
              record = Fields.encode ⟨h.policy.layout, h.cost, salt, key⟩) ∧
      (∀ password draw,
        ((∃ failure, (h.hash password draw).answer = .error failure) ↔ password = []) ∧
        ∀ failure, (h.hash password draw).answer = .error failure →
          ∃ fault, failure = .invalidInput fault) ∧
      (∀ account password,
        ((∃ failure, (AppPassword.hash h account password).answer = .error failure) ↔
          account.toList = [] ∨ password = []) ∧
        ∀ failure, (AppPassword.hash h account password).answer = .error failure →
          ∃ fault, failure = .invalidInput fault) ∧
      h.cost.fault? = none ∧
      ∀ password salt, ∃ key, h.cost.scrypt password salt h.policy.keyLength.toNat = some key ∧
        h.derive password salt h.cost h.policy.keyLength.toNat = .ok key := by
  refine ⟨fun password salt => ?_, fun password draw => ?_, fun account password => ?_,
    h.fault?_cost, fun password salt => ?_⟩
  · have hUnusable : ¬ usableSalt salt ↔ salt.toList = [] ∨ ':' ∈ salt.toList := by
      rw [usableSalt, not_and_or, not_not, not_not, delimiter]
    refine ⟨?_, ?_, fun record => h.hashWithSalt_eq_ok_iff⟩
    · simp only [h.hashWithSalt_eq_error_iff, ← hUnusable]
      by_cases hPassword : password = [] <;> simp [hPassword]
    · simp only [h.hashWithSalt_eq_error_iff]
      rintro failure (⟨-, rfl⟩ | ⟨-, -, rfl⟩) <;> exact ⟨_, rfl⟩
  · simp only [h.hash_eq_error_iff]
    constructor
    · simp
    · rintro failure ⟨-, rfl⟩
      exact ⟨_, rfl⟩
  · simp only [AppPassword.hash_eq_error_iff]
    constructor
    · by_cases hAccount : account.toList = [] <;> simp [hAccount]
    · rintro failure (⟨-, rfl⟩ | ⟨-, -, rfl⟩) <;> exact ⟨_, rfl⟩
  · obtain ⟨key, hKey, -, hDerive⟩ := h.exists_derive password salt
    exact ⟨key, hKey, hDerive⟩

end PasswordHashing
