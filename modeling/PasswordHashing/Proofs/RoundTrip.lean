import PasswordHashing.Proofs.Verification

/-! Records across policies. A record carries all that its verification needs, so that any hasher
whose ceiling admits the cost decides it alike, and no hasher answers otherwise than by the keys. -/
namespace PasswordHashing.Hasher

def testing : Hasher := ⟨.testing, ⟨10, 8, 1⟩, rfl⟩

def interactive : Hasher := ⟨.interactive, ⟨15, 8, 1⟩, rfl⟩

variable {h : Hasher} {password : List UInt8} {salt : String} {key : List UInt8}

/-- What a hasher makes can be held by a record, if the salt can. -/
theorem storable (h : Hasher) (hSalt : salt.toList ≠ []) (hColon : ':' ∉ salt.toList)
    (hLength : key.length = h.policy.keyLength.toNat) :
    Fields.Storable ⟨h.policy.layout, h.cost, salt, key⟩ := by
  have hKey := h.accepts.keyLength
  rw [← hLength] at hKey
  exact ⟨hSalt, hColon, hKey.1, hKey.2⟩

/-- The record for a key is read as what the hasher put into it, in either layout: a compact policy
was only accepted with the cost that compact records imply. -/
theorem parse_record (h : Hasher) (hSalt : salt.toList ≠ []) (hColon : ':' ∉ salt.toList)
    (hLength : key.length = h.policy.keyLength.toNat) :
    (Fields.encode ⟨h.policy.layout, h.cost, salt, key⟩).parse =
      .ok ⟨h.policy.layout, h.cost, salt, key⟩ := by
  rw [Record.parse_encode (h.storable hSalt hColon hLength)]
  exact congrArg _ (Fields.told_eq_self fun hLayout => (h.accepts.compact hLayout).1)

/-- A hasher that is nowhere cheaper admits the cost of a cheaper one: its own policy was accepted
with a ceiling above its own cost. -/
theorem bytes_le_maxMemory_of_le {h₁ h₂ : Hasher}
    (hFactor : h₁.policy.workFactor ≤ h₂.policy.workFactor)
    (hBlockSize : h₁.policy.blockSize ≤ h₂.policy.blockSize)
    (hParallelism : h₁.policy.parallelism ≤ h₂.policy.parallelism) :
    h₁.cost.bytes ≤ h₂.policy.maxMemory.toNat := by
  have hOne := h₁.accepts
  have hTwo := h₂.accepts
  refine Nat.le_trans (Cost.bytes_le_bytes ?_ ?_ ?_) hTwo.affordable
  · rw [UInt64.le_iff_toNat_le, hOne.workFactor, hTwo.workFactor] at hFactor
    exact (Nat.pow_le_pow_iff_right (by omega)).mp hFactor
  · rw [hOne.blockSize, hTwo.blockSize]
    exact UInt32.le_iff_toNat_le.mp hBlockSize
  · rw [hOne.parallelism, hTwo.parallelism]
    exact UInt32.le_iff_toNat_le.mp hParallelism

/-- The memory of a hasher's own cost is computed exactly, since the policy was accepted with it. -/
theorem memory?_cost (h : Hasher) : h.cost.memory? = some h.cost.bytes := by
  have hCeiling := h.policy.maxMemory.toNat_lt
  have hAffordable := h.accepts.affordable
  exact Cost.memory?_of_fits (Cost.logN_lt_of_usable h.accepts.usable) (by omega)

/-- A hasher makes a record for every usable input, and every hasher that can afford the record
compares keys. -/
theorem exists_record (h : Hasher) (hPassword : password ≠ []) (hSalt : salt.toList ≠ [])
    (hColon : ':' ∉ salt.toList) :
    ∃ record key, (h.hashWithSalt password salt).answer = .ok record ∧
      h.cost.scrypt password salt h.policy.keyLength.toNat = some key ∧
      ∀ (other : Hasher) (candidate : List UInt8), (other.verify candidate record).answer =
        if h.cost.bytes ≤ other.policy.maxMemory.toNat then
          .ok (h.cost.scrypt candidate salt h.policy.keyLength.toNat = some key)
        else
          .error (.derivationFailure
            (.aboveCeiling h.cost (some h.cost.bytes) other.policy.maxMemory)) := by
  obtain ⟨key, hKey, hLength, hRecord⟩ := h.exists_hashWithSalt password hPassword hSalt hColon
  have hParse := h.parse_record hSalt hColon hLength
  have hUsable := h.accepts.usable
  refine ⟨_, key, hRecord, hKey, fun other candidate => ?_⟩
  split
  · rename_i hFits
    rw [other.verify_of_fits candidate hParse hUsable hFits, hLength]
    rfl
  · rename_i hExceeds
    rw [other.verify_of_exceeds candidate hParse hUsable (Nat.not_le.mp hExceeds),
      h.memory?_cost]
    rfl

/-- Records stay verifiable across policies. Under any hasher with the memory for it, a record
opens to exactly the candidates with the key of its password; under one without, no candidate is
called wrong. Raising the costs only ever leads to the first case. -/
theorem record_verifies_across_policies (h₁ h₂ : Hasher) (hPassword : password ≠ [])
    (hSalt : salt.toList ≠ []) (hColon : ':' ∉ salt.toList) :
    ∃ record key needed, (h₁.hashWithSalt password salt).answer = .ok record ∧
      h₁.cost.scrypt password salt h₁.policy.keyLength.toNat = some key ∧
      h₁.cost.memory? = some needed ∧
      (h₂.policy.maxMemory.toNat < needed → ∀ candidate, ∃ fault,
        (h₂.verify candidate record).answer = .error (.derivationFailure fault)) ∧
      (needed ≤ h₂.policy.maxMemory.toNat →
        (∀ candidate, ∃ isMatch, (h₂.verify candidate record).answer = .ok isMatch ∧
          (isMatch = true ↔
            h₁.cost.scrypt candidate salt h₁.policy.keyLength.toNat = some key)) ∧
        (h₂.verify password record).answer = .ok true) ∧
      (h₁.policy.workFactor ≤ h₂.policy.workFactor →
        h₁.policy.blockSize ≤ h₂.policy.blockSize →
        h₁.policy.parallelism ≤ h₂.policy.parallelism →
        needed ≤ h₂.policy.maxMemory.toNat ∧ (h₂.verify password record).answer = .ok true) ∧
      (h₁.verify password record).answer = .ok true := by
  obtain ⟨record, key, hRecord, hKey, hVerify⟩ := h₁.exists_record hPassword hSalt hColon
  have hTrue (other : Hasher) (hAdmits : h₁.cost.bytes ≤ other.policy.maxMemory.toNat) :
      (other.verify password record).answer = .ok true := by
    rw [hVerify, if_pos hAdmits, decide_eq_true hKey]
  refine ⟨record, key, h₁.cost.bytes, hRecord, hKey, h₁.memory?_cost, ?_, ?_, ?_, ?_⟩
  · intro hAbove candidate
    rw [hVerify, if_neg (Nat.not_le.mpr hAbove)]
    exact ⟨_, rfl⟩
  · intro hAdmits
    refine ⟨fun candidate => ?_, hTrue h₂ hAdmits⟩
    rw [hVerify, if_pos hAdmits]
    exact ⟨_, rfl, decide_eq_true_iff⟩
  · intro hFactor hBlockSize hParallelism
    have hAdmits := bytes_le_maxMemory_of_le hFactor hBlockSize hParallelism
    exact ⟨hAdmits, hTrue h₂ hAdmits⟩
  · exact hTrue h₁ h₁.accepts.affordable

/-- From the cheap policy to the costly one a record opens; the way back fails, since the costly
policy needs more than the cheap one allows. The salt holds a comma, an equals sign and a line
break. -/
theorem testing_and_interactive_verify :
    ([0x70, 0x77] : List UInt8) ≠ [] ∧ "a,b=c\n".toList ≠ [] ∧ ':' ∉ "a,b=c\n".toList ∧
      (∃ record, (testing.hashWithSalt [0x70, 0x77] "a,b=c\n").answer = .ok record ∧
        (interactive.verify [0x70, 0x77] record).answer = .ok true) ∧
      ∃ record, (interactive.hashWithSalt [0x70, 0x77] "a,b=c\n").answer = .ok record ∧
        ∀ candidate, ∃ fault,
          (testing.verify candidate record).answer = .error (.derivationFailure fault) := by
  have hPassword : ([0x70, 0x77] : List UInt8) ≠ [] := by decide
  have hSalt : "a,b=c\n".toList ≠ [] := by decide
  have hColon : ':' ∉ "a,b=c\n".toList := by decide
  refine ⟨hPassword, hSalt, hColon, ?_, ?_⟩
  · obtain ⟨record, key, needed, hRecord, -, -, -, -, hRaised, -⟩ :=
      record_verifies_across_policies testing interactive hPassword hSalt hColon
    exact ⟨record, hRecord, (hRaised (by decide) (by decide) (by decide)).2⟩
  · obtain ⟨record, key, needed, hRecord, -, hNeeded, hAbove, -⟩ :=
      record_verifies_across_policies interactive testing hPassword hSalt hColon
    obtain rfl : 33557504 = needed := Option.some.inj hNeeded
    exact ⟨record, hRecord, hAbove (by decide)⟩

end PasswordHashing.Hasher
