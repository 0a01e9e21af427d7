import PasswordHashing.Hasher
import PasswordHashing.Proofs.CostLimits

/-! Which policies are accepted. The checks work with words and two of them bound nearly the same
product, so that a policy can pass the first and overflow in the second. Over the integers the
limits are few and none of them is about words. -/
namespace PasswordHashing

namespace Policy

/-- The limits on a policy with the work factor `2 ^ k`, over the integers. -/
structure Limits (p : Policy) (k : Nat) : Prop where
  workFactor : p.workFactor.toNat = 2 ^ k
  one_le_log : 1 ≤ k
  saltLength : 8 ≤ p.saltLength.toNat ∧ p.saltLength.toNat ≤ 64
  keyLength : 16 ≤ p.keyLength.toNat ∧ p.keyLength.toNat ≤ 64
  one_le_blockSize : 1 ≤ p.blockSize.toNat
  one_le_parallelism : 1 ≤ p.parallelism.toNat
  log_lt : k < 16 * p.blockSize.toNat
  lanes_lt : p.blockSize.toNat * p.parallelism.toNat < 2 ^ 30
  affordable : 128 * p.blockSize.toNat * (2 ^ k + p.parallelism.toNat + 2) ≤ p.maxMemory.toNat
  compact : p.layout = .compact → k = 14 ∧ p.blockSize.toNat = 8 ∧ p.parallelism.toNat = 1 ∧
    p.keyLength.toNat = 64

variable {p : Policy} {c : Cost} {k : Nat}

theorem Limits.log_lt_word (hLimits : p.Limits k) : k < 64 := by
  have hFactor := p.workFactor.toNat_lt
  rw [hLimits.workFactor] at hFactor
  exact (Nat.pow_lt_pow_iff_right (by omega)).mp hFactor

/-- The cost that a policy is accepted with is the one it stands for. -/
theorem Accepts.cost_eq (hAccepts : p.Accepts c) : p.cost = c := by
  obtain ⟨logN, blockSize, parallelism⟩ := c
  obtain rfl : blockSize = p.blockSize := hAccepts.blockSize
  obtain rfl : parallelism = p.parallelism := hAccepts.parallelism
  have hFactor : p.workFactor.toNat = 2 ^ logN.toNat := hAccepts.workFactor
  have hPositive : 0 < p.workFactor.toNat := by
    rw [hFactor]
    exact Nat.two_pow_pos _
  have hLog : p.cost.logN = logN := by
    apply UInt8.toNat_inj.mp
    rw [p.toNat_logN_cost hPositive, hFactor, Nat.log2_two_pow]
  exact congrArg (Cost.mk · _ _) hLog

theorem Accepts.workFactor_passes (hAccepts : p.Accepts c) :
    ¬ (p.workFactor < 2 ∨ Nat.pow 2 p.workFactor.toNat.log2 ≠ p.workFactor.toNat) := by
  have hPositive : c.logN.toNat ≠ 0 := fun hZero => hAccepts.usable (.inl hZero)
  have hLe : 2 ^ 1 ≤ 2 ^ c.logN.toNat := Nat.pow_le_pow_right (by omega) (by omega)
  rw [not_or, not_not, UInt64.lt_iff_toNat_lt, hAccepts.workFactor, Nat.log2_two_pow, Nat.pow_eq]
  exact ⟨Nat.not_lt.mpr hLe, rfl⟩

theorem Accepts.layout_passes (hAccepts : p.Accepts c) :
    ¬ (p.layout = .compact ∧ (c ≠ .standard ∨ p.keyLength ≠ standard.keyLength)) := by
  rintro ⟨hCompact, hNot | hNot⟩
  · exact hNot (hAccepts.compact hCompact).1
  · exact hNot (hAccepts.compact hCompact).2

/-- A policy within the limits passes every check, and is given its cost. -/
theorem check_of_accepts (hAccepts : p.Accepts c) : p.check = .ok c := by
  have hUsable := hAccepts.usable
  have hCeiling := p.maxMemory.toNat_lt
  have hAffordable := hAccepts.affordable
  have hSalt : within saltLengths p.saltLength := hAccepts.saltLength
  have hKey : within keyLengths p.keyLength := hAccepts.keyLength
  rw [check, if_neg hAccepts.workFactor_passes, if_neg (not_not.mpr hSalt),
    if_neg (not_not.mpr hKey), hAccepts.cost_eq, Cost.fault?_eq_none_iff.mpr hUsable,
    Cost.memory?_of_fits (Cost.logN_lt_of_usable hUsable) (by omega)]
  dsimp only
  rw [if_neg (Nat.not_lt.mpr hAffordable), if_neg hAccepts.layout_passes]

/-- The check accepts exactly the policies within the limits. -/
theorem check_eq_ok_iff : p.check = .ok c ↔ p.Accepts c :=
  ⟨accepts_of_check, check_of_accepts⟩

/-- The bounds on words follow from the ceiling, which is a word itself. -/
theorem Limits.usable {logN : UInt8} (hLimits : p.Limits logN.toNat) :
    ¬ Cost.Unusable ⟨logN, p.blockSize, p.parallelism⟩ := by
  have hCeiling := p.maxMemory.toNat_lt
  have hAffordable := hLimits.affordable
  have hTable : 128 * p.blockSize.toNat * 2 ^ logN.toNat ≤
      128 * p.blockSize.toNat * (2 ^ logN.toNat + p.parallelism.toNat + 2) :=
    Nat.mul_le_mul_left _ (by omega)
  have hLog := hLimits.one_le_log
  have hLogWord := hLimits.log_lt_word
  have hR := hLimits.one_le_blockSize
  have hP := hLimits.one_le_parallelism
  have hLogLt := hLimits.log_lt
  have hLanes := hLimits.lanes_lt
  rw [Cost.Unusable]
  dsimp only
  omega

/-- The limits on a policy give those on its cost. -/
theorem Limits.accepts {logN : UInt8} (hLimits : p.Limits logN.toNat) :
    p.Accepts ⟨logN, p.blockSize, p.parallelism⟩ := by
  refine ⟨hLimits.workFactor, rfl, rfl, hLimits.usable, hLimits.saltLength, hLimits.keyLength,
    hLimits.affordable, ?_⟩
  intro hCompact
  obtain ⟨hK, hR, hP, hKey⟩ := hLimits.compact hCompact
  have hLogN : logN = 14 := UInt8.toNat_inj.mp hK
  have hBlockSize : p.blockSize = 8 := UInt32.toNat_inj.mp hR
  have hParallelism : p.parallelism = 1 := UInt32.toNat_inj.mp hP
  rw [hLogN, hBlockSize, hParallelism]
  exact ⟨rfl, UInt64.toNat_inj.mp hKey⟩

/-- Conversely an accepted policy is within the limits, with the work factor that its cost has. -/
theorem Accepts.limits (hAccepts : p.Accepts c) : p.Limits c.logN.toNat := by
  have hUsable := hAccepts.usable
  have hAffordable := hAccepts.affordable
  rw [Cost.Unusable, hAccepts.blockSize, hAccepts.parallelism] at hUsable
  rw [Cost.bytes, hAccepts.blockSize, hAccepts.parallelism] at hAffordable
  refine ⟨hAccepts.workFactor, by omega, hAccepts.saltLength, hAccepts.keyLength, by omega,
    by omega, by omega, by omega, hAffordable, ?_⟩
  intro hCompact
  obtain ⟨rfl, hKey⟩ := hAccepts.compact hCompact
  exact ⟨rfl, congrArg UInt32.toNat hAccepts.blockSize.symm,
    congrArg UInt32.toNat hAccepts.parallelism.symm, congrArg UInt64.toNat hKey⟩

theorem accepts_iff_limits : p.Accepts c ↔
    p.Limits c.logN.toNat ∧ c.blockSize = p.blockSize ∧ c.parallelism = p.parallelism := by
  constructor
  · intro hAccepts
    exact ⟨hAccepts.limits, hAccepts.blockSize, hAccepts.parallelism⟩
  · obtain ⟨logN, blockSize, parallelism⟩ := c
    rintro ⟨hLimits, rfl, rfl⟩
    exact hLimits.accepts

/-- A policy is acceptable exactly if it is within the limits for some power of two. -/
theorem exists_check_iff : (∃ c, p.check = .ok c) ↔ ∃ k, p.Limits k := by
  constructor
  · rintro ⟨c, hCheck⟩
    exact ⟨_, (accepts_of_check hCheck).limits⟩
  · rintro ⟨k, hLimits⟩
    have hLog := hLimits.log_lt_word
    have hWord : k.toUInt8.toNat = k := UInt8.toNat_ofNat_of_lt' (Nat.lt_trans hLog (by decide))
    rw [← hWord] at hLimits
    exact ⟨_, check_of_accepts hLimits.accepts⟩

/-- A hasher is refused for the reason the check gives. -/
theorem ofPolicy_of_check_error {fault : PolicyFault} (hCheck : p.check = .error fault) :
    (Hasher.ofPolicy p).answer = .error (.invalidConfig fault) := by
  rw [Hasher.ofPolicy]
  split
  · rename_i hOk
    rw [hCheck] at hOk
    cases hOk
  · rename_i hError
    rw [hCheck] at hError
    cases hError
    rfl

/-- A policy that passes the check makes a hasher, with itself and the cost it was given. -/
theorem ofPolicy_of_check_ok (hCheck : p.check = .ok c) :
    (Hasher.ofPolicy p).answer = .ok ⟨p, c, hCheck⟩ := by
  rw [Hasher.ofPolicy]
  split
  · rename_i hOk
    rw [hCheck] at hOk
    cases hOk
    rfl
  · rename_i hError
    rw [hCheck] at hError
    cases hError

/-- The checks accept a policy exactly within its limits, and then with the cost that it names.
Every other policy is an invalid configuration. -/
theorem check_decides_limits (p : Policy) :
    (∀ c : Cost, p.check = .ok c ↔
        p.Limits c.logN.toNat ∧ c.blockSize = p.blockSize ∧ c.parallelism = p.parallelism) ∧
      ((∃ c, p.check = .ok c) ↔ ∃ k, p.Limits k) ∧
      (∀ c, p.check = .ok c → c.workFactor? = some p.workFactor.toNat ∧
        ∃ h, (Hasher.ofPolicy p).answer = .ok h ∧ h.policy = p ∧ h.cost = c) ∧
      ((∃ fault, p.check = .error fault) ↔ ∀ k, ¬ p.Limits k) ∧
      ∀ fault, p.check = .error fault →
        (Hasher.ofPolicy p).answer = .error (.invalidConfig fault) := by
  refine ⟨fun c => ?_, exists_check_iff, fun c hCheck => ?_, ?_, fun _ => ofPolicy_of_check_error⟩
  · rw [check_eq_ok_iff, accepts_iff_limits]
  · have hAccepts := accepts_of_check hCheck
    have hLog : c.logN < 64 := UInt8.lt_iff_toNat_lt.mpr hAccepts.limits.log_lt_word
    refine ⟨?_, _, ofPolicy_of_check_ok hCheck, rfl, rfl⟩
    rw [Cost.workFactor?, if_pos hLog, hAccepts.workFactor, Nat.pow_eq]
  · rw [← not_exists, ← exists_check_iff]
    cases p.check <;> simp

/-- The table alone still fits in a word here. -/
example : check ⟨2 ^ 27, 2 ^ 30 - 1, 1, 2 ^ 64 - 1, 16, 64, .selfDescribing⟩ =
    .error .memoryOverflow := by rfl

end Policy

end PasswordHashing
