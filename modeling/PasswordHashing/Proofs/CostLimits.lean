import Mathlib.Algebra.Group.Nat.Defs
import Mathlib.Logic.Basic
import PasswordHashing.Policy

/-! The limits of a cost over the integers. The checks work with words and stop at the first step
that leaves their range; here each of them is one inequality on the numbers that a record or a
policy names. -/
namespace PasswordHashing

namespace Cost

/-- The bytes that a derivation takes. -/
def bytes (c : Cost) : Nat :=
  128 * c.blockSize.toNat * (2 ^ c.logN.toNat + c.parallelism.toNat + 2)

/-- The costs at which no derivation can be run. This does not speak of memory ceilings. -/
def Unusable (c : Cost) : Prop :=
  c.logN.toNat = 0 ∨ 64 ≤ c.logN.toNat ∨ c.blockSize.toNat = 0 ∨ c.parallelism.toNat = 0 ∨
    2 ^ 64 ≤ 128 * c.blockSize.toNat * 2 ^ c.logN.toNat ∨
      16 * c.blockSize.toNat ≤ c.logN.toNat ∨
        2 ^ 30 ≤ c.blockSize.toNat * c.parallelism.toNat

theorem logN_lt_of_usable {c : Cost} (hUsable : ¬ c.Unusable) : c.logN.toNat < 64 := by
  rw [Unusable] at hUsable
  omega

theorem word?_of_lt {n : Nat} (hLt : n < 2 ^ 64) : word? n = some n := by
  simp only [word?, UInt64.size]
  exact if_pos hLt

theorem word?_of_le {n : Nat} (hLe : 2 ^ 64 ≤ n) : word? n = none := by
  simp only [word?, UInt64.size]
  exact if_neg (Nat.not_lt.mpr hLe)

theorem two_pow_le {k : Nat} (hLt : k < 64) : 2 ^ k ≤ 2 ^ 63 :=
  Nat.pow_le_pow_right (by omega) (by omega)

/-- No step before the last can leave the range of a word alone: the rows fit for every work
factor, and the units fit if the bytes do. -/
theorem memory?_eq (c : Cost) :
    c.memory? = if c.logN.toNat < 64 ∧ c.bytes < 2 ^ 64 then some c.bytes else none := by
  have hLogN : c.logN < 64 ↔ c.logN.toNat < 64 := UInt8.lt_iff_toNat_lt
  by_cases hSmall : c.logN.toNat < 64
  · have hPow := two_pow_le hSmall
    have hP := c.parallelism.toNat_lt
    have hBytes : (2 ^ c.logN.toNat + c.parallelism.toNat + 2) * c.blockSize.toNat * 128 =
        c.bytes := by
      rw [bytes, Nat.mul_assoc, Nat.mul_comm _ 128, Nat.mul_comm]
    have hRows : word? (2 ^ c.logN.toNat + c.parallelism.toNat) =
        some (2 ^ c.logN.toNat + c.parallelism.toNat) := word?_of_lt (by omega)
    have hMoreRows : word? (2 ^ c.logN.toNat + c.parallelism.toNat + 2) =
        some (2 ^ c.logN.toNat + c.parallelism.toNat + 2) := word?_of_lt (by omega)
    have hMemory : c.memory? =
        (word? ((2 ^ c.logN.toNat + c.parallelism.toNat + 2) * c.blockSize.toNat)).bind
          fun units => word? (units * 128) := by
      simp [memory?, workFactor?, hLogN, hSmall, hRows, hMoreRows]
    rw [hMemory]
    by_cases hFits : c.bytes < 2 ^ 64
    · rw [word?_of_lt (by omega), Option.bind_some, hBytes, word?_of_lt hFits,
        if_pos ⟨hSmall, hFits⟩]
    · rw [if_neg fun h => hFits h.2]
      by_cases hUnits : (2 ^ c.logN.toNat + c.parallelism.toNat + 2) * c.blockSize.toNat < 2 ^ 64
      · rw [word?_of_lt hUnits, Option.bind_some, hBytes, word?_of_le (Nat.not_lt.mp hFits)]
      · rw [word?_of_le (Nat.not_lt.mp hUnits)]
        rfl
  · rw [if_neg fun h => hSmall h.1]
    simp [memory?, workFactor?, hLogN, hSmall]

/-- If the work factor and the bytes fit in a word, so does every step on the way to them. -/
theorem memory?_of_fits {c : Cost} (hLogN : c.logN.toNat < 64) (hFits : c.bytes < 2 ^ 64) :
    c.memory? = some c.bytes := by
  rw [memory?_eq, if_pos ⟨hLogN, hFits⟩]

/-- Conversely the memory is computed only if the work factor and the bytes fit, and it is then
exact. -/
theorem bytes_of_memory? {c : Cost} {needed : Nat} (hMemory : c.memory? = some needed) :
    c.logN.toNat < 64 ∧ c.bytes < 2 ^ 64 ∧ needed = c.bytes := by
  rw [memory?_eq] at hMemory
  split at hMemory
  · rename_i hFits
    cases hMemory
    exact ⟨hFits.1, hFits.2, rfl⟩
  · cases hMemory

/-- More of every parameter takes at least as many bytes. -/
theorem bytes_le_bytes {c d : Cost} (hLogN : c.logN.toNat ≤ d.logN.toNat)
    (hBlockSize : c.blockSize.toNat ≤ d.blockSize.toNat)
    (hParallelism : c.parallelism.toNat ≤ d.parallelism.toNat) : c.bytes ≤ d.bytes := by
  have hPow : 2 ^ c.logN.toNat ≤ 2 ^ d.logN.toNat := Nat.pow_le_pow_right (by omega) hLogN
  apply Nat.mul_le_mul
  · exact Nat.mul_le_mul_left 128 hBlockSize
  · omega

/-- The bytes of a derivation are told exactly if the work factor and the bytes each fit in a word,
and then they are the product over the integers: no step on the way refuses a cost whose product
would fit. A cost that is no larger in any parameter has its bytes told too, and no more of them. -/
theorem memory_is_exact_and_monotone (c d : Cost) :
    (∀ needed, c.memory? = some needed ↔
      c.logN.toNat < 64 ∧
        128 * c.blockSize.toNat * (2 ^ c.logN.toNat + c.parallelism.toNat + 2) < 2 ^ 64 ∧
        needed = 128 * c.blockSize.toNat * (2 ^ c.logN.toNat + c.parallelism.toNat + 2)) ∧
      (c.logN ≤ d.logN → c.blockSize ≤ d.blockSize → c.parallelism ≤ d.parallelism →
        ∀ more, d.memory? = some more → ∃ needed, c.memory? = some needed ∧ needed ≤ more) := by
  refine ⟨fun needed => ⟨bytes_of_memory?, ?_⟩, ?_⟩
  · rintro ⟨hLogN, hFits, rfl⟩
    exact memory?_of_fits hLogN hFits
  · intro hLogN hBlockSize hParallelism more hMore
    obtain ⟨hWord, hFits, rfl⟩ := bytes_of_memory? hMore
    have hLe : c.bytes ≤ d.bytes := bytes_le_bytes (UInt8.le_iff_toNat_le.mp hLogN)
      (UInt32.le_iff_toNat_le.mp hBlockSize) (UInt32.le_iff_toNat_le.mp hParallelism)
    have hSmall : c.logN.toNat < 64 := Nat.lt_of_le_of_lt (UInt8.le_iff_toNat_le.mp hLogN) hWord
    exact ⟨c.bytes, memory?_of_fits hSmall (Nat.lt_of_le_of_lt hLe hFits), hLe⟩

/-- The standard cost beside one that nearly fills a word: no parameter of the first is larger, and
so neither is its memory. -/
theorem standard_needs_less_than_largest_lanes :
    Cost.standard.logN ≤ 53 ∧ Cost.standard.blockSize ≤ 15 ∧
      Cost.standard.parallelism ≤ 4294967295 ∧
      (⟨53, 15, 4294967295⟩ : Cost).memory? = some 17293830815439914880 ∧
      ∃ needed, Cost.standard.memory? = some needed ∧ needed ≤ 17293830815439914880 :=
  ⟨by decide, by decide, by decide, by decide,
    (memory_is_exact_and_monotone .standard ⟨53, 15, 4294967295⟩).2 (by decide) (by decide)
      (by decide) _ (by decide)⟩

/-- A derivation can be run exactly at the usable costs. The lanes need no bound of their own, since
block size times parallelism is already bounded. -/
theorem fault?_eq_none_iff {c : Cost} : c.fault? = none ↔ ¬ c.Unusable := by
  have hK : (c.logN = 0 ∨ 64 ≤ c.logN) ↔ c.logN.toNat = 0 ∨ 64 ≤ c.logN.toNat := by
    rw [UInt8.le_iff_toNat_le, ← UInt8.toNat_inj]
    rfl
  have hZero : (c.blockSize = 0 ∨ c.parallelism = 0) ↔
      c.blockSize.toNat = 0 ∨ c.parallelism.toNat = 0 := by
    rw [← UInt32.toNat_inj, ← UInt32.toNat_inj]
    rfl
  have hLanes : 2 ^ 64 ≤ 128 * c.blockSize.toNat * c.parallelism.toNat →
      2 ^ 30 ≤ c.blockSize.toNat * c.parallelism.toNat := by
    rw [Nat.mul_assoc]
    omega
  simp only [fault?, hK, hZero, Unusable, UInt64.size, Nat.pow_eq]
  constructor
  · intro hNone
    split at hNone
    · cases hNone
    · split at hNone
      · cases hNone
      · split at hNone
        · cases hNone
        · omega
  · intro hUsable
    rw [if_neg (by omega), if_neg (by omega), if_neg (by omega)]

end Cost

namespace Policy

/-- A policy that is accepted with a cost, over the integers. Compact records do not name their
cost, so that their policy must have the one that goes without saying. -/
structure Accepts (p : Policy) (c : Cost) : Prop where
  workFactor : p.workFactor.toNat = 2 ^ c.logN.toNat
  blockSize : c.blockSize = p.blockSize
  parallelism : c.parallelism = p.parallelism
  usable : ¬ c.Unusable
  saltLength : 8 ≤ p.saltLength.toNat ∧ p.saltLength.toNat ≤ 64
  keyLength : 16 ≤ p.keyLength.toNat ∧ p.keyLength.toNat ≤ 64
  affordable : c.bytes ≤ p.maxMemory.toNat
  compact : p.layout = .compact → c = .standard ∧ p.keyLength = 64

theorem log2_workFactor_lt (p : Policy) (hPositive : 0 < p.workFactor.toNat) :
    p.workFactor.toNat.log2 < 64 :=
  (Nat.log2_lt (by omega)).mpr p.workFactor.toNat_lt

/-- The cost of a policy keeps the logarithm of the work factor whole. -/
theorem toNat_logN_cost (p : Policy) (hPositive : 0 < p.workFactor.toNat) :
    p.cost.logN.toNat = p.workFactor.toNat.log2 := by
  have hLog := p.log2_workFactor_lt hPositive
  simp only [cost, Nat.toUInt8, UInt8.toNat_ofNat']
  omega

/-- A policy that passes the check is within the limits over the integers, and the cost it is given
is its own. -/
theorem accepts_of_check {p : Policy} {c : Cost} (hCheck : p.check = .ok c) : p.Accepts c := by
  rw [check] at hCheck
  split at hCheck
  · cases hCheck
  rename_i hFactor
  split at hCheck
  · cases hCheck
  rename_i hSalt
  split at hCheck
  · cases hCheck
  rename_i hKey
  split at hCheck
  · cases hCheck
  rename_i hFault
  split at hCheck
  · cases hCheck
  rename_i needed hMemory
  split at hCheck
  · cases hCheck
  rename_i hCeiling
  split at hCheck
  · cases hCheck
  rename_i hLayout
  cases hCheck
  obtain ⟨hTwo, hPow⟩ := not_or.mp hFactor
  obtain ⟨-, -, rfl⟩ := Cost.bytes_of_memory? hMemory
  have hPositive : 0 < p.workFactor.toNat := by
    rw [UInt64.lt_iff_toNat_lt] at hTwo
    change ¬ p.workFactor.toNat < 2 at hTwo
    omega
  have hCompact (hEq : p.layout = .compact) : p.cost = .standard ∧ p.keyLength = 64 := by
    obtain ⟨hCost, hLength⟩ := not_or.mp fun h => hLayout ⟨hEq, h⟩
    exact ⟨not_not.mp hCost, not_not.mp hLength⟩
  refine ⟨?_, rfl, rfl, Cost.fault?_eq_none_iff.mp hFault, not_not.mp hSalt, not_not.mp hKey,
    Nat.not_lt.mp hCeiling, hCompact⟩
  rw [p.toNat_logN_cost hPositive]
  exact (not_not.mp hPow).symm

end Policy

end PasswordHashing
