import Mathlib.Data.List.Induction
import PasswordHashing.Proofs.CostField

/-! The spellings that are written. Among the many texts that spell a number, a key or a cost, one
is plain. It is given here by the text alone; writing always gives it, and whoever reads a plain
text and writes the value has the text again. -/
namespace PasswordHashing

open Text

namespace Decimal

/-- Digits without a sign, and no zero before other digits. -/
structure Plain (cs : List Char) : Prop where
  ne_nil : cs ≠ []
  isDigit : ∀ c ∈ cs, c.isDigit = true
  no_leading_zero : ∀ ds, cs = '0' :: ds → ds = []

theorem render_zero : render 0 = ['0'] := by
  rw [render]
  rfl

theorem render_injective {n m : Nat} (hRender : render n = render m) : n = m := by
  have hRead : read (max n m) (render n) = read (max n m) (render m) := by rw [hRender]
  rw [read_render (Nat.le_max_left n m), read_render (Nat.le_max_right n m)] at hRead
  exact Except.ok.inj hRead

theorem digit_of_isDigit {c : Char} (hDigit : c.isDigit = true) : digit (c.toNat - 48) = c := by
  have hRange := isDigit_iff.mp hDigit
  rw [digit, Nat.add_sub_cancel' hRange.1, Char.ofNat_toNat]

/-- Numbers are written plainly. -/
theorem plain_render (n : Nat) : Plain (render n) := by
  refine ⟨render_ne_nil n, ?_, ?_⟩
  · intro c hMem
    obtain ⟨d, hSome⟩ := Option.isSome_iff_exists.mp (digit?_of_mem_render hMem)
    exact (digit?_eq_some_iff.mp hSome).1
  · induction n using Nat.strongRecOn with
    | ind n ih =>
        intro ds hZero
        rw [render] at hZero
        split at hZero
        · exact (List.cons.inj hZero).2.symm
        · obtain ⟨c, rest, hCons⟩ := List.exists_cons_of_ne_nil (render_ne_nil (n / 10))
          rw [hCons] at hZero
          obtain ⟨rfl, -⟩ := List.cons.inj hZero
          obtain rfl := ih (n / 10) (by omega) rest hCons
          have hNone : n / 10 = 0 := render_injective (hCons.trans render_zero.symm)
          omega

/-- Digits without a leading zero are what is written for their value. Writing splits off the last
digit; what stands before it is plain again and not zero. -/
theorem render_ofDigitChars {cs : List Char} (hPlain : Plain cs) :
    render (Nat.ofDigitChars 10 cs 0) = cs := by
  induction cs using List.reverseRecOn with
  | nil => exact absurd rfl hPlain.ne_nil
  | append_singleton ds d ih =>
      have hDigit := hPlain.isDigit d (by simp)
      have hRange := isDigit_iff.mp hDigit
      have hValue : Nat.ofDigitChars 10 (ds ++ [d]) 0 =
          10 * Nat.ofDigitChars 10 ds 0 + (d.toNat - 48) := by
        simp [Nat.ofDigitChars_append, Nat.ofDigitChars_cons]
      rw [hValue]
      by_cases hNil : ds = []
      · subst hNil
        rw [Nat.ofDigitChars_nil, render, if_pos (by omega)]
        simpa using digit_of_isDigit hDigit
      · have hFront (rest : List Char) : ds ≠ '0' :: rest := by
          rintro rfl
          exact absurd (hPlain.no_leading_zero (rest ++ [d]) rfl) (by simp)
        have hShorter := ih ⟨hNil, fun c hMem => hPlain.isDigit c (by simp [hMem]),
          fun rest hZero => absurd hZero (hFront rest)⟩
        generalize Nat.ofDigitChars 10 ds 0 = n at hShorter
        have hPositive : n ≠ 0 := by
          rintro rfl
          exact hFront [] (hShorter.symm.trans render_zero)
        have hQuotient : (10 * n + (d.toNat - 48)) / 10 = n := by omega
        have hRemainder : (10 * n + (d.toNat - 48)) % 10 = d.toNat - 48 := by omega
        rw [render, if_neg (by omega), hQuotient, hRemainder, hShorter, digit_of_isDigit hDigit]

/-- Plain digits are what is written for their number. -/
theorem render_of_plain {cs : List Char} {n : Nat} (hSpells : Spells cs n) (hPlain : Plain cs) :
    render n = cs := by
  cases hSpells with
  | plain => exact render_ofDigitChars hPlain
  | signed =>
      have hPlus := hPlain.isDigit '+' List.mem_cons_self
      cases hPlus

theorem Plain.not_mem {cs : List Char} (hPlain : Plain cs) : ',' ∉ cs ∧ ':' ∉ cs :=
  ⟨fun hMem => (isDigit_ne (hPlain.isDigit _ hMem)).2.1 rfl,
    fun hMem => (isDigit_ne (hPlain.isDigit _ hMem)).2.2 rfl⟩

end Decimal

namespace Hex

/-- Text without a hexadecimal digit of the upper case. -/
def Lower (cs : List Char) : Prop :=
  ∀ c ∈ cs, ¬ ('A' ≤ c ∧ c ≤ 'F')

/-- Bytes are written without an upper-case digit. -/
theorem lower_encode (bytes : List UInt8) : Lower (encode bytes) := by
  have hDigit : ∀ n : Fin 16, ¬ ('A' ≤ digit n ∧ digit n ≤ 'F') := by decide
  exact forall_mem_encode hDigit bytes

theorem lt_of_isDigit {c : Char} {n : Nat} (hDigit : IsDigit c n) : n < 16 := by
  rw [isDigit_iff] at hDigit
  omega

theorem digit_of_isDigit {c : Char} {n : Nat} (hDigit : IsDigit c n)
    (hLower : ¬ ('A' ≤ c ∧ c ≤ 'F')) : digit n = c := by
  cases hDigit with
  | decimal hLow hHigh =>
      have hZero : '0'.toNat = 48 := rfl
      have hLow : 48 ≤ c.toNat := char_le_iff_toNat_le.mp hLow
      have hHigh : c.toNat ≤ 57 := char_le_iff_toNat_le.mp hHigh
      rw [digit, if_pos (by omega), hZero, Nat.add_sub_cancel' hLow, Char.ofNat_toNat]
  | lower hLow hHigh =>
      have hA : 'a'.toNat = 97 := rfl
      have hLow : 97 ≤ c.toNat := char_le_iff_toNat_le.mp hLow
      have hCode : 87 + (c.toNat - 'a'.toNat + 10) = c.toNat := by omega
      rw [digit, if_neg (by omega), hCode, Char.ofNat_toNat]
  | upper hLow hHigh => exact absurd ⟨hLow, hHigh⟩ hLower

/-- Digits without one of the upper case are what is written for their bytes. -/
theorem encode_of_lower {cs : List Char} {bytes : List UInt8} (hSpells : Spells cs bytes)
    (hLower : Lower cs) : encode bytes = cs := by
  induction hSpells with
  | nil => rfl
  | @cons high low x y cs bytes hHigh hLow _ ih =>
      have hX := lt_of_isDigit hHigh
      have hY := lt_of_isDigit hLow
      have hByte : (UInt8.ofNat (16 * x + y)).toNat = 16 * x + y := by
        rw [UInt8.toNat_ofNat']
        omega
      have hQuotient : (16 * x + y) / 16 = x := by omega
      have hRemainder : (16 * x + y) % 16 = y := by omega
      simp only [Lower, List.forall_mem_cons] at hLower
      rw [encode_cons, hByte, hQuotient, hRemainder, digit_of_isDigit hHigh hLower.1,
        digit_of_isDigit hLow hLower.2.1, ih hLower.2.2]

end Hex

namespace Cost

/-- The parameters in the order `ln`, `r`, `p`, each number in plain decimal. -/
inductive Plain : List Char → Prop where
  | intro {a b c : List Char} (hLogN : Decimal.Plain a) (hBlockSize : Decimal.Plain b)
      (hParallelism : Decimal.Plain c) :
      Plain (['l', 'n', '='] ++ a ++ [',', 'r', '='] ++ b ++ [',', 'p', '='] ++ c)

/-- Costs are written plainly, with their parameters in order. -/
theorem plain_chars (cost : Cost) : Plain cost.chars :=
  .intro (Decimal.plain_render _) (Decimal.plain_render _) (Decimal.plain_render _)

theorem colon_not_mem_of_plain {q : List Char} (hPlain : Plain q) : ':' ∉ q := by
  cases hPlain with
  | intro hA hB hC => simp [hA.not_mem, hB.not_mem, hC.not_mem]

/-- In the plain text of a cost each item is known by its place, where the grammar knows it by its
name only. -/
theorem chars_of_plain {q : List Char} {cost : Cost} (hSpells : Cost.Spells q cost)
    (hPlain : Plain q) : cost.chars = q := by
  obtain ⟨items, i, j, l, hTexts, hPerm, hLogN, hBlockSize, hParallelism, hK, hR, hP⟩ :=
    exists_items_of_read (read_of_spells hSpells)
  cases hPlain with
  | @intro a b c hA hB hC =>
      have hSplit : split ','
          (['l', 'n', '='] ++ a ++ [',', 'r', '='] ++ b ++ [',', 'p', '='] ++ c) =
          [['l', 'n', '='] ++ a, ['r', '='] ++ b, ['p', '='] ++ c] := by
        refine split_eq_iff.mpr ⟨by simp, ?_, ?_⟩
        · simp [hA.not_mem, hB.not_mem, hC.not_mem]
        · simp [List.intercalate]
      have hItem (x : CostItem) (hMem : x ∈ [i, j, l]) :
          x.chars ∈ [['l', 'n', '='] ++ a, ['r', '='] ++ b, ['p', '='] ++ c] := by
        rw [← hSplit, hTexts]
        exact List.mem_map_of_mem (hPerm.mem_iff.mpr hMem)
      obtain rfl : i.text = a := by
        simpa [CostItem.chars, hLogN, Parameter.name] using hItem i (by simp)
      obtain rfl : j.text = b := by
        simpa [CostItem.chars, hBlockSize, Parameter.name] using hItem j (by simp)
      obtain rfl : l.text = c := by
        simpa [CostItem.chars, hParallelism, Parameter.name] using hItem l (by simp)
      rw [chars, hK, hR, hP, Decimal.render_of_plain i.spells hA,
        Decimal.render_of_plain j.spells hB, Decimal.render_of_plain l.spells hC]

end Cost

end PasswordHashing
