import Mathlib.Data.FinEnum
import Mathlib.Data.Fintype.Pi
import Mathlib.Probability.Distributions.Uniform
import PasswordHashing.AppPassword

/-! The law of generated app passwords. What is generated is exactly what is recognised: the writer
sets its dashes by the bytes that went before, the recogniser by the places in the text, and one
count of places ties the two together. Each app password comes from equally many draws, since each
symbol stands for equally many bytes. Nothing is assumed of the source of the bytes; for a uniform
draw every app password is equally likely. -/
namespace PasswordHashing

open scoped ENNReal

def drawEquiv (n : Nat) : Vector UInt8 n ≃ (Fin n → UInt8) where
  toFun draw i := draw[i]
  invFun := Vector.ofFn
  left_inv draw := by ext; simp
  right_inv bytes := by funext; simp

instance fintypeDraw (n : Nat) : Fintype (Vector UInt8 n) :=
  .ofEquiv _ (drawEquiv n).symm

theorem card_draw (n : Nat) : Nat.card (Vector UInt8 n) = 256 ^ n := by
  have hByte : Nat.card UInt8 = 256 := by
    rw [Nat.card_eq_fintype_card, ← FinEnum.card_eq_fintypeCard, FinEnum.card_UInt8]
    rfl
  rw [Nat.card_congr (drawEquiv n), Nat.card_fun, hByte, Nat.card_fin]

namespace AppPassword

section Symbols

theorem symbol_mem (b : UInt8) : symbol b ∈ alphabet :=
  Vector.getElem_mem _

theorem exists_symbol_eq {c : UInt8} (hMem : c ∈ alphabet) : ∃ b, symbol b = c := by
  obtain ⟨i, hLt, rfl⟩ := Vector.getElem_of_mem hMem
  refine ⟨UInt8.ofNat i, ?_⟩
  have hIndex : (UInt8.ofNat i).toNat % 32 = i := by
    rw [UInt8.toNat_ofNat']
    omega
  simp only [symbol, hIndex]

/-- The symbol for a byte depends on its lower five bits alone, and on all of them. -/
theorem symbol_eq_symbol_iff {a b : UInt8} :
    symbol a = symbol b ↔ a.toNat % 32 = b.toNat % 32 := by
  have hDistinct : ∀ i j : Fin 32, alphabet[i] = alphabet[j] → i = j := by decide
  constructor
  · intro hSame
    have hIndex := hDistinct ⟨a.toNat % 32, by omega⟩ ⟨b.toNat % 32, by omega⟩ hSame
    exact congrArg Fin.val hIndex
  · intro hSame
    simp only [symbol, hSame]

/-- The bytes of one symbol, 32 apart. -/
def symbolEquiv (a : UInt8) : {b : UInt8 // symbol b = symbol a} ≃ Fin 8 where
  toFun b := ⟨b.val.toNat / 32, by have := b.val.toNat_lt; omega⟩
  invFun k := ⟨UInt8.ofNat (32 * k + a.toNat % 32), by
    rw [symbol_eq_symbol_iff, UInt8.toNat_ofNat']
    omega⟩
  left_inv b := by
    have hSame := symbol_eq_symbol_iff.mp b.property
    have hLt := b.val.toNat_lt
    apply Subtype.ext
    apply UInt8.toNat_inj.mp
    rw [UInt8.toNat_ofNat']
    dsimp only
    omega
  right_inv k := by
    apply Fin.ext
    dsimp only
    rw [UInt8.toNat_ofNat']
    omega

end Symbols

section Places

/-- The symbols and dashes of a text stand where an app password has them; `k` places go before. -/
def Formed (k : Nat) : List UInt8 → Prop
  | [] => True
  | c :: cs => (if k % 5 = 4 then c = dash else c ∈ alphabet) ∧ Formed (k + 1) cs

/-- The form by recursion is the form by place: a dash at every fifth place, and symbols at the
others. -/
theorem formed_iff_all_zipIdx {k : Nat} {cs : List UInt8} :
    Formed k cs ↔ ((cs.zipIdx k).all fun (c, i) =>
      if i % 5 = 4 then c = dash else alphabet.contains c) = true := by
  induction cs generalizing k with
  | nil => simp [Formed]
  | cons c cs ih =>
      rw [Formed, ih, List.zipIdx_cons, List.all_cons, Bool.and_eq_true]
      by_cases hDash : k % 5 = 4 <;> simp [hDash]

/-- The test for app passwords asks for nineteen characters and the form, no more. -/
theorem isAppPassword_iff {candidate : List UInt8} :
    isAppPassword candidate = true ↔ candidate.length = 19 ∧ Formed 0 candidate := by
  rw [isAppPassword, Bool.and_eq_true, decide_eq_true_iff, formed_iff_all_zipIdx]

/-- The places that are taken once `i` symbols have been written. -/
def places (i : Nat) : Nat :=
  i + (i - 1) / 4

/-- One step of the writer: any byte takes one place, and two where a dash is due. -/
theorem write_cases (i : Nat) :
    (places i % 5 = 4 ∧ places (i + 1) = places i + 2 ∧
      ∀ b bytes, write i (b :: bytes) = dash :: symbol b :: write (i + 1) bytes) ∨
    (places i % 5 ≠ 4 ∧ places (i + 1) = places i + 1 ∧
      ∀ b bytes, write i (b :: bytes) = symbol b :: write (i + 1) bytes) := by
  simp only [places]
  by_cases hDash : 0 < i ∧ i % 4 = 0
  · exact .inl ⟨by omega, by omega, fun b bytes => by rw [write, if_pos hDash]⟩
  · exact .inr ⟨by omega, by omega, fun b bytes => by rw [write, if_neg hDash]⟩

/-- What is written for random bytes has the form, wherever in the text it begins. -/
theorem formed_write (i : Nat) (bytes : List UInt8) : Formed (places i) (write i bytes) := by
  induction bytes generalizing i with
  | nil => trivial
  | cons b bytes ih =>
      have hRest := ih (i + 1)
      rcases write_cases i with ⟨hPlace, hNext, hWrite⟩ | ⟨hPlace, hNext, hWrite⟩
      · rw [hNext] at hRest
        rw [hWrite, Formed, Formed, if_pos hPlace, if_neg (by omega)]
        exact ⟨rfl, symbol_mem b, hRest⟩
      · rw [hNext] at hRest
        rw [hWrite, Formed, if_neg hPlace]
        exact ⟨symbol_mem b, hRest⟩

/-- Each symbol takes one place, and a dash before it another one where a group begins. -/
theorem length_write (i : Nat) (bytes : List UInt8) :
    places i + (write i bytes).length = places (i + bytes.length) := by
  induction bytes generalizing i with
  | nil => rfl
  | cons b bytes ih =>
      rw [List.length_cons, Nat.add_comm bytes.length, ← Nat.add_assoc, ← ih (i + 1)]
      rcases write_cases i with ⟨-, hNext, hWrite⟩ | ⟨-, hNext, hWrite⟩
      · rw [hWrite, hNext, List.length_cons, List.length_cons]
        omega
      · rw [hWrite, hNext, List.length_cons]
        omega

/-- A text of the right form and length is written for some bytes. -/
theorem exists_write_eq {i n : Nat} {cs : List UInt8} (hFormed : Formed (places i) cs)
    (hLength : places i + cs.length = places (i + n)) :
    ∃ bytes : List UInt8, bytes.length = n ∧ write i bytes = cs := by
  induction n generalizing i cs with
  | zero =>
      have hNil : cs = [] := List.length_eq_zero_iff.mp (by simpa using hLength)
      exact ⟨[], rfl, hNil.symm⟩
  | succ n ih =>
      have hRoom : places (i + 1) ≤ places (i + (n + 1)) := by
        simp only [places]
        omega
      have hTotal : i + (n + 1) = i + 1 + n := by omega
      rw [hTotal] at hLength hRoom
      rcases write_cases i with ⟨hPlace, hNext, hWrite⟩ | ⟨hPlace, hNext, hWrite⟩
      · obtain ⟨d, cs, rfl⟩ := List.exists_cons_of_length_pos (show 0 < cs.length by omega)
        rw [List.length_cons] at hLength
        obtain ⟨c, cs, rfl⟩ := List.exists_cons_of_length_pos (show 0 < cs.length by omega)
        rw [List.length_cons] at hLength
        rw [Formed, Formed, if_pos hPlace, if_neg (by omega)] at hFormed
        obtain ⟨rfl, hSymbol, hRest⟩ := hFormed
        obtain ⟨b, rfl⟩ := exists_symbol_eq hSymbol
        obtain ⟨bytes, hCount, rfl⟩ := ih (hNext ▸ hRest) (by omega)
        exact ⟨b :: bytes, congrArg (· + 1) hCount, hWrite b bytes⟩
      · obtain ⟨c, cs, rfl⟩ := List.exists_cons_of_length_pos (show 0 < cs.length by omega)
        rw [List.length_cons] at hLength
        rw [Formed, if_neg hPlace] at hFormed
        obtain ⟨hSymbol, hRest⟩ := hFormed
        obtain ⟨b, rfl⟩ := exists_symbol_eq hSymbol
        obtain ⟨bytes, hCount, rfl⟩ := ih (hNext ▸ hRest) (by omega)
        exact ⟨b :: bytes, congrArg (· + 1) hCount, hWrite b bytes⟩

/-- Texts are equal when their symbols are, since the dashes depend on the places alone. -/
theorem write_eq_write_iff {i : Nat} {bytes other : List UInt8} :
    write i bytes = write i other ↔ bytes.map symbol = other.map symbol := by
  induction bytes generalizing i other with
  | nil =>
      cases other with
      | nil => simp
      | cons c other =>
          have hNonempty := write_ne_nil (i := i) (List.cons_ne_nil c other)
          simp [hNonempty.symm]
  | cons b bytes ih =>
      cases other with
      | nil =>
          have hNonempty := write_ne_nil (i := i) (List.cons_ne_nil b bytes)
          simp [hNonempty]
      | cons c other =>
          rcases write_cases i with ⟨-, -, hWrite⟩ | ⟨-, -, hWrite⟩ <;>
            simp [hWrite, ih]

end Places

section Draws

variable {draw sample : Vector UInt8 16} {candidate : List UInt8}

/-- The texts that pass the test are those that some draw gives, and no others. -/
theorem isAppPassword_iff_exists_draw :
    isAppPassword candidate = true ↔ ∃ draw, (generate draw).bytes = candidate := by
  have hAll : places (0 + 16) = 19 := rfl
  rw [isAppPassword_iff]
  constructor
  · rintro ⟨hLength, hFormed⟩
    have hStart : Formed (places 0) candidate := hFormed
    have hPlaces : places 0 + candidate.length = places (0 + 16) := by
      rw [hLength, hAll]
      rfl
    obtain ⟨bytes, hCount, hWrite⟩ := exists_write_eq hStart hPlaces
    exact ⟨⟨bytes.toArray, by simpa using hCount⟩, hWrite⟩
  · rintro ⟨draw, rfl⟩
    have hLength := length_write 0 draw.toList
    rw [Vector.length_toList, hAll] at hLength
    exact ⟨(Nat.zero_add _).symm.trans hLength, formed_write 0 draw.toList⟩

/-- Two draws give one password exactly if they agree symbol by symbol. -/
theorem generate_eq_generate_iff :
    (generate draw).bytes = (generate sample).bytes ↔
      ∀ i : Fin 16, symbol draw[i] = symbol sample[i] := by
  rw [generate, generate, write_eq_write_iff, ← Vector.toList_map, ← Vector.toList_map,
    Vector.toList_inj, Vector.ext_iff]
  simp [Fin.forall_iff]

/-- The bytes of a draw are chosen apart from each other, each among the eight of its symbol. -/
theorem card_draws_of_generate (sample : Vector UInt8 16) :
    Nat.card {draw // (generate draw).bytes = (generate sample).bytes} = 8 ^ 16 := by
  have hSymbol (i : Fin 16) : Nat.card {b // symbol b = symbol sample[i]} = 8 := by
    rw [Nat.card_congr (symbolEquiv sample[i]), Nat.card_fin]
  calc Nat.card {draw // (generate draw).bytes = (generate sample).bytes}
      = Nat.card {bytes : Fin 16 → UInt8 // ∀ i, symbol (bytes i) = symbol sample[i]} :=
        Nat.card_congr ((drawEquiv 16).subtypeEquiv fun _ => generate_eq_generate_iff)
    _ = Nat.card (∀ i : Fin 16, {b // symbol b = symbol sample[i]}) :=
        Nat.card_congr (Equiv.subtypePiEquivPi (p := fun i b => symbol b = symbol sample[i]))
    _ = ∏ i : Fin 16, Nat.card {b // symbol b = symbol sample[i]} := Nat.card_pi
    _ = 8 ^ 16 := by simp only [hSymbol, Finset.prod_const, Finset.card_univ, Fintype.card_fin]

/-- Every app password comes from equally many draws: eight bytes stand behind each of its
symbols. -/
theorem card_draws (candidate : List UInt8) :
    Nat.card {draw // (generate draw).bytes = candidate} =
      if isAppPassword candidate = true then 8 ^ 16 else 0 := by
  split
  · rename_i hForm
    obtain ⟨sample, rfl⟩ := isAppPassword_iff_exists_draw.mp hForm
    exact card_draws_of_generate sample
  · rename_i hForm
    have hNone : IsEmpty {draw // (generate draw).bytes = candidate} :=
      ⟨fun draw => hForm (isAppPassword_iff_exists_draw.mpr ⟨draw.val, draw.property⟩)⟩
    exact Nat.card_of_isEmpty

/-- The probability of a text, if all draws have the same. -/
theorem map_generate_apply (candidate : List UInt8) :
    (PMF.uniformOfFintype (Vector UInt8 16)).map (fun draw => (generate draw).bytes) candidate =
      if isAppPassword candidate = true then (32 ^ 16 : ℝ≥0∞)⁻¹ else 0 := by
  classical
  have hCard : Nat.card (Set.preimage (fun draw => (generate draw).bytes) {candidate}) =
      if isAppPassword candidate = true then 8 ^ 16 else 0 := card_draws candidate
  rw [← PMF.toOuterMeasure_apply_singleton, PMF.toOuterMeasure_map_apply,
    PMF.toOuterMeasure_uniformOfFintype_apply, ← Nat.card_eq_fintype_card,
    ← Nat.card_eq_fintype_card, card_draw, hCard]
  split
  · have hAll : ((256 ^ 16 : ℕ) : ℝ≥0∞) = 8 ^ 16 * 32 ^ 16 := by norm_num
    have hSome : ((8 ^ 16 : ℕ) : ℝ≥0∞) = 8 ^ 16 * 1 := by norm_num
    rw [hAll, hSome, ENNReal.mul_div_mul_left 1 (32 ^ 16) (by simp) (by simp), one_div]
  · rw [Nat.cast_zero, ENNReal.zero_div]

/-- The form of app passwords is what is generated, no more and no less: of the `256 ^ 16` draws,
every one gives a text of the form, and each text of the form comes from `8 ^ 16`. If the draw is
uniform, each text of the form has the same probability, one in `32 ^ 16`, and no other text has
any. -/
theorem generated_passwords_are_uniform :
    (∀ draw, isAppPassword (generate draw).bytes = true) ∧
      {candidate | isAppPassword candidate = true} =
        Set.range (fun draw => (generate draw).bytes) ∧
      Nat.card (Vector UInt8 16) = 256 ^ 16 ∧
      (∀ candidate, Nat.card {draw // (generate draw).bytes = candidate} =
        if isAppPassword candidate = true then 8 ^ 16 else 0) ∧
      ∀ candidate,
        (PMF.uniformOfFintype (Vector UInt8 16)).map (fun draw => (generate draw).bytes) candidate =
          if isAppPassword candidate = true then (32 ^ 16 : ℝ≥0∞)⁻¹ else 0 := by
  refine ⟨fun draw => isAppPassword_iff_exists_draw.mpr ⟨draw, rfl⟩, ?_, card_draw 16, card_draws,
    map_generate_apply⟩
  ext candidate
  exact isAppPassword_iff_exists_draw

end Draws

end AppPassword

end PasswordHashing
