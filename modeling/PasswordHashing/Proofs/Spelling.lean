import PasswordHashing.Bytes.Hex
import PasswordHashing.Text.Delimited

/-! What the readers of fields, numbers and bytes accept. Each relation `Spells` is given by the
text alone and not by a run of its reader. A number may have a plus sign and leading zeros, and a
hexadecimal digit may be of either case, so that many texts spell one value. -/
namespace PasswordHashing

namespace Text

/-- Splitting is the splitting of lists, so that their lemmas can be used. -/
theorem split_eq_splitOn (delimiter : Char) (cs : List Char) :
    split delimiter cs = cs.splitOn delimiter := by
  induction cs with
  | nil => rfl
  | cons c cs ih =>
      obtain ⟨field, fields, hSplit⟩ := exists_split_eq_cons delimiter cs
      rw [List.splitOn_eq_splitOnP, List.splitOnP_cons_eq_if_modifyHead,
        ← List.splitOn_eq_splitOnP, ← ih]
      by_cases hEq : c = delimiter
      · subst hEq
        simp
      · rw [split_cons_of_ne hEq hSplit, hSplit]
        simp [hEq]

/-- The fields are the only texts without a delimiter that give the text when they are joined. -/
theorem split_eq_iff {delimiter : Char} {cs : List Char} {fields : List (List Char)} :
    split delimiter cs = fields ↔
      fields ≠ [] ∧ (∀ field ∈ fields, delimiter ∉ field) ∧
        [delimiter].intercalate fields = cs := by
  constructor
  · rintro rfl
    refine ⟨?_, fun field hField => not_mem_of_mem_split hField, intercalate_split delimiter cs⟩
    obtain ⟨field, fields, hSplit⟩ := exists_split_eq_cons delimiter cs
    simp [hSplit]
  · rintro ⟨hNonempty, hFree, rfl⟩
    rw [split_eq_splitOn, List.splitOn_intercalate delimiter hFree hNonempty]

theorem mem_of_mem_intercalate {delimiter c : Char} {fields : List (List Char)}
    (hMem : c ∈ [delimiter].intercalate fields) : c = delimiter ∨ ∃ field ∈ fields, c ∈ field := by
  induction fields with
  | nil => cases hMem
  | cons field fields ih =>
      by_cases hNil : fields = []
      · subst hNil
        exact .inr ⟨field, List.mem_cons_self, by simpa using hMem⟩
      · rw [List.intercalate_cons_of_ne_nil hNil, List.append_assoc, List.mem_append,
          List.mem_append, List.mem_singleton] at hMem
        rcases hMem with hField | hDelimiter | hRest
        · exact .inr ⟨field, List.mem_cons_self, hField⟩
        · exact .inl hDelimiter
        · exact (ih hRest).imp_right fun ⟨f, hF, hMem⟩ => ⟨f, List.mem_cons_of_mem field hF, hMem⟩

theorem cut?_cons (separator c : Char) (cs : List Char) :
    cut? separator (c :: cs) =
      if c = separator then some ([], cs)
      else (cut? separator cs).map fun (before, after) => (c :: before, after) := by
  by_cases hEq : c = separator
  · simp [cut?, hEq]
  · simp only [cut?, hEq, ne_eq, not_false_eq_true, decide_true, List.dropWhile_cons_of_pos,
      List.takeWhile_cons_of_pos, if_false]
    split <;> rfl

/-- A cut is made at the first separator and nowhere else. -/
theorem cut?_eq_some_iff {separator : Char} {cs before after : List Char} :
    cut? separator cs = some (before, after) ↔
      separator ∉ before ∧ cs = before ++ separator :: after := by
  induction cs generalizing before with
  | nil => simp [cut?]
  | cons c cs ih =>
      rw [cut?_cons]
      by_cases hEq : c = separator
      · subst hEq
        cases before <;> simp_all
      · rw [if_neg hEq]
        cases before with
        | nil => simp [hEq]
        | cons b before =>
            simp only [Option.map_eq_some_iff, Prod.mk.injEq, Prod.exists, List.cons.injEq,
              List.mem_cons, not_or, List.cons_append]
            constructor
            · rintro ⟨_, _, hCut, ⟨rfl, rfl⟩, rfl⟩
              obtain ⟨hFree, rfl⟩ := ih.mp hCut
              exact ⟨⟨fun h => hEq h.symm, hFree⟩, rfl, rfl⟩
            · rintro ⟨⟨_, hFree⟩, rfl, rfl⟩
              exact ⟨before, after, ih.mpr ⟨hFree, rfl⟩, ⟨rfl, rfl⟩, rfl⟩

end Text

namespace Decimal

/-- Text that spells a number: at least one ASCII digit, with at most one plus sign before the
digits. Leading zeros do not count. -/
inductive Spells : List Char → Nat → Prop where
  | plain {digits : List Char} (hNonempty : digits ≠ [])
      (hDigits : ∀ c ∈ digits, c.isDigit = true) :
      Spells digits (Nat.ofDigitChars 10 digits 0)
  | signed {digits : List Char} (hNonempty : digits ≠ [])
      (hDigits : ∀ c ∈ digits, c.isDigit = true) :
      Spells ('+' :: digits) (Nat.ofDigitChars 10 digits 0)

/-- Digits after those of `n` cannot be read to the end. After those that keep the number within the
bound stands a character that is no digit, or a digit that takes the number beyond it. -/
inductive Stops (bound n : Nat) : List Char → Fault → Prop where
  | invalidDigit {digits rest : List Char} {c : Char} (hDigits : ∀ d ∈ digits, d.isDigit = true)
      (hLe : Nat.ofDigitChars 10 digits n ≤ bound) (hOther : c.isDigit = false) :
      Stops bound n (digits ++ c :: rest) .invalidDigit
  | tooLarge {digits rest : List Char} {c : Char} (hDigits : ∀ d ∈ digits, d.isDigit = true)
      (hLe : Nat.ofDigitChars 10 digits n ≤ bound) (hDigit : c.isDigit = true)
      (hGt : bound < Nat.ofDigitChars 10 (digits ++ [c]) n) :
      Stops bound n (digits ++ c :: rest) .tooLarge

/-- Text that spells no number within the bound, and why. -/
inductive Misspells (bound : Nat) : List Char → Fault → Prop where
  | empty : Misspells bound [] .empty
  | lonePlus : Misspells bound ['+'] .invalidDigit
  | plain {cs : List Char} {fault : Fault} (hPlus : '+' ∉ cs.head?)
      (hStops : Stops bound 0 cs fault) : Misspells bound cs fault
  | signed {cs : List Char} {fault : Fault} (hStops : Stops bound 0 cs fault) :
      Misspells bound ('+' :: cs) fault

theorem isDigit_iff {c : Char} : c.isDigit = true ↔ 48 ≤ c.toNat ∧ c.toNat ≤ 57 := by
  simp [Char.isDigit, UInt32.le_iff_toNat_le]

theorem digit?_eq_some_iff {c : Char} {d : Nat} :
    digit? c = some d ↔ c.isDigit = true ∧ c.toNat - '0'.toNat = d := by
  rw [isDigit_iff, digit?]
  by_cases hRange : 48 ≤ c.toNat ∧ c.toNat ≤ 57
  · simp [hRange]
  · simp [hRange]

theorem digit?_eq_none_iff {c : Char} : digit? c = none ↔ c.isDigit = false := by
  rw [← Bool.not_eq_true, isDigit_iff, digit?]
  by_cases hRange : 48 ≤ c.toNat ∧ c.toNat ≤ 57
  · simp [hRange]
  · simp [hRange]

/-- More digits never make a number smaller, so that a number beyond the bound stays beyond it. -/
theorem le_ofDigitChars (cs : List Char) (n : Nat) : n ≤ Nat.ofDigitChars 10 cs n := by
  rw [Nat.ofDigitChars_eq_ofDigitChars_zero]
  have hPos : 0 < 10 ^ cs.length := Nat.pow_pos (by omega)
  exact Nat.le_trans (Nat.le_mul_of_pos_left n hPos) (Nat.le_add_right _ _)

/-- The bound is checked after each digit. Digits only make a number larger, so that these checks
together ask no more than that the whole number is within the bound. -/
theorem readDigits_eq_ok_iff {bound n m : Nat} {cs : List Char} (hStart : n ≤ bound) :
    readDigits bound n cs = .ok m ↔
      (∀ c ∈ cs, c.isDigit = true) ∧ Nat.ofDigitChars 10 cs n = m ∧ m ≤ bound := by
  induction cs generalizing n with
  | nil =>
      simp only [readDigits, Except.ok.injEq, List.not_mem_nil, false_imp_iff, implies_true,
        Nat.ofDigitChars_nil, true_and]
      constructor
      · rintro rfl
        exact ⟨rfl, hStart⟩
      · exact And.left
  | cons c cs ih =>
      rw [readDigits, Nat.ofDigitChars_cons]
      cases hDigit : digit? c with
      | none =>
          simp [digit?_eq_none_iff.mp hDigit]
      | some d =>
          obtain ⟨hIs, rfl⟩ := digit?_eq_some_iff.mp hDigit
          dsimp only
          split
          · rename_i hLe
            rw [ih hLe]
            simp [hIs]
          · rename_i hGt
            simp only [reduceCtorEq, false_iff, not_and]
            rintro _ rfl hLe
            exact hGt (Nat.le_trans (le_ofDigitChars _ _) hLe)

theorem isDigit_ne {c : Char} (hDigit : c.isDigit = true) :
    c ≠ '+' ∧ c ≠ ',' ∧ c ≠ ':' := by
  refine ⟨?_, ?_, ?_⟩ <;> rintro rfl <;> exact absurd hDigit (by decide)

theorem mem_of_spells {cs : List Char} {n : Nat} (hSpells : Spells cs n) {c : Char}
    (hMem : c ∈ cs) : c = '+' ∨ c.isDigit = true := by
  cases hSpells with
  | plain _ hDigits => exact .inr (hDigits c hMem)
  | signed _ hDigits => exact (List.mem_cons.mp hMem).imp_right (hDigits c)

/-- The reader of numbers up to a bound accepts exactly the spellings of these numbers. -/
theorem read_eq_ok_iff {bound n : Nat} {cs : List Char} :
    read bound cs = .ok n ↔ Spells cs n ∧ n ≤ bound := by
  constructor
  · intro hRead
    unfold read at hRead
    split at hRead
    · cases hRead
    · cases hRead
    · rename_i cs hLone
      obtain ⟨hDigits, rfl, hLe⟩ := (readDigits_eq_ok_iff (Nat.zero_le _)).mp hRead
      exact ⟨.signed (by rintro rfl; exact hLone rfl) hDigits, hLe⟩
    · rename_i hNonempty _ _
      obtain ⟨hDigits, rfl, hLe⟩ := (readDigits_eq_ok_iff (Nat.zero_le _)).mp hRead
      exact ⟨.plain hNonempty hDigits, hLe⟩
  · rintro ⟨hSpells, hLe⟩
    cases hSpells with
    | plain hNonempty hDigits =>
        have hPlus : '+' ∉ cs.head? := fun hPlus =>
          (isDigit_ne (hDigits _ (List.mem_of_head? hPlus))).1 rfl
        rw [read_eq_readDigits hNonempty hPlus]
        exact (readDigits_eq_ok_iff (Nat.zero_le _)).mpr ⟨hDigits, rfl, hLe⟩
    | signed hNonempty hDigits =>
        rw [read_plus hNonempty]
        exact (readDigits_eq_ok_iff (Nat.zero_le _)).mpr ⟨hDigits, rfl, hLe⟩

theorem Stops.ne_nil {bound n : Nat} {cs : List Char} {fault : Fault}
    (hStops : Stops bound n cs fault) : cs ≠ [] := by
  cases hStops <;> simp

/-- Where the rest of some digits stops, all of them stop, and for the same reason. -/
theorem Stops.cons {bound n : Nat} {c : Char} {cs : List Char} {fault : Fault}
    (hDigit : c.isDigit = true) (hStops : Stops bound (10 * n + (c.toNat - '0'.toNat)) cs fault) :
    Stops bound n (c :: cs) fault := by
  cases hStops with
  | invalidDigit hDigits hLe hOther =>
      rw [← Nat.ofDigitChars_cons] at hLe
      rw [← List.cons_append]
      exact .invalidDigit (List.forall_mem_cons.mpr ⟨hDigit, hDigits⟩) hLe hOther
  | tooLarge hDigits hLe hLast hGt =>
      rw [← Nat.ofDigitChars_cons] at hLe hGt
      rw [← List.cons_append]
      exact .tooLarge (List.forall_mem_cons.mpr ⟨hDigit, hDigits⟩) hLe hLast hGt

/-- Digits are refused exactly where they stop, and for that reason. -/
theorem readDigits_eq_error_iff {bound n : Nat} {cs : List Char} {fault : Fault}
    (hStart : n ≤ bound) : readDigits bound n cs = .error fault ↔ Stops bound n cs fault := by
  constructor
  · intro hRead
    induction cs generalizing n with
    | nil => cases hRead
    | cons c cs ih =>
        rw [readDigits] at hRead
        cases hDigit : digit? c with
        | none =>
            rw [hDigit] at hRead
            cases hRead
            rw [← List.nil_append (c :: cs)]
            exact .invalidDigit (List.forall_mem_nil _) hStart (digit?_eq_none_iff.mp hDigit)
        | some d =>
            obtain ⟨hIs, rfl⟩ := digit?_eq_some_iff.mp hDigit
            rw [hDigit] at hRead
            dsimp only at hRead
            split at hRead
            · rename_i hLe
              exact .cons hIs (ih hLe hRead)
            · rename_i hGt
              cases hRead
              rw [← List.nil_append (c :: cs)]
              refine .tooLarge (List.forall_mem_nil _) hStart hIs ?_
              rw [List.nil_append, Nat.ofDigitChars_cons, Nat.ofDigitChars_nil]
              exact Nat.lt_of_not_le hGt
  · intro hStops
    cases hStops with
    | invalidDigit hDigits hLe hOther =>
        rw [readDigits_append ((readDigits_eq_ok_iff hStart).mpr ⟨hDigits, rfl, hLe⟩), readDigits,
          digit?_eq_none_iff.mpr hOther]
    | tooLarge hDigits hLe hDigit hGt =>
        rw [readDigits_append ((readDigits_eq_ok_iff hStart).mpr ⟨hDigits, rfl, hLe⟩), readDigits,
          digit?_eq_some_iff.mpr ⟨hDigit, rfl⟩]
        rw [Nat.ofDigitChars_append, Nat.ofDigitChars_cons, Nat.ofDigitChars_nil] at hGt
        exact if_neg (Nat.not_le.mpr hGt)

/-- The reader of numbers up to a bound gives the reason why a text spells none of them. -/
theorem read_eq_error_iff {bound : Nat} {cs : List Char} {fault : Fault} :
    read bound cs = .error fault ↔ Misspells bound cs fault := by
  constructor
  · intro hRead
    unfold read at hRead
    split at hRead
    · cases hRead
      exact .empty
    · cases hRead
      exact .lonePlus
    · exact .signed ((readDigits_eq_error_iff (Nat.zero_le _)).mp hRead)
    · rename_i hNonempty hLone hSigned
      refine .plain ?_ ((readDigits_eq_error_iff (Nat.zero_le _)).mp hRead)
      intro hPlus
      obtain ⟨rest, rfl⟩ := List.head?_eq_some_iff.mp hPlus
      exact hSigned rest rfl
  · intro hMisspells
    cases hMisspells with
    | empty => rfl
    | lonePlus => rfl
    | plain hPlus hStops =>
        rw [read_eq_readDigits hStops.ne_nil hPlus]
        exact (readDigits_eq_error_iff (Nat.zero_le _)).mpr hStops
    | signed hStops =>
        rw [read_plus hStops.ne_nil]
        exact (readDigits_eq_error_iff (Nat.zero_le _)).mpr hStops

theorem spells_render (n : Nat) : Spells (render n) n :=
  (read_eq_ok_iff.mp (read_render (Nat.le_refl n))).1

end Decimal

namespace Hex

inductive IsDigit : Char → Nat → Prop where
  | decimal {c : Char} (hLow : '0' ≤ c) (hHigh : c ≤ '9') : IsDigit c (c.toNat - '0'.toNat)
  | lower {c : Char} (hLow : 'a' ≤ c) (hHigh : c ≤ 'f') : IsDigit c (c.toNat - 'a'.toNat + 10)
  | upper {c : Char} (hLow : 'A' ≤ c) (hHigh : c ≤ 'F') : IsDigit c (c.toNat - 'A'.toNat + 10)

/-- Text that spells bytes: two digits for each byte, the higher one first. -/
inductive Spells : List Char → List UInt8 → Prop where
  | nil : Spells [] []
  | cons {high low : Char} {x y : Nat} {cs : List Char} {bytes : List UInt8}
      (hHigh : IsDigit high x) (hLow : IsDigit low y) (hRest : Spells cs bytes) :
      Spells (high :: low :: cs) (UInt8.ofNat (16 * x + y) :: bytes)

theorem char_le_iff_toNat_le {c d : Char} : c ≤ d ↔ c.toNat ≤ d.toNat := by
  simp [Char.le_def, UInt32.le_iff_toNat_le]

/-- The three ranges of digits by their code points. -/
theorem isDigit_iff {c : Char} {n : Nat} :
    IsDigit c n ↔
      (48 ≤ c.toNat ∧ c.toNat ≤ 57 ∧ c.toNat - 48 = n) ∨
        (97 ≤ c.toNat ∧ c.toNat ≤ 102 ∧ c.toNat - 87 = n) ∨
          (65 ≤ c.toNat ∧ c.toNat ≤ 70 ∧ c.toNat - 55 = n) := by
  have hA : 'A'.toNat = 65 ∧ 'a'.toNat = 97 := ⟨rfl, rfl⟩
  constructor
  · intro hDigit
    cases hDigit with
    | decimal hLow hHigh =>
        exact .inl ⟨char_le_iff_toNat_le.mp hLow, char_le_iff_toNat_le.mp hHigh, rfl⟩
    | lower hLow hHigh =>
        have hLow : 97 ≤ c.toNat := char_le_iff_toNat_le.mp hLow
        exact .inr (.inl ⟨hLow, char_le_iff_toNat_le.mp hHigh, by omega⟩)
    | upper hLow hHigh =>
        have hLow : 65 ≤ c.toNat := char_le_iff_toNat_le.mp hLow
        exact .inr (.inr ⟨hLow, char_le_iff_toNat_le.mp hHigh, by omega⟩)
  · rintro (⟨hLow, hHigh, rfl⟩ | ⟨hLow, hHigh, rfl⟩ | ⟨hLow, hHigh, rfl⟩)
    · exact .decimal (char_le_iff_toNat_le.mpr hLow) (char_le_iff_toNat_le.mpr hHigh)
    · rw [show c.toNat - 87 = c.toNat - 'a'.toNat + 10 by omega]
      exact .lower (char_le_iff_toNat_le.mpr hLow) (char_le_iff_toNat_le.mpr hHigh)
    · rw [show c.toNat - 55 = c.toNat - 'A'.toNat + 10 by omega]
      exact .upper (char_le_iff_toNat_le.mpr hLow) (char_le_iff_toNat_le.mpr hHigh)

/-- Digits of both cases are read, and no other characters. -/
theorem digit?_eq_some_iff {c : Char} {n : Nat} : digit? c = some n ↔ IsDigit c n := by
  rw [isDigit_iff]
  grind [digit?]

theorem utf8Size_of_isDigit {c : Char} {n : Nat} (hDigit : IsDigit c n) : c.utf8Size = 1 := by
  rw [isDigit_iff] at hDigit
  rw [Char.utf8Size_eq_one_iff, UInt32.le_iff_toNat_le, Char.toNat_val]
  change c.toNat ≤ 127
  omega

theorem digits_cons_eq_ok_iff {c : Char} {cs : List Char} {position : Nat} {values : List Nat} :
    digits position (c :: cs) = .ok values ↔
      ∃ d rest, digit? c = some d ∧ digits (position + 1) cs = .ok rest ∧ values = d :: rest := by
  rw [digits]
  cases digit? c with
  | none => simp
  | some d =>
      cases digits (position + 1) cs with
      | error fault => simp [Except.map]
      | ok rest => simp [Except.map, eq_comm]

/-- Once every character is a digit, the width that the parity check looks at is the length. -/
theorem width_eq_length_of_digits {cs : List Char} {position : Nat} {values : List Nat}
    (hDigits : digits position cs = .ok values) : width cs = cs.length := by
  induction cs generalizing position values with
  | nil => rfl
  | cons c cs ih =>
      obtain ⟨d, rest, hDigit, hRest, -⟩ := digits_cons_eq_ok_iff.mp hDigits
      rw [width, utf8Size_of_isDigit (digit?_eq_some_iff.mp hDigit), ih hRest, List.length_cons,
        Nat.add_comm]

/-- An even number of digits is read as pairs from the left. -/
theorem spells_of_digits {cs : List Char} {position : Nat} {values : List Nat}
    (hDigits : digits position cs = .ok values) (hEven : cs.length % 2 = 0) :
    Spells cs (pairs values) := by
  match cs with
  | [] =>
      cases hDigits
      exact .nil
  | [_] => simp at hEven
  | high :: low :: cs =>
      obtain ⟨x, rest, hHigh, hRest, rfl⟩ := digits_cons_eq_ok_iff.mp hDigits
      obtain ⟨y, values, hLow, hTail, rfl⟩ := digits_cons_eq_ok_iff.mp hRest
      simp only [List.length_cons] at hEven
      exact .cons (digit?_eq_some_iff.mp hHigh) (digit?_eq_some_iff.mp hLow)
        (spells_of_digits hTail (by omega))

theorem length_of_spells {cs : List Char} {bytes : List UInt8} (hSpells : Spells cs bytes) :
    cs.length = 2 * bytes.length := by
  induction hSpells with
  | nil => rfl
  | cons _ _ _ ih => simp only [List.length_cons, ih]; omega

/-- Of digits that spell bytes the values are read, and in pairs they make up the bytes. -/
theorem digits_of_spells {cs : List Char} {bytes : List UInt8} (hSpells : Spells cs bytes)
    (position : Nat) : ∃ values, digits position cs = .ok values ∧ pairs values = bytes := by
  induction hSpells generalizing position with
  | nil => exact ⟨[], rfl, rfl⟩
  | @cons high low x y cs bytes hHigh hLow _ ih =>
      obtain ⟨values, hDigits, rfl⟩ := ih (position + 1 + 1)
      have hTail := digits_cons_eq_ok_iff.mpr ⟨y, values, digit?_eq_some_iff.mpr hLow, hDigits, rfl⟩
      have hAll := digits_cons_eq_ok_iff.mpr ⟨x, _, digit?_eq_some_iff.mpr hHigh, hTail, rfl⟩
      exact ⟨_, hAll, rfl⟩

/-- The reader of bytes accepts exactly their spellings. -/
theorem decode_eq_ok_iff {cs : List Char} {bytes : List UInt8} :
    decode cs = .ok bytes ↔ Spells cs bytes := by
  constructor
  · intro hDecode
    unfold decode at hDecode
    split at hDecode
    · cases hDecode
    · rename_i hEven
      cases hDigits : digits 0 cs with
      | error fault =>
          rw [hDigits] at hDecode
          cases hDecode
      | ok values =>
          rw [hDigits] at hDecode
          cases hDecode
          rw [width_eq_length_of_digits hDigits] at hEven
          exact spells_of_digits hDigits (by omega)
  · intro hSpells
    obtain ⟨values, hDigits, rfl⟩ := digits_of_spells hSpells 0
    have hLength := length_of_spells hSpells
    rw [decode, width_eq_length_of_digits hDigits, hDigits, if_neg (by omega)]
    rfl

theorem spells_encode (bytes : List UInt8) : Spells (encode bytes) bytes :=
  decode_eq_ok_iff.mp (decode_encode bytes)

theorem colon_not_mem_of_spells {cs : List Char} {bytes : List UInt8}
    (hSpells : Spells cs bytes) : ':' ∉ cs := by
  have hColon (n : Nat) : ¬ IsDigit ':' n := by
    rw [isDigit_iff, show ':'.toNat = 58 from rfl]
    omega
  induction hSpells with
  | nil => simp
  | @cons high low x y cs bytes hHigh hLow _ ih =>
      simp only [List.mem_cons, not_or]
      refine ⟨?_, ?_, ih⟩
      · rintro rfl
        exact hColon x hHigh
      · rintro rfl
        exact hColon y hLow

end Hex

end PasswordHashing
