import Mathlib.Data.List.TakeWhile
import PasswordHashing.Json.Token
import PasswordHashing.Proofs.Spelling

/-! Numbers and strings of JSON as they may be written. The relations follow the grammar, with no
word on how a reader goes about it. A string is written in pieces, and the pieces stand for its
text, if they stand for any. -/
namespace PasswordHashing.Json

/-- Digits, at least one. -/
def Digits (cs : List Char) : Prop :=
  cs ≠ [] ∧ ∀ c ∈ cs, isDigit c = true

/-- The whole part of a number. No zero stands before other digits. -/
inductive Whole : List Char → Prop where
  | zero : Whole ['0']
  | digits {cs : List Char} (hDigits : Digits cs) (hFirst : cs.head? ≠ some '0') : Whole cs

/-- The fraction of a number, if it has one. -/
inductive Fraction : List Char → Prop where
  | none : Fraction []
  | point {digits : List Char} (hDigits : Digits digits) : Fraction ('.' :: digits)

/-- The exponent of a number, if it has one. -/
inductive Exponent : List Char → Prop where
  | none : Exponent []
  | power {e : Char} {sign digits : List Char} (hLetter : e = 'e' ∨ e = 'E')
      (hSign : sign = [] ∨ sign = ['+'] ∨ sign = ['-']) (hDigits : Digits digits) :
      Exponent (e :: (sign ++ digits))

inductive Number : List Char → Prop where
  | intro {sign whole fraction exponent : List Char} (hSign : sign = [] ∨ sign = ['-'])
      (hWhole : Whole whole) (hFraction : Fraction fraction) (hExponent : Exponent exponent) :
      Number (sign ++ (whole ++ (fraction ++ exponent)))

/-- A row of characters of one class ends where the text goes on with another one. -/
theorem takeWhile_eq_and_dropWhile_eq {p : Char → Bool} {cs rest : List Char}
    (hAll : ∀ c ∈ cs, p c = true) (hStop : ∀ c ∈ rest.head?, p c = false) :
    (cs ++ rest).takeWhile p = cs ∧ (cs ++ rest).dropWhile p = rest := by
  rw [List.takeWhile_append_of_pos hAll, List.dropWhile_append_of_pos hAll]
  cases rest with
  | nil => simp
  | cons c rest => simp [hStop c rfl]

theorem isDigit_ne {c : Char} (hDigit : isDigit c = true) :
    c ≠ '+' ∧ c ≠ '-' ∧ c ≠ '.' ∧ c ≠ 'e' ∧ c ≠ 'E' := by
  refine ⟨?_, ?_, ?_, ?_, ?_⟩ <;> rintro rfl <;> exact absurd hDigit (by decide)

theorem digits_iff {cs : List Char} : Digits cs ↔ cs ≠ [] ∧ cs.all isDigit = true := by
  rw [Digits, List.all_eq_true]

theorem digits_takeWhile {cs : List Char} (hNonempty : cs.takeWhile isDigit ≠ []) :
    Digits (cs.takeWhile isDigit) :=
  ⟨hNonempty, fun _ hMem => List.mem_takeWhile_imp hMem⟩

/-- The test for exponents accepts exactly the exponents. -/
theorem isExponent_iff {cs : List Char} : isExponent cs = true ↔ Exponent cs := by
  constructor
  · intro h
    unfold isExponent at h
    split at h
    · exact .none
    · rename_i e cs
      split at h <;>
        simp only [ne_eq, Bool.and_eq_true, Bool.or_eq_true, decide_eq_true_eq] at h <;>
        obtain ⟨⟨hLetter, hNonempty⟩, hAll⟩ := h
      · have hPower := Exponent.power hLetter (.inr (.inl rfl)) (digits_iff.mpr ⟨hNonempty, hAll⟩)
        exact hPower
      · have hPower := Exponent.power hLetter (.inr (.inr rfl)) (digits_iff.mpr ⟨hNonempty, hAll⟩)
        exact hPower
      · have hPower := Exponent.power hLetter (.inl rfl) (digits_iff.mpr ⟨hNonempty, hAll⟩)
        exact hPower
  · intro h
    cases h with
    | none => rfl
    | @power e sign digits hLetter hSign hDigits =>
        obtain ⟨hNonempty, hAll⟩ := digits_iff.mp hDigits
        rcases hSign with rfl | rfl | rfl
        · obtain ⟨d, ds, rfl⟩ := List.exists_cons_of_ne_nil hNonempty
          have hOther := isDigit_ne (hDigits.2 d List.mem_cons_self)
          simpa [isExponent, hOther, hLetter] using hDigits.2
        · simpa [isExponent, hAll] using ⟨hLetter, hNonempty⟩
        · simpa [isExponent, hAll] using ⟨hLetter, hNonempty⟩

/-- No exponent begins with a digit, so that the digits before it have an end. -/
theorem Exponent.not_isDigit_head {cs : List Char} (h : Exponent cs) :
    ∀ c ∈ cs.head?, isDigit c = false := by
  cases h with
  | none => simp
  | power hLetter _ _ => rcases hLetter with rfl | rfl <;> simp [isDigit]

/-- The test for fractions accepts a fraction and an exponent, either of which may be missing. -/
theorem isFraction_iff {cs : List Char} :
    isFraction cs = true ↔
      ∃ fraction exponent, Fraction fraction ∧ Exponent exponent ∧ cs = fraction ++ exponent := by
  constructor
  · intro h
    unfold isFraction at h
    split at h
    · rename_i cs
      simp only [ne_eq, Bool.and_eq_true, decide_not, Bool.not_eq_true', decide_eq_false_iff_not,
        isExponent_iff] at h
      refine ⟨_, _, .point (digits_takeWhile h.1), h.2, ?_⟩
      rw [List.cons_append, List.takeWhile_append_dropWhile]
    · exact ⟨[], cs, .none, isExponent_iff.mp h, rfl⟩
  · rintro ⟨fraction, exponent, hFraction, hExponent, rfl⟩
    cases hFraction with
    | none =>
        unfold isFraction
        split
        · rename_i cs hEq
          obtain hEq : exponent = '.' :: cs := hEq
          subst hEq
          cases hExponent with
          | power hLetter _ _ => simp at hLetter
        · exact isExponent_iff.mpr hExponent
    | @point digits hDigits =>
        obtain ⟨hTake, hDrop⟩ :=
          takeWhile_eq_and_dropWhile_eq hDigits.2 hExponent.not_isDigit_head
        rw [List.cons_append, isFraction, hTake, hDrop]
        simpa [isExponent_iff.mpr hExponent] using hDigits.1

/-- The test for unsigned numbers accepts a whole part, a fraction and an exponent. -/
theorem isUnsigned_iff {cs : List Char} :
    isUnsigned cs = true ↔ ∃ whole fraction exponent, Whole whole ∧ Fraction fraction ∧
      Exponent exponent ∧ cs = whole ++ (fraction ++ exponent) := by
  constructor
  · intro h
    simp only [isUnsigned, Bool.and_eq_true, Bool.or_eq_true, decide_eq_true_eq, isFraction_iff]
      at h
    obtain ⟨hWhole, fraction, exponent, hFraction, hExponent, hRest⟩ := h
    refine ⟨cs.takeWhile isDigit, fraction, exponent, ?_, hFraction, hExponent, ?_⟩
    · rcases hWhole with hZero | ⟨hNonempty, hFirst⟩
      · rw [hZero]
        exact .zero
      · exact .digits (digits_takeWhile hNonempty) hFirst
    · rw [← hRest, List.takeWhile_append_dropWhile]
  · rintro ⟨whole, fraction, exponent, hWhole, hFraction, hExponent, rfl⟩
    have hStop : ∀ c ∈ (fraction ++ exponent).head?, isDigit c = false := by
      cases hFraction with
      | none => exact hExponent.not_isDigit_head
      | point _ => simp [isDigit]
    have hAll : ∀ c ∈ whole, isDigit c = true := by
      cases hWhole with
      | zero => simp [isDigit]
      | digits hDigits _ => exact hDigits.2
    obtain ⟨hTake, hDrop⟩ := takeWhile_eq_and_dropWhile_eq hAll hStop
    simp only [isUnsigned, hTake, hDrop, Bool.and_eq_true, Bool.or_eq_true, decide_eq_true_eq]
    refine ⟨?_, isFraction_iff.mpr ⟨fraction, exponent, hFraction, hExponent, rfl⟩⟩
    cases hWhole with
    | zero => exact .inl rfl
    | digits hDigits hFirst => exact .inr ⟨hDigits.1, hFirst⟩

theorem Whole.head?_ne {cs : List Char} (h : Whole cs) : cs ≠ [] ∧ cs.head? ≠ some '-' := by
  cases h with
  | zero => simp
  | digits hDigits _ =>
      refine ⟨hDigits.1, fun hMinus => ?_⟩
      have := isDigit_ne (hDigits.2 '-' (List.mem_of_head? hMinus))
      simp at this

/-- The test for numbers accepts exactly the numbers. -/
theorem isNumber_iff {cs : List Char} : isNumber cs = true ↔ Number cs := by
  constructor
  · intro h
    unfold isNumber at h
    split at h
    · obtain ⟨whole, fraction, exponent, hWhole, hFraction, hExponent, rfl⟩ := isUnsigned_iff.mp h
      have hNumber := Number.intro (.inr rfl) hWhole hFraction hExponent
      exact hNumber
    · obtain ⟨whole, fraction, exponent, hWhole, hFraction, hExponent, rfl⟩ := isUnsigned_iff.mp h
      have hNumber := Number.intro (.inl rfl) hWhole hFraction hExponent
      exact hNumber
  · intro h
    obtain ⟨hSign, hWhole, hFraction, hExponent⟩ := h
    rename_i sign whole fraction exponent
    have hUnsigned := isUnsigned_iff.mpr ⟨_, _, _, hWhole, hFraction, hExponent, rfl⟩
    rcases hSign with rfl | rfl
    · obtain ⟨hNonempty, hMinus⟩ := hWhole.head?_ne
      obtain ⟨c, cs, rfl⟩ := List.exists_cons_of_ne_nil hNonempty
      unfold isNumber
      split <;> simp_all
    · exact hUnsigned

/-- The reader takes no character of a number for the end of it. -/
theorem Number.isNumberChar {cs : List Char} (h : Number cs) :
    cs ≠ [] ∧ ∀ c ∈ cs, isNumberChar c = true := by
  have hDigit {c : Char} (hIs : isDigit c = true) : Json.isNumberChar c = true := by
    simp [Json.isNumberChar, hIs]
  have hSigned {cs : List Char} (hSign : cs = [] ∨ cs = ['+'] ∨ cs = ['-']) :
      ∀ c ∈ cs, Json.isNumberChar c = true := by
    rcases hSign with rfl | rfl | rfl <;> simp [Json.isNumberChar]
  obtain ⟨hSign, hWhole, hFraction, hExponent⟩ := h
  refine ⟨by simp [hWhole.head?_ne.1], ?_⟩
  simp only [List.forall_mem_append]
  refine ⟨hSigned (hSign.imp_right .inr), ?_, ?_, ?_⟩
  · cases hWhole with
    | zero => simp [Json.isNumberChar, isDigit]
    | digits hDigits _ => exact fun c hMem => hDigit (hDigits.2 c hMem)
  · cases hFraction with
    | none => simp
    | point hDigits =>
        rw [List.forall_mem_cons]
        exact ⟨by decide, fun c hMem => hDigit (hDigits.2 c hMem)⟩
  · cases hExponent with
    | none => simp
    | power hLetter hSign hDigits =>
        rw [List.forall_mem_cons, List.forall_mem_append]
        refine ⟨?_, hSigned hSign, fun c hMem => hDigit (hDigits.2 c hMem)⟩
        rcases hLetter with rfl | rfl <;> decide

/-- A piece of a string between its quotes. -/
inductive Piece.Spells : List Char → Piece → Prop where
  | plain {c : Char} (hPrintable : 0x20 ≤ c.toNat) (hQuote : c ≠ '"') (hBackslash : c ≠ '\\') :
      Spells [c] (.char c)
  | escaped {letter c : Char} (hEscape : (letter, c) ∈ [('"', '"'), ('\\', '\\'), ('/', '/'),
        ('b', '\x08'), ('f', '\x0c'), ('n', '\n'), ('r', '\r'), ('t', '\t')]) :
      Spells ['\\', letter] (.char c)
  | numbered {a b c d : Char} {w x y z unit : Nat} (hA : Hex.IsDigit a w) (hB : Hex.IsDigit b x)
      (hC : Hex.IsDigit c y) (hD : Hex.IsDigit d z)
      (hUnit : unit = 0x1000 * w + 0x100 * x + 0x10 * y + z)
      (hWhole : ¬ (0xd800 ≤ unit ∧ unit < 0xe000)) :
      Spells ['\\', 'u', a, b, c, d] (.char (Char.ofNat unit))
  | half {a b c d : Char} {w x y z unit : Nat} (hA : Hex.IsDigit a w) (hB : Hex.IsDigit b x)
      (hC : Hex.IsDigit c y) (hD : Hex.IsDigit d z)
      (hUnit : unit = 0x1000 * w + 0x100 * x + 0x10 * y + z)
      (hHalf : 0xd800 ≤ unit ∧ unit < 0xe000) :
      Spells ['\\', 'u', a, b, c, d] (.half unit)

inductive SpellsPieces : List Char → List Piece → Prop where
  | nil : SpellsPieces [] []
  | cons {cs rest : List Char} {p : Piece} {ps : List Piece} (hPiece : p.Spells cs)
      (hRest : SpellsPieces rest ps) : SpellsPieces (cs ++ rest) (p :: ps)

/-- The characters that pieces stand for. Halves come in pairs, the high one first. -/
inductive Stands : List Piece → List Char → Prop where
  | nil : Stands [] []
  | char {c : Char} {ps : List Piece} {cs : List Char} (hRest : Stands ps cs) :
      Stands (.char c :: ps) (c :: cs)
  | pair {high low : Nat} {ps : List Piece} {cs : List Char}
      (hHigh : 0xd800 ≤ high ∧ high < 0xdc00) (hLow : 0xdc00 ≤ low ∧ low < 0xe000)
      (hRest : Stands ps cs) :
      Stands (.half high :: .half low :: ps)
        (Char.ofNat (0x10000 + (high - 0xd800) * 0x400 + (low - 0xdc00)) :: cs)

theorem hexDigit?_eq_some_iff {c : Char} {n : Nat} :
    hexDigit? c = some n ↔ Hex.IsDigit c n := by
  rw [Hex.isDigit_iff, hexDigit?]
  simp only [Hex.char_le_iff_toNat_le]
  grind

/-- The eight letters of escapes and what they stand for. -/
theorem escaped?_eq_some_iff {letter c : Char} :
    escaped? letter = some c ↔ (letter, c) ∈ [('"', '"'), ('\\', '\\'), ('/', '/'),
      ('b', '\x08'), ('f', '\x0c'), ('n', '\n'), ('r', '\r'), ('t', '\t')] := by
  simp only [List.mem_cons, Prod.mk.injEq, List.not_mem_nil, or_false]
  constructor
  · intro h
    unfold escaped? at h
    repeat' split at h
    all_goals simp_all [eq_comm]
  · rintro (⟨rfl, rfl⟩ | ⟨rfl, rfl⟩ | ⟨rfl, rfl⟩ | ⟨rfl, rfl⟩ | ⟨rfl, rfl⟩ | ⟨rfl, rfl⟩ |
      ⟨rfl, rfl⟩ | ⟨rfl, rfl⟩) <;> rfl

/-- Pieces have a text exactly if all halves come in pairs, and the text is then the one they stand
for. -/
theorem characters_eq_some_iff {ps : List Piece} {cs : List Char} :
    characters ps = some cs ↔ Stands ps cs := by
  constructor
  · intro h
    fun_induction characters ps generalizing cs with
    | case1 =>
        cases h
        exact .nil
    | case2 c ps ih =>
        obtain ⟨cs, hCs, rfl⟩ := Option.map_eq_some_iff.mp h
        exact .char (ih hCs)
    | case3 high low ps hPair ih =>
        obtain ⟨cs, hCs, rfl⟩ := Option.map_eq_some_iff.mp h
        exact .pair ⟨hPair.1, hPair.2.1⟩ hPair.2.2 (ih hCs)
    | case4 => cases h
    | case5 => cases h
  · intro h
    induction h with
    | nil => rfl
    | char _ ih => rw [characters, ih, Option.map_some]
    | pair hHigh hLow _ ih =>
        rw [characters, if_pos ⟨hHigh.1, hHigh.2, hLow⟩, ih, Option.map_some]

/-- Four digits after a backslash and a u give the piece of that number. -/
theorem numbered?_eq_some_iff {a b c d : Char} {p : Piece} :
    numbered? a b c d = some p ↔ p.Spells ['\\', 'u', a, b, c, d] := by
  constructor
  · intro h
    unfold numbered? at h
    split at h
    · rename_i w x y z hA hB hC hD
      rw [hexDigit?_eq_some_iff] at hA hB hC hD
      cases h
      split
      · rename_i hHalf
        exact .half hA hB hC hD rfl hHalf
      · rename_i hWhole
        exact .numbered hA hB hC hD rfl hWhole
    · cases h
  · intro h
    cases h with
    | numbered hA hB hC hD hUnit hWhole =>
        rw [← hexDigit?_eq_some_iff] at hA hB hC hD
        subst hUnit
        simp only [numbered?, hA, hB, hC, hD, if_neg hWhole]
    | half hA hB hC hD hUnit hHalf =>
        rw [← hexDigit?_eq_some_iff] at hA hB hC hD
        subst hUnit
        simp only [numbered?, hA, hB, hC, hD, if_pos hHalf]

/-- One piece is read at a time. -/
theorem pieces_of_piece {before : List Piece} {cs rest : List Char} {p : Piece}
    (hPiece : p.Spells cs) : pieces before (cs ++ rest) = pieces (p :: before) rest := by
  have hNumbered {a b c d : Char} (hSpells : p.Spells ['\\', 'u', a, b, c, d]) :
      pieces before (['\\', 'u', a, b, c, d] ++ rest) = pieces (p :: before) rest := by
    simp only [List.cons_append, List.nil_append, pieces, numbered?_eq_some_iff.mpr hSpells]
  cases hPiece with
  | plain hPrintable hQuote hBackslash =>
      rw [List.singleton_append, pieces.eq_5 _ _ _ hQuote (fun _ _ _ _ _ h _ => hBackslash h)
        (fun _ _ h _ => hBackslash h), if_neg (Nat.not_lt.mpr hPrintable)]
  | @escaped letter c hEscape =>
      have hLetter : letter ≠ 'u' := by
        rintro rfl
        simp at hEscape
      rw [List.cons_append, List.singleton_append,
        pieces.eq_4 _ _ _ (fun _ _ _ _ _ h _ => hLetter h), escaped?_eq_some_iff.mpr hEscape]
  | numbered hA hB hC hD hUnit hWhole => exact hNumbered (.numbered hA hB hC hD hUnit hWhole)
  | half hA hB hC hD hUnit hHalf => exact hNumbered (.half hA hB hC hD hUnit hHalf)

/-- Pieces are read up to the first quote that is not escaped, after any pieces before them. -/
theorem pieces_of_spells {before ps : List Piece} {cs rest : List Char}
    (hSpells : SpellsPieces cs ps) :
    pieces before (cs ++ '"' :: rest) = some (before.reverse ++ ps, rest) := by
  induction hSpells generalizing before with
  | nil => simp [pieces]
  | cons hPiece _ ih =>
      rw [List.append_assoc, pieces_of_piece hPiece, ih, List.reverse_cons, List.append_assoc,
        List.singleton_append]

/-- Whatever is read as a string has a closing quote after pieces of the grammar. Each piece stands
before those that the rest of the reading finds. -/
theorem spells_of_pieces {before result : List Piece} {cs rest : List Char}
    (hRead : pieces before cs = some (result, rest)) :
    ∃ inside ps, SpellsPieces inside ps ∧ cs = inside ++ '"' :: rest ∧
      result = before.reverse ++ ps := by
  have hMore {inside : List Char} {p : Piece} {before result : List Piece}
      {cs rest : List Char} (hPiece : p.Spells inside)
      (hRest : ∃ inside ps, SpellsPieces inside ps ∧ cs = inside ++ '"' :: rest ∧
        result = (p :: before).reverse ++ ps) :
      ∃ more ps, SpellsPieces more ps ∧ inside ++ cs = more ++ '"' :: rest ∧
        result = before.reverse ++ ps := by
    obtain ⟨more, ps, hSpells, rfl, rfl⟩ := hRest
    exact ⟨inside ++ more, p :: ps, .cons hPiece hSpells, by simp, by simp⟩
  fun_induction pieces before cs with
  | case1 => cases hRead
  | case2 =>
      cases hRead
      exact ⟨[], [], .nil, rfl, by simp⟩
  | case3 before a b c d cs piece hPiece ih =>
      exact hMore (numbered?_eq_some_iff.mp hPiece) (ih hRead)
  | case4 => cases hRead
  | case5 before letter cs _ c hEscape ih =>
      exact hMore (.escaped (escaped?_eq_some_iff.mp hEscape)) (ih hRead)
  | case6 => cases hRead
  | case7 => cases hRead
  | case8 before c cs hQuote _ hBackslash hPrintable ih =>
      by_cases hLast : c = '\\'
      · cases cs with
        | nil => cases hRead
        | cons e cs => exact absurd rfl (hBackslash e cs hLast)
      · exact hMore (.plain (Nat.not_lt.mp hPrintable) hQuote hLast) (ih hRead)

end PasswordHashing.Json
