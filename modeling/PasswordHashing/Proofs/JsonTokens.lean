import Mathlib.Data.List.Chain
import PasswordHashing.Proofs.JsonLiterals

/-! The text of JSON tokens. A row of tokens is spelled with any blanks between them, and the reader
finds exactly the tokens that are spelled, as long as no two of them could be taken for one. -/
namespace PasswordHashing.Json

def Spaces (cs : List Char) : Prop :=
  ∀ c ∈ cs, c = ' ' ∨ c = '\n' ∨ c = '\t' ∨ c = '\r'

/-- The text of a token. A string without a text is one with half of a pair that misses the
other half. -/
inductive Token.Spells : List Char → Token → Prop where
  | openObject : Spells ['\x7b'] .openObject
  | closeObject : Spells ['\x7d'] .closeObject
  | openArray : Spells ['['] .openArray
  | closeArray : Spells [']'] .closeArray
  | colon : Spells [':'] .colon
  | comma : Spells [','] .comma
  | null : Spells ['n', 'u', 'l', 'l'] .null
  | true : Spells ['t', 'r', 'u', 'e'] (.bool true)
  | false : Spells ['f', 'a', 'l', 's', 'e'] (.bool false)
  | number {written : List Char} (hNumber : Number written) : Spells written (.number written)
  | string {cs text : List Char} {ps : List Piece} (hPieces : SpellsPieces cs ps)
      (hText : Stands ps text) : Spells ('"' :: (cs ++ ['"'])) (.string (some (String.ofList text)))
  | noText {cs : List Char} {ps : List Piece} (hPieces : SpellsPieces cs ps)
      (hNoText : ∀ text, ¬ Stands ps text) : Spells ('"' :: (cs ++ ['"'])) (.string none)

/-- Tokens in a row, with blanks before, between and after them. -/
inductive Spells : List Char → List Token → Prop where
  | nil {blanks : List Char} (hBlanks : Spaces blanks) : Spells blanks []
  | cons {blanks cs rest : List Char} {t : Token} {ts : List Token} (hBlanks : Spaces blanks)
      (hToken : t.Spells cs) (hRest : Spells rest ts) : Spells (blanks ++ (cs ++ rest)) (t :: ts)

/-- Whether a token is a mark of punctuation, which can be told from its neighbours without a blank.
-/
def Token.isMark : Token → Bool
  | .openObject | .closeObject | .openArray | .closeArray | .colon | .comma => true
  | _ => false

/-- Tokens of which no two neighbours could be taken for one. -/
def Separated (ts : List Token) : Prop :=
  ts.IsChain fun t u => t.isMark = true ∨ u.isMark = true

/-- A text that goes on neither a number nor a word. -/
def Stop (cs : List Char) : Prop :=
  ∀ c ∈ cs.head?, isNumberChar c = false ∧ c.isAlpha = false

theorem isSpace_iff {c : Char} :
    isSpace c = true ↔ c = ' ' ∨ c = '\n' ∨ c = '\t' ∨ c = '\r' := by
  simp [isSpace, or_assoc]

theorem spells_of_mark? {c : Char} {t : Token} (hMark : mark? c = some t) : t.Spells [c] := by
  unfold mark? at hMark
  repeat' split at hMark
  all_goals cases hMark
  all_goals subst c
  · exact .openObject
  · exact .closeObject
  · exact .openArray
  · exact .closeArray
  · exact .colon
  · exact .comma

/-- A mark has one spelling, of one character. -/
theorem exists_mark_of_spells {cs : List Char} {t : Token} (hToken : t.Spells cs)
    (hMark : t.isMark = true) : ∃ c, cs = [c] ∧ mark? c = some t := by
  cases hToken <;> first | exact ⟨_, rfl, rfl⟩ | cases hMark

theorem word?_eq_some_iff {cs : List Char} {t : Token} :
    word? cs = some t ↔
      (cs = ['n', 'u', 'l', 'l'] ∧ t = .null) ∨ (cs = ['t', 'r', 'u', 'e'] ∧ t = .bool true) ∨
        (cs = ['f', 'a', 'l', 's', 'e'] ∧ t = .bool false) := by
  rw [word?]
  grind

theorem tokens_space {before : List Token} {c : Char} (cs : List Char) (hSpace : isSpace c = true) :
    tokens before (c :: cs) = tokens before cs := by
  rw [tokens, if_pos hSpace]

/-- Blanks between tokens are passed over. -/
theorem tokens_spaces {before : List Token} {blanks : List Char} (cs : List Char)
    (hBlanks : Spaces blanks) : tokens before (blanks ++ cs) = tokens before cs := by
  induction blanks with
  | nil => rfl
  | cons c blanks ih =>
      rw [Spaces, List.forall_mem_cons] at hBlanks
      rw [List.cons_append, tokens_space _ (isSpace_iff.mpr hBlanks.1), ih hBlanks.2]

/-- A mark is neither blank nor a quote, and begins neither a number nor a word. -/
theorem ordinary_of_mark? {c : Char} {t : Token} (hMark : mark? c = some t) :
    isSpace c = false ∧ c ≠ '"' ∧ isNumberChar c = false ∧ c.isAlpha = false := by
  unfold mark? at hMark
  repeat' split at hMark
  all_goals first | cases hMark; done | subst c; decide

theorem tokens_mark {before : List Token} {c : Char} {t : Token} (cs : List Char)
    (hMark : mark? c = some t) : tokens before (c :: cs) = tokens (t :: before) cs := by
  rw [tokens]
  simp only [ordinary_of_mark? hMark, hMark, Bool.false_eq_true, if_false]

/-- A string is one token. It has a text only if its pieces have one. -/
theorem tokens_string {before : List Token} {cs rest : List Char} {ps : List Piece}
    (hPieces : SpellsPieces cs ps) :
    tokens before ('"' :: (cs ++ '"' :: rest)) =
      tokens (.string ((characters ps).map String.ofList) :: before) rest := by
  have hQuote : isSpace '"' = false := by decide
  rw [tokens, hQuote]
  simp only [Bool.false_eq_true, if_false, if_true]
  split
  · rename_i hNone
    rw [pieces_of_spells hPieces] at hNone
    cases hNone
  · rename_i hSome
    rw [pieces_of_spells hPieces] at hSome
    cases hSome
    rfl

theorem not_isSpace_of_isNumberChar {c : Char} (hNumber : isNumberChar c = true) :
    isSpace c = false ∧ c ≠ '"' := by
  constructor
  · rw [Bool.eq_false_iff]
    intro hSpace
    rcases isSpace_iff.mp hSpace with rfl | rfl | rfl | rfl <;> exact absurd hNumber (by decide)
  · rintro rfl
    exact absurd hNumber (by decide)

/-- A number is read to its end, if what follows does not go on with it. -/
theorem tokens_number {before : List Token} {written rest : List Char} (hNumber : Number written)
    (hStop : Stop rest) :
    tokens before (written ++ rest) = tokens (.number written :: before) rest := by
  obtain ⟨hNonempty, hAll⟩ := hNumber.isNumberChar
  obtain ⟨c, cs, rfl⟩ := List.exists_cons_of_ne_nil hNonempty
  rw [List.forall_mem_cons] at hAll
  obtain ⟨hSpace, hQuote⟩ := not_isSpace_of_isNumberChar hAll.1
  obtain ⟨hTake, hDrop⟩ :=
    takeWhile_eq_and_dropWhile_eq hAll.2 fun d hMem => (hStop d hMem).1
  rw [List.cons_append, tokens]
  simp only [hSpace, Bool.false_eq_true, if_false, if_neg hQuote, hAll.1, if_true, hTake, hDrop,
    isNumber_iff.mpr hNumber]

/-- A word is read to its end, if what follows does not go on with it. -/
theorem tokens_word {before : List Token} {cs rest : List Char} {t : Token}
    (hWord : word? cs = some t) (hStop : Stop rest) :
    tokens before (cs ++ rest) = tokens (t :: before) rest := by
  have hLetters : ∃ d ds, cs = d :: ds ∧ isSpace d = false ∧ d ≠ '"' ∧ isNumberChar d = false ∧
      d.isAlpha = true ∧ ∀ c ∈ ds, c.isAlpha = true := by
    rcases word?_eq_some_iff.mp hWord with ⟨rfl, -⟩ | ⟨rfl, -⟩ | ⟨rfl, -⟩
    · exact ⟨'n', ['u', 'l', 'l'], rfl, by simp [isSpace, isNumberChar, isDigit]⟩
    · exact ⟨'t', ['r', 'u', 'e'], rfl, by simp [isSpace, isNumberChar, isDigit]⟩
    · exact ⟨'f', ['a', 'l', 's', 'e'], rfl, by simp [isSpace, isNumberChar, isDigit]⟩
  obtain ⟨d, ds, rfl, hSpace, hQuote, hNumber, hAlpha, hAll⟩ := hLetters
  obtain ⟨hTake, hDrop⟩ := takeWhile_eq_and_dropWhile_eq hAll fun c hMem => (hStop c hMem).2
  rw [List.cons_append, tokens]
  simp only [hSpace, Bool.false_eq_true, if_false, if_neg hQuote, hNumber, hAlpha, if_true, hTake,
    hDrop, hWord]

/-- One token is read at a time. A mark ends by itself; a number or a word must be seen to end. -/
theorem tokens_token {before : List Token} {cs rest : List Char} {t : Token} (hToken : t.Spells cs)
    (hStop : t.isMark = true ∨ Stop rest) :
    tokens before (cs ++ rest) = tokens (t :: before) rest := by
  by_cases hMark : t.isMark = true
  · obtain ⟨c, rfl, hMark⟩ := exists_mark_of_spells hToken hMark
    exact tokens_mark rest hMark
  have hEnd := hStop.resolve_left hMark
  cases hToken with
  | openObject | closeObject | openArray | closeArray | colon | comma => exact absurd rfl hMark
  | null | true | false => exact tokens_word (by decide) hEnd
  | number hNumber => exact tokens_number hNumber hEnd
  | string hPieces hText =>
      rw [List.cons_append, List.append_assoc, List.singleton_append, tokens_string hPieces,
        characters_eq_some_iff.mpr hText, Option.map_some]
  | @noText _ ps hPieces hNoText =>
      have hNone : characters ps = none := by
        rw [Option.eq_none_iff_forall_ne_some]
        exact fun text hSome => hNoText text (characters_eq_some_iff.mp hSome)
      rw [List.cons_append, List.append_assoc, List.singleton_append, tokens_string hPieces, hNone,
        Option.map_none]

theorem stop_of_isSpace {c : Char} (cs : List Char) (hSpace : isSpace c = true) :
    Stop (c :: cs) := by
  rcases isSpace_iff.mp hSpace with rfl | rfl | rfl | rfl <;> simp [Stop] <;> decide

/-- Before a mark, and at the end, no number and no word goes on. -/
theorem stop_of_spells {cs : List Char} {ts : List Token} (hSpells : Spells cs ts)
    (hMark : ∀ t ∈ ts.head?, t.isMark = true) : Stop cs := by
  have hBlanks {blanks : List Char} (hSpaces : Spaces blanks) {rest : List Char}
      (hRest : Stop rest) : Stop (blanks ++ rest) := by
    cases blanks with
    | nil => exact hRest
    | cons c blanks => exact stop_of_isSpace _ (isSpace_iff.mpr (hSpaces c List.mem_cons_self))
  cases hSpells with
  | nil hSpaces =>
      have hEnd : Stop [] := nofun
      rw [← List.append_nil cs]
      exact hBlanks hSpaces hEnd
  | cons hSpaces hToken _ =>
      obtain ⟨c, rfl, hIs⟩ := exists_mark_of_spells hToken (hMark _ rfl)
      apply hBlanks hSpaces
      intro d hMem
      obtain rfl : c = d := Option.some.inj hMem
      exact (ordinary_of_mark? hIs).2.2

/-- The tokens that a text spells are the ones that are read from it. -/
theorem tokens_of_spells {before ts : List Token} {cs : List Char} (hSpells : Spells cs ts)
    (hSeparated : Separated ts) : tokens before cs = some (before.reverse ++ ts) := by
  induction hSpells generalizing before with
  | @nil blanks hBlanks =>
      rw [← List.append_nil blanks, tokens_spaces [] hBlanks, tokens, List.append_nil]
  | @cons blanks cs rest t ts hBlanks hToken hRest ih =>
      rw [Separated, List.isChain_cons] at hSeparated
      have hStop : t.isMark = true ∨ Stop rest := by
        by_cases hMark : t.isMark = true
        · exact .inl hMark
        · exact .inr (stop_of_spells hRest fun u hMem => (hSeparated.1 u hMem).resolve_left hMark)
      rw [tokens_spaces _ hBlanks, tokens_token hToken hStop, ih hSeparated.2, List.reverse_cons,
        List.append_assoc, List.singleton_append]

theorem Spells.token {cs rest : List Char} {t : Token} {ts : List Token} (hToken : t.Spells cs)
    (hRest : Spells rest ts) : Spells (cs ++ rest) (t :: ts) := by
  have hNoBlank : Spaces [] := nofun
  exact .cons hNoBlank hToken hRest

theorem Spells.space {c : Char} {cs : List Char} {ts : List Token} (hSpace : isSpace c = true)
    (hSpells : Spells cs ts) : Spells (c :: cs) ts := by
  cases hSpells with
  | nil hBlanks => exact .nil (List.forall_mem_cons.mpr ⟨isSpace_iff.mp hSpace, hBlanks⟩)
  | cons hBlanks hToken hRest =>
      exact .cons (List.forall_mem_cons.mpr ⟨isSpace_iff.mp hSpace, hBlanks⟩) hToken hRest

/-- Whatever is read as tokens is spelled by the text. Each token stands before those that the rest
of the reading finds. -/
theorem spells_of_tokens {before result : List Token} {cs : List Char}
    (hRead : tokens before cs = some result) :
    ∃ ts, Spells cs ts ∧ result = before.reverse ++ ts := by
  have hMore {cs rest : List Char} {t : Token} {before result : List Token} (hToken : t.Spells cs)
      (hRest : ∃ ts, Spells rest ts ∧ result = (t :: before).reverse ++ ts) :
      ∃ ts, Spells (cs ++ rest) ts ∧ result = before.reverse ++ ts := by
    obtain ⟨ts, hSpells, rfl⟩ := hRest
    exact ⟨t :: ts, .token hToken hSpells, by simp⟩
  fun_induction tokens before cs with
  | case1 =>
      cases hRead
      exact ⟨[], .nil nofun, by simp⟩
  | case2 before c cs hSpace ih =>
      obtain ⟨ts, hSpells, rfl⟩ := ih hRead
      exact ⟨ts, hSpells.space hSpace, rfl⟩
  | case3 => cases hRead
  | case4 before cs found rest hPieces _ _ ih =>
      obtain ⟨inside, _, hInside, rfl, rfl⟩ := spells_of_pieces hPieces
      have hString : (Token.string ((characters found).map String.ofList)).Spells
          ('"' :: (inside ++ ['"'])) := by
        cases hText : characters found with
        | none =>
            refine .noText hInside fun text hStands => ?_
            rw [characters_eq_some_iff.mpr hStands] at hText
            cases hText
        | some text => exact .string hInside (characters_eq_some_iff.mp hText)
      have hFound := hMore hString (ih hRead)
      simpa using hFound
  | case5 before c cs _ _ _ written _ hNumber ih =>
      have hFound := hMore (.number (isNumber_iff.mp hNumber)) (ih hRead)
      simpa [written] using hFound
  | case6 => cases hRead
  | case7 => cases hRead
  | case8 before c cs _ _ _ _ _ t hWord ih =>
      have hToken : t.Spells (c :: cs.takeWhile Char.isAlpha) := by
        rcases word?_eq_some_iff.mp hWord with ⟨hText, rfl⟩ | ⟨hText, rfl⟩ | ⟨hText, rfl⟩
        · rw [hText]
          exact .null
        · rw [hText]
          exact .true
        · rw [hText]
          exact .false
      have hFound := hMore hToken (ih hRead)
      simpa using hFound
  | case9 => cases hRead
  | case10 before c cs _ _ _ _ t hMark ih =>
      have hFound := hMore (spells_of_mark? hMark) (ih hRead)
      exact hFound

end PasswordHashing.Json
