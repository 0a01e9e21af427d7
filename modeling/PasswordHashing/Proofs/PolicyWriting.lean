import PasswordHashing.Proofs.PlainSpelling
import PasswordHashing.Proofs.PolicyReading

/-! Policies written as JSON. The text spells the tokens of one object that gives every setting what
it is in the policy, so that it is read back as this policy, valid or not. -/
namespace PasswordHashing

namespace Json

theorem isDigit_of_decimal {c : Char} (hDigit : c.isDigit = true) : isDigit c = true := by
  simpa [isDigit, Hex.char_le_iff_toNat_le] using Decimal.isDigit_iff.mp hDigit

/-- The digits of a natural number are a number as JSON writes them, since none has a leading
zero. -/
theorem number_render (n : Nat) : Number (Decimal.render n) := by
  obtain ⟨hNonempty, hDigits, hZero⟩ := Decimal.plain_render n
  have hWhole : Whole (Decimal.render n) := by
    by_cases hFirst : (Decimal.render n).head? = some '0'
    · obtain ⟨ds, hRender⟩ := List.head?_eq_some_iff.mp hFirst
      rw [hRender, hZero ds hRender]
      exact .zero
    · exact .digits ⟨hNonempty, fun c hMem => isDigit_of_decimal (hDigits c hMem)⟩ hFirst
  have hNumber := Number.intro (.inl rfl) hWhole .none .none
  simpa using hNumber

/-- Text that may stand in quotes as it is. -/
def Unescaped (text : List Char) : Prop :=
  ∀ c ∈ text, 0x20 ≤ c.toNat ∧ c ≠ '"' ∧ c ≠ '\\'

/-- Text that needs no escape spells itself. -/
theorem spellsPieces_of_unescaped {text : List Char} (hText : Unescaped text) :
    SpellsPieces text (text.map .char) := by
  induction text with
  | nil => exact .nil
  | cons c text ih =>
      rw [Unescaped, List.forall_mem_cons] at hText
      obtain ⟨⟨hPrintable, hQuote, hBackslash⟩, hRest⟩ := hText
      exact .cons (.plain hPrintable hQuote hBackslash) (ih hRest)

theorem stands_map_char (text : List Char) : Stands (text.map .char) text := by
  induction text with
  | nil => exact .nil
  | cons c text ih => exact .char ih

/-- A text that needs no escape is the text of its literal. -/
theorem spells_literal {text : String} (hText : Unescaped text.toList) :
    (Token.string (some text)).Spells (Policy.literal text) := by
  have hPieces := spellsPieces_of_unescaped hText
  have hString := Token.Spells.string hPieces (stands_map_char text.toList)
  rwa [String.ofList_toList] at hString

end Json

namespace Policy

def value (p : Policy) : Setting → Json.Value
  | .workFactor => .number (Decimal.render p.workFactor.toNat)
  | .blockSize => .number (Decimal.render p.blockSize.toNat)
  | .parallelism => .number (Decimal.render p.parallelism.toNat)
  | .maxMemory => .number (Decimal.render p.maxMemory.toNat)
  | .saltLength => .number (Decimal.render p.saltLength.toNat)
  | .keyLength => .number (Decimal.render p.keyLength.toNat)
  | .layout => .string (some p.layout.name)

theorem unescaped_name (s : Setting) : Json.Unescaped s.name.toList := by
  cases s <;> simp [Json.Unescaped, Setting.name]

theorem unescaped_layout_name (layout : Layout) : Json.Unescaped layout.name.toList := by
  cases layout <;> simp [Json.Unescaped, Layout.name]

/-- The digits of a number are read as that number. -/
theorem natural_render (n : Nat) : Natural (.number (Decimal.render n)) n := by
  have hRead : natural? n (.number (Decimal.render n)) = some n := by
    rw [natural?, Decimal.readDigits_render (Nat.le_refl n)]
  exact (natural?_eq_some_iff.mp hRead).1

/-- The value that is written for a setting is the one the policy has. -/
theorem holds_value (p : Policy) (s : Setting) : s.Holds p (p.value s) := by
  cases s with
  | layout => exact .name
  | _ => exact natural_render _

/-- What is written for a setting spells its value, whatever is written after it. -/
theorem spells_written (p : Policy) (s : Setting) {rest : List Char} {ts : List Json.Token}
    (hRest : Json.Spells rest ts) :
    Json.Spells (p.written s ++ rest) ((p.value s).tokens ++ ts) := by
  cases s with
  | layout => exact .token (Json.spells_literal (unescaped_layout_name p.layout)) hRest
  | _ => exact .token (.number (Json.number_render _)) hRest

/-- Members with commas between them, up to the end of the object. -/
theorem spells_members (p : Policy) (s : Setting) (settings : List Setting) {rest : List Char}
    {ts : List Json.Token} (hRest : Json.Spells rest ts) :
    Json.Spells
      ([','].intercalate ((s :: settings).map fun s =>
        literal s.name ++ [':'] ++ p.written s) ++ '\x7d' :: rest)
      (.string (some s.name) :: .colon :: ((p.value s).tokens ++
        (Json.moreMembers (settings.map fun s => (some s.name, p.value s)) ++ ts))) := by
  induction settings generalizing s with
  | nil =>
      have hValue := p.spells_written s (Json.Spells.token .closeObject hRest)
      have hMember := Json.Spells.token (Json.spells_literal (unescaped_name s))
        (Json.Spells.token .colon hValue)
      simpa [Json.moreMembers] using hMember
  | cons next settings ih =>
      have hValue := p.spells_written s (Json.Spells.token .comma (ih next))
      have hMember := Json.Spells.token (Json.spells_literal (unescaped_name s))
        (Json.Spells.token .colon hValue)
      rw [List.map_cons, List.intercalate_cons_of_ne_nil (by simp)]
      simpa [Json.moreMembers] using hMember

/-- The text of a policy denotes the object of all its settings, also between blanks. -/
theorem denotes_toJson (p : Policy) {before after : List Char} (hBefore : Json.Spaces before)
    (hAfter : Json.Spaces after) :
    Json.Denotes (before ++ p.toJson.toList ++ after)
      (.object (Setting.all.map fun s => (some s.name, p.value s))) := by
  have hMembers := p.spells_members .workFactor Setting.all.tail (.nil hAfter)
  have hObject := Json.Spells.cons hBefore .openObject hMembers
  simpa [Json.Denotes, toJson, Json.Value.tokens, Setting.all] using hObject

/-- An object of all settings is read as the policy that has them. -/
theorem ofValue?_all (p : Policy) :
    ofValue? (.object (Setting.all.map fun s => (some s.name, p.value s))) = some p := by
  have hItems : (Setting.all.map fun s => (some s.name, p.value s)) =
      (Setting.all.zip (Setting.all.map p.value)).map fun item => (some item.1.name, item.2) := rfl
  have hGives : p.Gives ((Setting.all.zip (Setting.all.map p.value)).map fun item =>
      (some item.1.name, item.2)) := by
    refine (gives_zip (by decide)).mpr fun item hMem => ?_
    rw [← List.map_prod_left_eq_zip] at hMem
    obtain ⟨s, -, rfl⟩ := List.mem_map.mp hMem
    exact p.holds_value s
  rw [hItems, ofValue?_of_gives hGives, given_zip]
  rfl

/-- A policy is read back from its text, with blanks of any kind around it. It need not be one that
is accepted. -/
theorem policy_is_read_back (p : Policy) (before after : String)
    (hBefore : ∀ c ∈ before.toList, c = ' ' ∨ c = '\n' ∨ c = '\t' ∨ c = '\r')
    (hAfter : ∀ c ∈ after.toList, c = ' ' ∨ c = '\n' ∨ c = '\t' ∨ c = '\r') :
    ofJson? (before ++ p.toJson ++ after) = some p := by
  have hDenotes : Json.Denotes (before ++ p.toJson ++ after).toList
      (.object (Setting.all.map fun s => (some s.name, p.value s))) := by
    rw [String.toList_append, String.toList_append]
    exact p.denotes_toJson hBefore hAfter
  rw [ofJson?_of_denotes hDenotes, ofValue?_all]

/-- A policy with the largest and smallest numbers, which no hasher would accept, with blanks around
it. -/
theorem largest_numbers_are_read_back :
    ofJson? (" \t" ++
      toJson ⟨18446744073709551615, 4294967295, 0, 18446744073709551615, 0, 9, .compact⟩ ++
      "\r\n") =
      some ⟨18446744073709551615, 4294967295, 0, 18446744073709551615, 0, 9, .compact⟩ :=
  policy_is_read_back _ _ _ (by simp) (by simp)

end Policy

end PasswordHashing
