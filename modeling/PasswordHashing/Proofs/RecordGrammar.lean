import PasswordHashing.Proofs.CostField

/-! The language of stored records. The grammar is stated over whole texts, with no order of
reading; the reader cuts the text at delimiters. Both give the same fields for every text, and a
text outside the grammar is a malformed record. -/
namespace PasswordHashing

open Text

/-- The fields that end every record: a salt that does not end its field early, and 32 to 128
hexadecimal digits for the bytes of the key. -/
structure SaltAndKey (salt key : List Char) (bytes : List UInt8) : Prop where
  salt_ne_nil : salt ≠ []
  colon_not_mem_salt : ':' ∉ salt
  key_spells : Hex.Spells key bytes
  le_length_key : 32 ≤ key.length
  length_key_le : key.length ≤ 128

theorem SaltAndKey.length_bytes {salt key : List Char} {bytes : List UInt8}
    (hEnd : SaltAndKey salt key bytes) : 16 ≤ bytes.length ∧ bytes.length ≤ 64 := by
  have hSize := Hex.length_of_spells hEnd.key_spells
  have hLow := hEnd.le_length_key
  have hHigh := hEnd.length_key_le
  omega

/-- Fields that a record can hold: a salt that does not end its field early and a key of a usual
length. Nothing is asked of the cost. -/
structure Fields.Storable (f : Fields) : Prop where
  salt_ne_nil : f.salt.toList ≠ []
  colon_not_mem_salt : ':' ∉ f.salt.toList
  le_length_key : 16 ≤ f.key.length
  length_key_le : f.key.length ≤ 64

theorem SaltAndKey.storable {salt key : List Char} {bytes : List UInt8}
    (hEnd : SaltAndKey salt key bytes) (layout : Layout) (cost : Cost) :
    Fields.Storable ⟨layout, cost, String.ofList salt, bytes⟩ where
  salt_ne_nil := by simpa using hEnd.salt_ne_nil
  colon_not_mem_salt := by simpa using hEnd.colon_not_mem_salt
  le_length_key := hEnd.length_bytes.1
  length_key_le := hEnd.length_bytes.2

/-- The text of a record in either layout. A compact record stands for the cost 14, 8, 1. -/
inductive Record.Spells : List Char → Fields → Prop where
  | compact {salt key : List Char} {bytes : List UInt8} (hEnd : SaltAndKey salt key bytes) :
      Record.Spells (salt ++ ':' :: key) ⟨.compact, ⟨14, 8, 1⟩, String.ofList salt, bytes⟩
  | selfDescribing {q salt key : List Char} {cost : Cost} {bytes : List UInt8}
      (hCost : Cost.Spells q cost) (hEnd : SaltAndKey salt key bytes) :
      Record.Spells (['s', 'c', 'r', 'y', 'p', 't', ':'] ++ q ++ ':' :: salt ++ ':' :: key)
        ⟨.selfDescribing, cost, String.ofList salt, bytes⟩

/-- The fields that a record of some fields tells: a compact one is silent about the cost. -/
def Fields.told (f : Fields) : Fields :=
  match f.layout with
  | .compact => { f with cost := .standard }
  | .selfDescribing => f

/-- Nothing is left untold if a compact record has the cost that goes without saying. -/
theorem Fields.told_eq_self {f : Fields} (hCompact : f.layout = .compact → f.cost = .standard) :
    f.told = f := by
  obtain ⟨layout, cost, salt, key⟩ := f
  cases layout with
  | compact =>
      obtain rfl : cost = .standard := hCompact rfl
      rfl
  | selfDescribing => rfl

namespace Record

/-- The fields that both layouts share are read exactly if they are a salt and a key that may end a
record. -/
theorem readShared_eq_ok_iff {layout : Layout} {cost : Cost} {salt key : List Char}
    {fields : Fields} (hColon : ':' ∉ salt) :
    readShared layout cost salt key = .ok fields ↔
      ∃ bytes, SaltAndKey salt key bytes ∧ fields = ⟨layout, cost, String.ofList salt, bytes⟩ := by
  constructor
  · intro hRead
    rw [readShared] at hRead
    split at hRead
    · cases hRead
    rename_i hSalt
    split at hRead
    · cases hRead
    rename_i bytes hDecode
    split at hRead
    · rename_i hLength
      cases hRead
      have hKey := Hex.decode_eq_ok_iff.mp hDecode
      have hSize := Hex.length_of_spells hKey
      simp only [keyLengths] at hLength
      exact ⟨bytes, ⟨hSalt, hColon, hKey, by omega, by omega⟩, rfl⟩
    · cases hRead
  · rintro ⟨bytes, hEnd, rfl⟩
    have hLength : keyLengths.1 ≤ bytes.length ∧ bytes.length ≤ keyLengths.2 := hEnd.length_bytes
    rw [readShared, if_neg hEnd.salt_ne_nil, Hex.decode_eq_ok_iff.mpr hEnd.key_spells]
    simp only [hLength, and_self, if_true]

theorem spells_of_parse {record : Record} {fields : Fields}
    (hParse : record.parse = .ok fields) : Spells record.text.toList fields := by
  rw [parse] at hParse
  split at hParse
  · rename_i salt key hSplit
    obtain ⟨-, hFree, hJoin⟩ := split_eq_iff.mp hSplit
    obtain ⟨bytes, hEnd, rfl⟩ := (readShared_eq_ok_iff (hFree salt (by simp))).mp hParse
    rw [← hJoin]
    simpa [List.intercalate, delimiter, Cost.standard] using Spells.compact hEnd
  · rename_i tag q salt key hSplit
    obtain ⟨-, hFree, hJoin⟩ := split_eq_iff.mp hSplit
    split at hParse
    · rename_i hTag
      split at hParse
      · cases hParse
      rename_i cost hCost
      obtain ⟨bytes, hEnd, rfl⟩ := (readShared_eq_ok_iff (hFree salt (by simp))).mp hParse
      have hText := Spells.selfDescribing (Cost.read_eq_ok_iff.mp hCost) hEnd
      rw [← hJoin, hTag]
      simpa [List.intercalate, algorithmTag, delimiter] using hText
    · cases hParse
  · cases hParse

/-- With one delimiter a record is compact, and its cost goes without saying. -/
theorem parse_eq_compact {record : Record} {salt key : List Char}
    (hText : record.text.toList = salt ++ ':' :: key) (hSalt : ':' ∉ salt) (hKey : ':' ∉ key) :
    record.parse = readShared .compact .standard salt key := by
  have hSplit : split delimiter record.text.toList = [salt, key] := by
    refine split_eq_iff.mpr ⟨by simp, ?_, ?_⟩
    · simp only [List.mem_cons, List.not_mem_nil, or_false, forall_eq_or_imp, forall_eq]
      exact ⟨hSalt, hKey⟩
    · simp [hText, List.intercalate, delimiter]
  rw [parse, hSplit]

/-- With the tag and three delimiters a record is self-describing, and its cost is read before salt
and key. -/
theorem parse_eq_selfDescribing {record : Record} {q salt key : List Char}
    (hText : record.text.toList =
      ['s', 'c', 'r', 'y', 'p', 't', ':'] ++ q ++ ':' :: salt ++ ':' :: key)
    (hCost : ':' ∉ q) (hSalt : ':' ∉ salt) (hKey : ':' ∉ key) :
    record.parse =
      match Cost.read q with
      | .error fault => .error fault
      | .ok cost => readShared .selfDescribing cost salt key := by
  have hSplit : split delimiter record.text.toList = [algorithmTag, q, salt, key] := by
    refine split_eq_iff.mpr ⟨by simp, ?_, ?_⟩
    · simp only [List.mem_cons, List.not_mem_nil, or_false, forall_eq_or_imp, forall_eq]
      exact ⟨by decide, hCost, hSalt, hKey⟩
    · simp [hText, List.intercalate, algorithmTag, delimiter]
  rw [parse, hSplit]
  exact if_pos rfl

theorem parse_of_spells {record : Record} {fields : Fields}
    (hSpells : Spells record.text.toList fields) : record.parse = .ok fields := by
  generalize hText : record.text.toList = cs at hSpells
  cases hSpells with
  | @compact salt key bytes hEnd =>
      rw [parse_eq_compact hText hEnd.colon_not_mem_salt
        (Hex.colon_not_mem_of_spells hEnd.key_spells)]
      exact (readShared_eq_ok_iff hEnd.colon_not_mem_salt).mpr ⟨bytes, hEnd, rfl⟩
  | @selfDescribing q salt key cost bytes hCost hEnd =>
      rw [parse_eq_selfDescribing hText (Cost.colon_not_mem_of_spells hCost)
        hEnd.colon_not_mem_salt (Hex.colon_not_mem_of_spells hEnd.key_spells),
        Cost.read_of_spells hCost]
      exact (readShared_eq_ok_iff hEnd.colon_not_mem_salt).mpr ⟨bytes, hEnd, rfl⟩

/-- The reader of records accepts exactly the texts that spell a record. -/
theorem parse_eq_ok_iff {record : Record} {fields : Fields} :
    record.parse = .ok fields ↔ Spells record.text.toList fields :=
  ⟨spells_of_parse, parse_of_spells⟩

/-- Fields that were read can be written again. -/
theorem storable_of_parse {record : Record} {fields : Fields}
    (hParse : record.parse = .ok fields) : fields.Storable := by
  have hSpells := spells_of_parse hParse
  generalize record.text.toList = cs at hSpells
  cases hSpells with
  | compact hEnd => exact hEnd.storable _ _
  | selfDescribing _ hEnd => exact hEnd.storable _ _

/-- Fields that were read hold nothing that their record does not tell. -/
theorem told_of_parse {record : Record} {fields : Fields} (hParse : record.parse = .ok fields) :
    fields.told = fields := by
  have hSpells := spells_of_parse hParse
  generalize record.text.toList = cs at hSpells
  cases hSpells <;> rfl

/-- A record that is written is read as what it tells. -/
theorem parse_encode {f : Fields} (hStorable : f.Storable) : f.encode.parse = .ok f.told := by
  obtain ⟨layout, cost, salt, key⟩ := f
  obtain ⟨hSalt, hColon, hLow, hHigh⟩ := hStorable
  dsimp only at hSalt hColon hLow hHigh
  have hDigits := Hex.length_encode key
  have hEnd : SaltAndKey salt.toList (Hex.encode key) key :=
    ⟨hSalt, hColon, Hex.spells_encode key, by omega, by omega⟩
  apply parse_of_spells
  cases layout with
  | compact =>
      simpa [Fields.told, Fields.encode, Fields.chars, List.intercalate, delimiter,
        Cost.standard] using Spells.compact hEnd
  | selfDescribing =>
      simpa [Fields.told, Fields.encode, Fields.chars, List.intercalate, delimiter,
        algorithmTag] using Spells.selfDescribing (Cost.spells_chars cost) hEnd

/-- The layout of a record is told only after all of the record has been read. -/
theorem layout_eq_ok_iff {record : Record} {layout : Layout} :
    record.layout = .ok layout ↔ ∃ fields, record.parse = .ok fields ∧ fields.layout = layout := by
  rw [Record.layout]
  cases record.parse <;> simp

/-- The layout of a text that is no record is reported as malformed, with the fault of the text. -/
theorem layout_eq_error_iff {record : Record} {failure : Failure} :
    record.layout = .error failure ↔
      ∃ fault, record.parse = .error fault ∧ failure = .malformedRecord fault := by
  rw [Record.layout]
  cases record.parse <;> simp [eq_comm]

/-- The reader and the grammar agree on every text and on every field. A text outside the grammar
is a malformed record and nothing else. -/
theorem parse_decides_grammar (text : String) :
    (∀ fields, Record.parse ⟨text⟩ = .ok fields ↔ Spells text.toList fields) ∧
      (∀ layout, Record.layout ⟨text⟩ = .ok layout ↔
        ∃ fields, Spells text.toList fields ∧ fields.layout = layout) ∧
      ((∃ fault, Record.layout ⟨text⟩ = .error (.malformedRecord fault)) ↔
        ∀ fields, ¬ Spells text.toList fields) := by
  have hParse (fields : Fields) : Record.parse ⟨text⟩ = .ok fields ↔ Spells text.toList fields :=
    parse_eq_ok_iff
  refine ⟨hParse, fun layout => ?_, ?_⟩
  · simp only [layout_eq_ok_iff, hParse]
  · constructor
    · rintro ⟨fault, hFault⟩ fields hSpells
      obtain ⟨_, hError, -⟩ := layout_eq_error_iff.mp hFault
      rw [(hParse fields).mpr hSpells] at hError
      cases hError
    · intro hNone
      cases hRead : Record.parse ⟨text⟩ with
      | error fault => exact ⟨fault, layout_eq_error_iff.mpr ⟨fault, hRead, rfl⟩⟩
      | ok fields => exact absurd ((hParse fields).mp hRead) (hNone fields)

end Record

end PasswordHashing
