import PasswordHashing.AppPassword
import PasswordHashing.Proofs.PlainSpelling
import PasswordHashing.Proofs.RecordGrammar

/-! The canonical text of a record. Writing loses nothing but the cost of a compact record, so that
a text tells the fields that it was written for. Reading is many-to-one; of all the records of some
fields one is canonical, and all of them are treated alike. -/
namespace PasswordHashing

namespace Fields

variable {f g : Fields}

/-- What a record does not tell makes no difference to its text. -/
theorem encode_told (f : Fields) : f.told.encode = f.encode := by
  obtain ⟨layout, cost, salt, key⟩ := f
  cases layout <;> rfl

/-- Records have the same text only if they tell the same. The cost behind a compact record may
differ. -/
theorem encode_eq_encode_iff (hF : f.Storable) (hG : g.Storable) :
    f.encode = g.encode ↔ f.told = g.told := by
  constructor
  · intro hEncode
    have hParse := Record.parse_encode hF
    rw [hEncode, Record.parse_encode hG] at hParse
    exact (Except.ok.inj hParse).symm
  · intro hTold
    rw [← f.encode_told, hTold, g.encode_told]

/-- What records tell is their layout, salt and key, and the cost too if they are
self-describing. -/
theorem told_eq_told_iff :
    f.told = g.told ↔ f.layout = g.layout ∧ f.salt = g.salt ∧ f.key = g.key ∧
      (f.layout = .selfDescribing → f.cost = g.cost) := by
  obtain ⟨layout, cost, salt, key⟩ := f
  obtain ⟨layout', cost', salt', key'⟩ := g
  cases layout <;> cases layout' <;> simp [told, and_comm, and_left_comm]

/-- Reading undoes writing, whatever the fields. No two fields share a text, except that compact
records do not tell costs apart. -/
theorem encode_is_read_back (hStorable : f.Storable) :
    (∃ read, f.encode.parse = .ok read ∧ read.layout = f.layout ∧ read.salt = f.salt ∧
      read.key = f.key ∧ (f.layout = .selfDescribing → read.cost = f.cost) ∧
        (f.layout = .compact → read.cost = ⟨14, 8, 1⟩)) ∧
      ∀ g : Fields, g.Storable →
        (f.encode = g.encode ↔ f.layout = g.layout ∧ f.salt = g.salt ∧ f.key = g.key ∧
          (f.layout = .selfDescribing → f.cost = g.cost)) := by
  constructor
  · refine ⟨f.told, Record.parse_encode hStorable, ?_⟩
    obtain ⟨layout, cost, salt, key⟩ := f
    cases layout <;> simp [told, Cost.standard]
  · intro g hG
    rw [encode_eq_encode_iff hStorable hG, told_eq_told_iff]

/-- A cost of the largest numbers and zero, which no derivation can be run with, and a salt with the
marks of the cost field. As a compact record the same fields have another text. -/
theorem extreme_cost_is_read_back :
    Storable ⟨.selfDescribing, ⟨255, 4294967295, 0⟩, "p=1,ln=0\n", List.replicate 16 0xab⟩ ∧
      Storable ⟨.compact, ⟨255, 4294967295, 0⟩, "p=1,ln=0\n", List.replicate 16 0xab⟩ ∧
      (∃ read, (encode ⟨.selfDescribing, ⟨255, 4294967295, 0⟩, "p=1,ln=0\n",
          List.replicate 16 0xab⟩).parse = .ok read ∧
        read.cost = ⟨255, 4294967295, 0⟩ ∧ read.salt = "p=1,ln=0\n") ∧
      (∃ read, (encode ⟨.compact, ⟨255, 4294967295, 0⟩, "p=1,ln=0\n",
          List.replicate 16 0xab⟩).parse = .ok read ∧ read.cost = ⟨14, 8, 1⟩) ∧
      encode ⟨.selfDescribing, ⟨255, 4294967295, 0⟩, "p=1,ln=0\n", List.replicate 16 0xab⟩ ≠
        encode ⟨.compact, ⟨255, 4294967295, 0⟩, "p=1,ln=0\n", List.replicate 16 0xab⟩ := by
  have hTold : Storable
      ⟨.selfDescribing, ⟨255, 4294967295, 0⟩, "p=1,ln=0\n", List.replicate 16 0xab⟩ :=
    ⟨by decide, by decide, by decide, by decide⟩
  have hSilent : Storable
      ⟨.compact, ⟨255, 4294967295, 0⟩, "p=1,ln=0\n", List.replicate 16 0xab⟩ :=
    ⟨by decide, by decide, by decide, by decide⟩
  obtain ⟨⟨read, hParse, -, hSalt, -, hCost, -⟩, hText⟩ := encode_is_read_back hTold
  obtain ⟨⟨other, hOther, -, -, -, -, hStandard⟩, -⟩ := encode_is_read_back hSilent
  refine ⟨hTold, hSilent, ⟨read, hParse, hCost rfl, hSalt⟩, ⟨other, hOther, hStandard rfl⟩, ?_⟩
  intro hSame
  cases ((hText _ hSilent).mp hSame).1

end Fields

namespace Record

/-- A record spelled the way records are written. Its salt is free, since salts are written as they
are. -/
inductive Plain : List Char → Prop where
  | compact {salt key : List Char} (hSalt : ':' ∉ salt) (hKey : ':' ∉ key)
      (hLower : Hex.Lower key) : Plain (salt ++ ':' :: key)
  | selfDescribing {q salt key : List Char} (hCost : Cost.Plain q) (hSalt : ':' ∉ salt)
      (hKey : ':' ∉ key) (hLower : Hex.Lower key) :
      Plain (['s', 'c', 'r', 'y', 'p', 't', ':'] ++ q ++ ':' :: salt ++ ':' :: key)

variable {record : Record} {fields : Fields}

/-- Writing out what was read and reading it again changes nothing. -/
theorem parse_encode_of_parse (hParse : record.parse = .ok fields) :
    fields.encode.parse = .ok fields := by
  rw [parse_encode (storable_of_parse hParse), told_of_parse hParse]

/-- What is written for a record is plain, however the record itself was spelled. -/
theorem plain_encode (hParse : record.parse = .ok fields) : Plain fields.encode.text.toList := by
  have hColon := (storable_of_parse hParse).colon_not_mem_salt
  have hKey := Hex.colon_not_mem_of_spells (Hex.spells_encode fields.key)
  have hLower := Hex.lower_encode fields.key
  obtain ⟨layout, cost, salt, key⟩ := fields
  cases layout with
  | compact =>
      simpa [Fields.encode, Fields.chars, List.intercalate, delimiter] using
        Plain.compact hColon hKey hLower
  | selfDescribing =>
      simpa [Fields.encode, Fields.chars, List.intercalate, delimiter, algorithmTag] using
        Plain.selfDescribing (Cost.plain_chars cost) hColon hKey hLower

/-- A plain record is the text that is written for its fields. Plainness leaves no choice of
spelling. -/
theorem chars_of_plain (hParse : record.parse = .ok fields) (hPlain : Plain record.text.toList) :
    fields.chars = record.text.toList := by
  generalize hText : record.text.toList = cs at hPlain
  cases hPlain with
  | @compact salt key hSalt hKey hLower =>
      rw [parse_eq_compact hText hSalt hKey] at hParse
      obtain ⟨bytes, hEnd, rfl⟩ := (readShared_eq_ok_iff hSalt).mp hParse
      simp [Fields.chars, List.intercalate, delimiter, Hex.encode_of_lower hEnd.key_spells hLower]
  | @selfDescribing q salt key hCost hSalt hKey hLower =>
      rw [parse_eq_selfDescribing hText (Cost.colon_not_mem_of_plain hCost) hSalt hKey] at hParse
      split at hParse
      · cases hParse
      · rename_i cost hRead
        obtain ⟨bytes, hEnd, rfl⟩ := (readShared_eq_ok_iff hSalt).mp hParse
        simp [Fields.chars, List.intercalate, delimiter, algorithmTag,
          Cost.chars_of_plain (Cost.read_eq_ok_iff.mp hRead) hCost,
          Hex.encode_of_lower hEnd.key_spells hLower]

/-- The records that writing leaves as they are: the plain ones. -/
theorem encode_eq_iff_plain (hParse : record.parse = .ok fields) :
    fields.encode = record ↔ Plain record.text.toList := by
  constructor
  · intro hEncode
    have hPlain := plain_encode hParse
    rwa [hEncode] at hPlain
  · intro hPlain
    rw [Fields.encode, chars_of_plain hParse hPlain, String.ofList_toList]

end Record

namespace Hasher

variable {record other : Record}

/-- A hasher sees a record only through its fields. -/
theorem verify_congr (hSame : record.parse = other.parse) (h : Hasher) (password : List UInt8) :
    h.verify password record = h.verify password other := by
  rw [verify, verify, hSame]

/-- Whether a record is out of date depends on what it is read as alone, like the verdict on it. -/
theorem needsRehash_congr (hSame : record.parse = other.parse) (h : Hasher) :
    h.needsRehash record = h.needsRehash other := by
  rw [needsRehash, needsRehash, hSame]

end Hasher

theorem AppPassword.verify_congr {record other : Record} (hSame : record.parse = other.parse)
    (h : Hasher) (account : String) (password : List UInt8) :
    verify h account password record = verify h account password other := by
  rw [verify, verify, hSame]
  simp only [h.verify_congr hSame]

namespace Record

/-- What is written for the fields of a record is its canonical text, which stands for the same
fields and is kept from then on. A record has it already exactly if it is plain. Nothing that is
done with a record tells it from its canonical text; only the equality of records does. -/
theorem canonical_form {record : Record} {fields : Fields} (hParse : record.parse = .ok fields) :
    fields.encode.parse = .ok fields ∧
      (fields.encode = record ↔ Plain record.text.toList) ∧
      (∀ again, fields.encode.parse = .ok again → again.encode = fields.encode) ∧
      (∀ (h : Hasher) (password : List UInt8),
        h.verify password record = h.verify password fields.encode) ∧
      (∀ h : Hasher, h.needsRehash record = h.needsRehash fields.encode) ∧
      ∀ (h : Hasher) (account : String) (password : List UInt8),
        AppPassword.verify h account password record =
          AppPassword.verify h account password fields.encode := by
  have hCanonical := parse_encode_of_parse hParse
  have hSame : record.parse = fields.encode.parse := hParse.trans hCanonical.symm
  refine ⟨hCanonical, encode_eq_iff_plain hParse, ?_, Hasher.verify_congr hSame,
    Hasher.needsRehash_congr hSame, AppPassword.verify_congr hSame⟩
  intro again hAgain
  rw [hCanonical] at hAgain
  obtain rfl := Except.ok.inj hAgain
  rfl

/-- Parameters out of order, a sign, leading zeros and a key in the upper case: the canonical text
is another one, which every hasher takes for the same. -/
theorem respelled_record_has_other_text :
    parse ⟨"scrypt:p=+1,ln=014,r=8:salt:ABABABABABABABABABABABABABABABAB"⟩ =
        .ok ⟨.selfDescribing, ⟨14, 8, 1⟩, "salt", List.replicate 16 0xab⟩ ∧
      parse ⟨"scrypt:ln=14,r=8,p=1:salt:abababababababababababababababab"⟩ =
        .ok ⟨.selfDescribing, ⟨14, 8, 1⟩, "salt", List.replicate 16 0xab⟩ ∧
      Fields.encode ⟨.selfDescribing, ⟨14, 8, 1⟩, "salt", List.replicate 16 0xab⟩ =
        ⟨"scrypt:ln=14,r=8,p=1:salt:abababababababababababababababab"⟩ ∧
      ∀ (h : Hasher) (password : List UInt8),
        h.verify password ⟨"scrypt:p=+1,ln=014,r=8:salt:ABABABABABABABABABABABABABABABAB"⟩ =
          h.verify password ⟨"scrypt:ln=14,r=8,p=1:salt:abababababababababababababababab"⟩ := by
  have hRespelled : parse ⟨"scrypt:p=+1,ln=014,r=8:salt:ABABABABABABABABABABABABABABABAB"⟩ =
      .ok ⟨.selfDescribing, ⟨14, 8, 1⟩, "salt", List.replicate 16 0xab⟩ := rfl
  have hWritten : parse ⟨"scrypt:ln=14,r=8,p=1:salt:abababababababababababababababab"⟩ =
      .ok ⟨.selfDescribing, ⟨14, 8, 1⟩, "salt", List.replicate 16 0xab⟩ := rfl
  have hCost : Cost.Plain "ln=14,r=8,p=1".toList :=
    @Cost.Plain.intro ['1', '4'] ['8'] ['1'] ⟨by simp, by simp, by simp⟩
      ⟨by simp, by simp, by simp⟩ ⟨by simp, by simp, by simp⟩
  have hLower : Hex.Lower "abababababababababababababababab".toList :=
    Hex.lower_encode (List.replicate 16 0xab)
  have hPlain : Plain "scrypt:ln=14,r=8,p=1:salt:abababababababababababababababab".toList :=
    @Plain.selfDescribing _ "salt".toList _ hCost (by decide) (by decide) hLower
  obtain ⟨-, -, -, hVerify, -⟩ := canonical_form hRespelled
  obtain ⟨-, hCanonical, -⟩ := canonical_form hWritten
  rw [hCanonical.mpr hPlain] at hVerify
  exact ⟨hRespelled, hWritten, hCanonical.mpr hPlain, hVerify⟩

end Record

end PasswordHashing
