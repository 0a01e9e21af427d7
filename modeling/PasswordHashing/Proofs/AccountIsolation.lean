import PasswordHashing.Proofs.CurrentRecords

/-! App passwords between accounts. The salt of an account is sixteen bytes of its digest, and a
record is opened only for accounts with these bytes. Since the salt is fixed, a record can be looked
up by its text, which finds exactly what verification opens. -/
namespace PasswordHashing.AppPassword

variable {h : Hasher} {account other : String} {password : List UInt8} {record : Record}
  {fields : Fields}

/-- The bytes of an account's digest that its salt shows. -/
def digestHead (account : String) : List UInt8 :=
  (Sha256.digest (Utf8.encode account)).take 16

/-- A text is the salt of an account: two digits for each of these bytes, none in the upper case. -/
def IsSaltOf (text account : String) : Prop :=
  Hex.Spells text.toList (digestHead account) ∧ Hex.Lower text.toList

/-- The salt of an account is the only text that shows the head of its digest in small digits. -/
theorem isSaltOf_iff {text : String} : IsSaltOf text account ↔ text = salt account := by
  constructor
  · rintro ⟨hSpells, hLower⟩
    rw [salt, ← digestHead, Hex.encode_of_lower hSpells hLower, String.ofList_toList]
  · rintro rfl
    rw [IsSaltOf, salt, String.toList_ofList]
    exact ⟨Hex.spells_encode _, Hex.lower_encode _⟩

theorem length_of_isSaltOf {text : String} (hSalt : IsSaltOf text account) :
    text.toList.length = 32 := by
  have hLength := Hex.length_of_spells hSalt.1
  rwa [digestHead, List.length_take, Sha256.length_digest] at hLength

/-- Two accounts share a salt exactly if the first sixteen bytes of their digests are the same. -/
theorem salt_eq_salt_iff : salt account = salt other ↔ digestHead account = digestHead other := by
  constructor
  · intro hSame
    have hText := congrArg (fun text => Hex.decode text.toList) hSame
    simpa [salt, digestHead] using hText
  · intro hSame
    rw [salt, salt, ← digestHead, ← digestHead, hSame]

/-- Two accounts for the examples, with different digests. -/
theorem digestHead_ne_other :
    digestHead "did:plc:ewvi7nxzyoun6zhxrhs64oiz" ≠ digestHead "did:plc:other" := by
  decide +kernel

/-- A record that cannot be read is the same fault as without an account. -/
theorem verify_of_unreadable {fault : RecordFault} (hParse : record.parse = .error fault) :
    verify h account password record = h.verify password record := by
  rw [verify, hParse, h.verify_of_unreadable password hParse]

/-- A record with the salt of another account is a mismatch. Its cost is not looked at, so that none
is too high for this answer. -/
theorem verify_of_other_salt (hParse : record.parse = .ok fields)
    (hSalt : fields.salt ≠ salt account) :
    (verify h account password record).answer = .ok false := by
  rw [verify, hParse]
  simp only [hSalt, if_false]

/-- With the salt of the account a record is verified like any other. -/
theorem verify_of_own_salt (hParse : record.parse = .ok fields)
    (hSalt : fields.salt = salt account) :
    verify h account password record = h.verify password record := by
  rw [verify, hParse]
  simp only [hSalt, if_true]

theorem hashWithSalt_of_hash (hRecord : (hash h account password).answer = .ok record) :
    (h.hashWithSalt password (salt account)).answer = .ok record := by
  rw [hash] at hRecord
  split at hRecord
  · cases hRecord
  · exact hRecord

/-- For an account with a name every password but the empty one can be hashed. -/
theorem exists_hash (h : Hasher) (hAccount : account.toList ≠ []) (hPassword : password ≠ []) :
    ∃ record, (hash h account password).answer = .ok record := by
  obtain ⟨hSalt, hColon⟩ := usableSalt_salt account
  obtain ⟨key, -, -, hRecord⟩ := h.exists_hashWithSalt password hPassword hSalt hColon
  exact ⟨_, by rw [hash, if_neg hAccount, hRecord]⟩

/-- Only accounts with the salt of the record can open it. -/
theorem salt_eq_of_verify (hVerify : (verify h account password record).answer = .ok true) :
    ∃ fields, record.parse = .ok fields ∧ fields.salt = salt account := by
  cases hParse : record.parse with
  | error fault =>
      rw [verify_of_unreadable hParse, h.verify_of_unreadable password hParse] at hVerify
      cases hVerify
  | ok fields =>
      refine ⟨fields, rfl, ?_⟩
      by_contra hSalt
      rw [verify_of_other_salt hParse hSalt] at hVerify
      cases hVerify

/-- The salt decides between accounts before anything else is looked at. A record with the salt of
another account is a mismatch, also where no hasher could verify it, and a record with the salt of
the account is verified as usual, failures included. So no two accounts open one record unless their
digests begin alike, and no record made for one account is more than a mismatch for another. -/
theorem accounts_are_isolated (account : String) :
    (∀ (h : Hasher) (password : List UInt8) (record : Record),
      (∀ fault, record.parse = .error fault →
        (verify h account password record).answer = .error (.malformedRecord fault) ∧
          verify h account password record = h.verify password record) ∧
      ∀ fields, record.parse = .ok fields →
        (¬ IsSaltOf fields.salt account →
          (verify h account password record).answer = .ok false) ∧
        (IsSaltOf fields.salt account →
          verify h account password record = h.verify password record)) ∧
      (∀ (other : String) (h₁ h₂ : Hasher) (first second : List UInt8) (record : Record),
        (verify h₁ account first record).answer = .ok true →
        (verify h₂ other second record).answer = .ok true →
          digestHead account = digestHead other) ∧
      ∀ (other : String) (maker : Hasher) (password : List UInt8) (record : Record),
        digestHead account ≠ digestHead other →
        (hash maker account password).answer = .ok record →
          ∀ (h : Hasher) (candidate : List UInt8),
            (verify h other candidate record).answer = .ok false := by
  refine ⟨fun h password record => ⟨?_, ?_⟩, ?_, ?_⟩
  · intro fault hParse
    rw [verify_of_unreadable hParse, h.verify_of_unreadable password hParse]
    exact ⟨rfl, rfl⟩
  · intro fields hParse
    rw [isSaltOf_iff]
    exact ⟨verify_of_other_salt hParse, verify_of_own_salt hParse⟩
  · intro other h₁ h₂ first second record hFirst hSecond
    obtain ⟨fields, hParse, hSalt⟩ := salt_eq_of_verify hFirst
    obtain ⟨same, hSame, hOther⟩ := salt_eq_of_verify hSecond
    rw [hParse] at hSame
    obtain rfl := Except.ok.inj hSame
    exact salt_eq_salt_iff.mp (hSalt.symm.trans hOther)
  · intro other maker password record hNe hRecord h candidate
    obtain ⟨key, hCurrent, -⟩ := Hasher.isCurrent_of_hashWithSalt (hashWithSalt_of_hash hRecord)
    apply verify_of_other_salt hCurrent.parse
    exact fun hSame => hNe (salt_eq_salt_iff.mp hSame)

/-- A record with a salt of no account and a cost past all words is a mismatch for an account, where
verification alone calls it malformed. A record made for one account opens for it, and is a mismatch
for another under a hasher with other settings. -/
theorem record_opens_for_its_account :
    (Hasher.testing.verify [0x70] ⟨"scrypt:ln=63,r=8,p=1:salt:abababababababababababababababab"⟩
        ).answer = .error (.malformedRecord (.unusableCost ⟨63, 8, 1⟩ .refused)) ∧
      (verify .testing "did:plc:other" [0x70]
        ⟨"scrypt:ln=63,r=8,p=1:salt:abababababababababababababababab"⟩).answer = .ok false ∧
      digestHead "did:plc:ewvi7nxzyoun6zhxrhs64oiz" ≠ digestHead "did:plc:other" ∧
      ∃ record, (hash .testing "did:plc:ewvi7nxzyoun6zhxrhs64oiz" [0x70]).answer = .ok record ∧
        (verify .testing "did:plc:ewvi7nxzyoun6zhxrhs64oiz" [0x70] record).answer = .ok true ∧
        ∀ candidate, (verify .interactive "did:plc:other" candidate record).answer = .ok false := by
  have hAccount : "did:plc:ewvi7nxzyoun6zhxrhs64oiz".toList ≠ [] := by decide
  have hPassword : ([0x70] : List UInt8) ≠ [] := by decide
  obtain ⟨record, hRecord⟩ := exists_hash .testing hAccount hPassword
  have hDerived := hashWithSalt_of_hash hRecord
  obtain ⟨key, hCurrent, -⟩ := Hasher.isCurrent_of_hashWithSalt hDerived
  obtain ⟨hOwn, -, hOther⟩ := accounts_are_isolated "did:plc:ewvi7nxzyoun6zhxrhs64oiz"
  obtain ⟨hForeign, -⟩ := accounts_are_isolated "did:plc:other"
  have hNoSalt : ¬ IsSaltOf "salt" "did:plc:other" := by
    intro hSalt
    cases length_of_isSaltOf hSalt
  refine ⟨rfl, ?_, digestHead_ne_other, record, hRecord, ?_, ?_⟩
  · exact ((hForeign _ _ _).2 ⟨.selfDescribing, ⟨63, 8, 1⟩, "salt", List.replicate 16 0xab⟩
      rfl).1 hNoSalt
  · rw [((hOwn .testing [0x70] record).2 _ hCurrent.parse).2 (isSaltOf_iff.mpr rfl)]
    exact Hasher.verify_of_hashWithSalt hDerived
  · exact hOther _ _ _ _ digestHead_ne_other hRecord .interactive

/-- A hasher that makes all records of a store finds them by their text. The text of a password and
an account is stored exactly if verification opens the stored record, and neither of the two ever
fails, whoever the record was made for. -/
theorem lookup_agrees_with_verify {original : List UInt8} {chosen : String} {stored : Record}
    (hAccount : account.toList ≠ []) (hPassword : password ≠ [])
    (hStored : (h.hashWithSalt original chosen).answer = .ok stored) :
    ∃ made isMatch, (hash h account password).answer = .ok made ∧
      (verify h account password stored).answer = .ok isMatch ∧
        (isMatch = true ↔ made = stored) := by
  obtain ⟨made, hMade⟩ := exists_hash h hAccount hPassword
  have hDerived := hashWithSalt_of_hash hMade
  obtain ⟨key, hCurrent, rfl⟩ := Hasher.isCurrent_of_hashWithSalt hStored
  by_cases hSalt : chosen = salt account
  · subst hSalt
    have hVerify := hCurrent.verify password
    have hIff := hCurrent.verify_eq_true_iff hPassword
    rw [hDerived, Except.ok.injEq, hVerify, Except.ok.injEq] at hIff
    rw [verify_of_own_salt hCurrent.parse rfl]
    exact ⟨made, _, hMade, hVerify, hIff⟩
  · refine ⟨made, false, hMade, verify_of_other_salt hCurrent.parse hSalt, ?_⟩
    obtain ⟨_, hCurrentMade, -⟩ := Hasher.isCurrent_of_hashWithSalt hDerived
    constructor
    · intro hTrue
      cases hTrue
    · rintro rfl
      have hFields := hCurrent.parse.symm.trans hCurrentMade.parse
      exact absurd (congrArg Fields.salt (Except.ok.inj hFields)) hSalt

/-- An app password is found for its account, and the same password of another account is not. -/
theorem testing_finds_app_password :
    "did:plc:ewvi7nxzyoun6zhxrhs64oiz".toList ≠ [] ∧ "did:plc:other".toList ≠ [] ∧
      ([0x70] : List UInt8) ≠ [] ∧
      ∃ stored, (Hasher.testing.hashWithSalt [0x70]
          (salt "did:plc:ewvi7nxzyoun6zhxrhs64oiz")).answer = .ok stored ∧
        (hash .testing "did:plc:ewvi7nxzyoun6zhxrhs64oiz" [0x70]).answer = .ok stored ∧
        (verify .testing "did:plc:ewvi7nxzyoun6zhxrhs64oiz" [0x70] stored).answer = .ok true ∧
        ∃ made, (hash .testing "did:plc:other" [0x70]).answer = .ok made ∧ made ≠ stored ∧
          (verify .testing "did:plc:other" [0x70] stored).answer = .ok false := by
  have hAccount : "did:plc:ewvi7nxzyoun6zhxrhs64oiz".toList ≠ [] := by decide
  have hOther : "did:plc:other".toList ≠ [] := by decide
  have hPassword : ([0x70] : List UInt8) ≠ [] := by decide
  obtain ⟨stored, hStored⟩ := exists_hash .testing hAccount hPassword
  have hDerived := hashWithSalt_of_hash hStored
  obtain ⟨same, isMatch, hSame, hVerify, hIff⟩ :=
    lookup_agrees_with_verify hAccount hPassword hDerived
  obtain ⟨made, isOther, hMade, hReject, hNot⟩ :=
    lookup_agrees_with_verify hOther hPassword hDerived
  rw [hStored] at hSame
  obtain rfl := Except.ok.inj hSame
  obtain rfl : isMatch = true := hIff.mpr rfl
  obtain ⟨key, hCurrent, -⟩ := Hasher.isCurrent_of_hashWithSalt hDerived
  have hForeign : (verify .testing "did:plc:other" [0x70] stored).answer = .ok false :=
    verify_of_other_salt hCurrent.parse fun hSalt => digestHead_ne_other (salt_eq_salt_iff.mp hSalt)
  rw [hForeign] at hReject
  obtain rfl := Except.ok.inj hReject
  have hMissing : made ≠ stored := by
    intro hFound
    cases hNot.mpr hFound
  exact ⟨hAccount, hOther, hPassword, stored, hDerived, hStored, hVerify, made, hMade, hMissing,
    hForeign⟩

end PasswordHashing.AppPassword
