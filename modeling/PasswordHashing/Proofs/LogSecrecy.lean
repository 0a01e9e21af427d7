import PasswordHashing.Proofs.LoggedOutcomes

/-! What the log tells of secrets. Faults are worded with pieces of the record, and only pieces from
before the salt: once the salt and the key are read, what is left to go wrong depends on the cost
and on the length of the key. So the events of a verification are a function of those pieces and of
the verdict. -/
namespace PasswordHashing

namespace Record

/-- All that is shown of a record: the fields before its salt, and the length of its key. The salt
and the key that end the text may be any that a record can have. -/
def Shows (record : Record) (front : List (List Char)) (length : Nat) : Prop :=
  ∃ salt key bytes, record.text.toList = [':'].intercalate (front ++ [salt, key]) ∧
    (∀ field ∈ front, ':' ∉ field) ∧ SaltAndKey salt key bytes ∧ bytes.length = length

variable {record : Record} {front : List (List Char)} {length : Nat}

/-- What the fields before the salt say. -/
def readFront : List (List Char) → Except RecordFault (Layout × Cost)
  | [] => .ok (.compact, .standard)
  | [tag, cost] =>
      if tag = algorithmTag then (Cost.read cost).map fun cost => (.selfDescribing, cost)
      else .error (.unsupportedTag (String.ofList tag))
  | front => .error (.fieldCount (front.length + 2))

/-- Of a record with another number of fields nothing is told but that number. -/
theorem parse_of_fieldCount {fields : List (List Char)}
    (hSplit : Text.split delimiter record.text.toList = fields) (hTwo : fields.length ≠ 2)
    (hFour : fields.length ≠ 4) : record.parse = .error (.fieldCount fields.length) := by
  rw [Record.parse, hSplit]
  split
  · exact absurd rfl hTwo
  · exact absurd rfl hFour
  · rfl

/-- No fault is found after the fields before the salt. -/
theorem Shows.parse (hShows : record.Shows front length) :
    (∃ fault, readFront front = .error fault ∧ record.parse = .error fault) ∨
      ∃ fields, readFront front = .ok (fields.layout, fields.cost) ∧
        record.parse = .ok fields := by
  obtain ⟨salt, key, bytes, hText, hFront, hEnd, -⟩ := hShows
  have hSplit : Text.split delimiter record.text.toList = front ++ [salt, key] := by
    refine Text.split_eq_iff.mpr ⟨by simp, fun field hField => ?_, hText.symm⟩
    rcases List.mem_append.mp hField with hField | hField
    · exact hFront field hField
    · simp only [List.mem_cons, List.not_mem_nil, or_false] at hField
      rcases hField with rfl | rfl
      · exact hEnd.colon_not_mem_salt
      · exact Hex.colon_not_mem_of_spells hEnd.key_spells
  have hShared (layout : Layout) (cost : Cost) :
      readShared layout cost salt key = .ok ⟨layout, cost, String.ofList salt, bytes⟩ :=
    (readShared_eq_ok_iff hEnd.colon_not_mem_salt).mpr ⟨bytes, hEnd, rfl⟩
  match front with
  | [] =>
      refine .inr ⟨⟨.compact, .standard, String.ofList salt, bytes⟩, rfl, ?_⟩
      rw [Record.parse, hSplit]
      exact hShared _ _
  | [_] => exact .inl ⟨_, rfl, parse_of_fieldCount hSplit (by simp) (by simp)⟩
  | [tag, cost] =>
      rw [Record.parse, hSplit]
      by_cases hTag : tag = algorithmTag
      · cases hCost : Cost.read cost with
        | error fault =>
            refine .inl ⟨fault, ?_, ?_⟩
            · simp [readFront, hTag, hCost, Except.map]
            · simp [hTag, hCost]
        | ok cost =>
            refine .inr ⟨⟨.selfDescribing, cost, String.ofList salt, bytes⟩, ?_, ?_⟩
            · simp [readFront, hTag, hCost, Except.map]
            · simp [hTag, hCost, hShared]
      · exact .inl ⟨_, if_neg hTag, if_neg hTag⟩
  | _ :: _ :: _ :: rest =>
      refine .inl ⟨_, rfl, ?_⟩
      rw [parse_of_fieldCount hSplit (by simp) (by simp)]
      simp

end Record

namespace Hasher

variable (h : Hasher) {front : List (List Char)} {length : Nat}

/-- Verification of records that show the same comes to one failure for all of them, or to events
that the verdict decides. -/
theorem verify_of_shows (front : List (List Char)) (length : Nat) :
    (∃ failure events, ∀ (record : Record) (password : List UInt8), record.Shows front length →
        h.verify password record = ⟨.error failure, events⟩) ∨
      ∃ events : Bool → List Event, ∀ (record : Record) (password : List UInt8),
        record.Shows front length →
          ∃ isMatch, h.verify password record = ⟨.ok isMatch, events isMatch⟩ := by
  cases hFront : Record.readFront front with
  | error fault =>
      let failure : Failure := .malformedRecord fault
      refine .inl ⟨failure, [failure.event], fun record password hShows => ?_⟩
      rcases hShows.parse with ⟨same, hSame, hParse⟩ | ⟨fields, hFields, -⟩
      · rw [hFront] at hSame
        obtain rfl := Except.error.inj hSame
        exact h.verify_of_unreadable password hParse
      · rw [hFront] at hFields
        cases hFields
  | ok shown =>
      obtain ⟨layout, cost⟩ := shown
      have hRead {record : Record} (hShows : record.Shows front length) :
          ∃ fields, record.parse = .ok fields ∧ fields.layout = layout ∧ fields.cost = cost := by
        rcases hShows.parse with ⟨fault, hFault, -⟩ | ⟨fields, hFields, hParse⟩
        · rw [hFront] at hFault
          cases hFault
        · rw [hFront] at hFields
          cases hFields
          exact ⟨fields, hParse, rfl, rfl⟩
      cases hRefusal : h.refusal? cost with
      | some failure =>
          refine .inl ⟨failure, [failure.event], fun record password hShows => ?_⟩
          obtain ⟨fields, hParse, -, rfl⟩ := hRead hShows
          exact h.verify_of_refused password hParse hRefusal
      | none =>
          let events (isMatch : Bool) := (compared layout isMatch).events
          refine .inr ⟨events, fun record password hShows => ?_⟩
          obtain ⟨fields, hParse, rfl, rfl⟩ := hRead hShows
          obtain ⟨hUsable, hFits⟩ := h.refusal?_eq_none_iff.mp hRefusal
          exact ⟨_, h.verify_of_fits password hParse hUsable hFits⟩

/-- The log tells nothing of passwords, salts and keys but whether they match. Hashing logs the same
for all passwords and salts that it accepts. Verification of two records that agree but for the salt
and the digits of the key fails alike and logs the same, or it succeeds for both, and then what is
logged of the two differs only if the verdicts do. -/
theorem logs_tell_only_the_match (h : Hasher) :
    (∀ (password₁ password₂ : List UInt8) (salt₁ salt₂ : String),
        password₁ ≠ [] → usableSalt salt₁ → password₂ ≠ [] → usableSalt salt₂ →
          (h.hashWithSalt password₁ salt₁).events = (h.hashWithSalt password₂ salt₂).events) ∧
      ∀ (front : List (List Char)) (length : Nat) (record₁ record₂ : Record),
        record₁.Shows front length → record₂.Shows front length →
          ∀ password₁ password₂ : List UInt8,
            let first := h.verify password₁ record₁
            let second := h.verify password₂ record₂
            (∃ failure, first.answer = .error failure ∧ second.answer = .error failure ∧
                first.events = second.events) ∨
              ∃ isMatch₁ isMatch₂, first.answer = .ok isMatch₁ ∧ second.answer = .ok isMatch₂ ∧
                (isMatch₁ = isMatch₂ → first.events = second.events) := by
  constructor
  · intro password₁ password₂ salt₁ salt₂ hPassword₁ hSalt₁ hPassword₂ hSalt₂
    rcases h.hashWithSalt_cases password₁ salt₁ with ⟨_, hFirst⟩ | ⟨hNot, -⟩
    · rcases h.hashWithSalt_cases password₂ salt₂ with ⟨_, hSecond⟩ | ⟨hNot, -⟩
      · rw [hFirst, hSecond]
      · exact absurd ⟨hPassword₂, hSalt₂⟩ hNot
    · exact absurd ⟨hPassword₁, hSalt₁⟩ hNot
  · intro front length record₁ record₂ hShows₁ hShows₂ password₁ password₂
    rcases h.verify_of_shows front length with ⟨failure, events, hAll⟩ | ⟨events, hAll⟩
    · refine .inl ⟨failure, ?_⟩
      rw [hAll record₁ password₁ hShows₁, hAll record₂ password₂ hShows₂]
      exact ⟨rfl, rfl, rfl⟩
    · obtain ⟨isMatch₁, hFirst⟩ := hAll record₁ password₁ hShows₁
      obtain ⟨isMatch₂, hSecond⟩ := hAll record₂ password₂ hShows₂
      refine .inr ⟨isMatch₁, isMatch₂, ?_⟩
      rw [hFirst, hSecond]
      exact ⟨rfl, rfl, congrArg events⟩

/-- Two records that show the same and share neither salt nor key. -/
def zerosAndOnes : Record × Record :=
  (⟨"scrypt:ln=1,r=1,p=1:salt:00000000000000000000000000000000"⟩,
    ⟨"scrypt:ln=1,r=1,p=1:a longer salt:FFFFFFFFFFFFFFFFffffffffffffffff"⟩)

/-- Two passwords are hashed with one event, and two records of a low cost are both compared, with
one event if both or neither match. -/
theorem testing_logs_tell_only_the_match :
    let front := ["scrypt".toList, "ln=1,r=1,p=1".toList]
    let first := testing.verify [0x70] zerosAndOnes.1
    let second := testing.verify [] zerosAndOnes.2
    (testing.hashWithSalt [0x70] "salt").events = (testing.hashWithSalt [0x71] "a,b=c").events ∧
      zerosAndOnes.1.Shows front 16 ∧ zerosAndOnes.2.Shows front 16 ∧
      ∃ isMatch₁ isMatch₂, first.answer = .ok isMatch₁ ∧ second.answer = .ok isMatch₂ ∧
        (isMatch₁ = isMatch₂ → first.events = second.events) := by
  intro front first second
  have hZeros : zerosAndOnes.1.Shows front 16 :=
    ⟨"salt".toList, List.replicate 32 '0', List.replicate 16 0, by decide, by decide,
      ⟨by decide, by decide, Hex.decode_eq_ok_iff.mp (by decide +kernel), by decide, by decide⟩,
      by decide⟩
  have hOnes : zerosAndOnes.2.Shows front 16 :=
    ⟨"a longer salt".toList, List.replicate 16 'F' ++ List.replicate 16 'f',
      List.replicate 16 0xff, by decide, by decide,
      ⟨by decide, by decide, Hex.decode_eq_ok_iff.mp (by decide +kernel), by decide, by decide⟩,
      by decide⟩
  obtain ⟨hHash, hVerify⟩ := logs_tell_only_the_match testing
  refine ⟨hHash _ _ _ _ (by decide) (by decide) (by decide) (by decide), hZeros, hOnes, ?_⟩
  rcases hVerify front 16 _ _ hZeros hOnes [0x70] [] with ⟨failure, hFailure, -⟩ | hCompared
  · have hParse : zerosAndOnes.1.parse =
        .ok ⟨.selfDescribing, ⟨1, 1, 1⟩, "salt", List.replicate 16 0⟩ := by decide +kernel
    have hUsable : ¬ Cost.Unusable ⟨1, 1, 1⟩ := Cost.fault?_eq_none_iff.mp rfl
    have hAnswer := testing.verify_of_fits [0x70] hParse hUsable (by decide)
    rw [hAnswer] at hFailure
    cases hFailure
  · exact hCompared

end Hasher

end PasswordHashing
