import PasswordHashing.Proofs.CheckVerdict

/-! Two runs of the check program, the second of which is given what the first one printed. The
record goes through text on its way: it is printed on a line, set as a variable, trimmed and read.
Nothing of it is lost, since none of its characters is blank, and the settings of the second run are
those of the first but for the record. -/
namespace PasswordHashing

open Text (Unbroken)

/-- Fields without a blank make a text without one, if the delimiter is none. -/
theorem Text.unbroken_intercalate {delimiter : Char} {fields : List (List Char)}
    (hDelimiter : isBlank delimiter = false) (hFields : ∀ field ∈ fields, Unbroken field) :
    Unbroken ([delimiter].intercalate fields) := by
  intro c hMem
  rcases mem_of_mem_intercalate hMem with rfl | ⟨field, hField, hMem⟩
  · exact hDelimiter
  · exact hFields field hField c hMem

theorem Hex.unbroken_encode (bytes : List UInt8) : Unbroken (encode bytes) := by
  have hDigit : ∀ n : Fin 16, Text.isBlank (digit n) = false := by decide
  exact forall_mem_encode hDigit bytes

theorem Decimal.unbroken_render (n : Nat) : Unbroken (render n) := by
  intro c hMem
  have hDigit := digit?_of_mem_render hMem
  rw [digit?] at hDigit
  split at hDigit
  · rename_i hRange
    exact Text.isBlank_of_visible (by omega) (by omega)
  · simp at hDigit

theorem Cost.unbroken_chars (cost : Cost) : Unbroken cost.chars := by
  have hLogN : Unbroken ['l', 'n', '='] := by simp [Unbroken, Text.isBlank]
  have hBlockSize : Unbroken [',', 'r', '='] := by simp [Unbroken, Text.isBlank]
  have hParallelism : Unbroken [',', 'p', '='] := by simp [Unbroken, Text.isBlank]
  have hFactor := hLogN.append (Decimal.unbroken_render cost.logN.toNat)
  have hRows := (hFactor.append hBlockSize).append (Decimal.unbroken_render cost.blockSize.toNat)
  exact (hRows.append hParallelism).append (Decimal.unbroken_render cost.parallelism.toNat)

/-- Only the salt could bring a blank into a record. -/
theorem Fields.unbroken_chars {f : Fields} (hSalt : Unbroken f.salt.toList) :
    Unbroken f.chars := by
  have hTag : Unbroken algorithmTag := by simp [Unbroken, algorithmTag, Text.isBlank]
  have hKey := Hex.unbroken_encode f.key
  rw [chars]
  split
  · refine Text.unbroken_intercalate rfl ?_
    simp only [List.forall_mem_cons, List.not_mem_nil, false_implies, implies_true, and_true]
    exact ⟨hSalt, hKey⟩
  · refine Text.unbroken_intercalate rfl ?_
    simp only [List.forall_mem_cons, List.not_mem_nil, false_implies, implies_true, and_true]
    exact ⟨hTag, f.cost.unbroken_chars, hSalt, hKey⟩

namespace Hasher

variable {h : Hasher} {password : List UInt8} {record : Record}
  {draw : Vector UInt8 h.policy.saltLength.toNat}

/-- A record with a fresh salt is one unbroken line. -/
theorem unbroken_of_hash (hRecord : (h.hash password draw).answer = .ok record) :
    record.text.toList ≠ [] ∧ Unbroken record.text.toList := by
  obtain ⟨key, hCurrent, hEncode⟩ := isCurrent_of_hashWithSalt hRecord
  constructor
  · intro hNil
    have hParse := hCurrent.parse
    rw [Record.parse, hNil] at hParse
    cases hParse
  · rw [hEncode, Fields.encode, String.toList_ofList]
    apply Fields.unbroken_chars
    rw [saltOfDraw, String.toList_ofList]
    exact Hex.unbroken_encode draw.toList

/-- Hashing logs events of the library alone, so that the check program prints nothing for it. -/
theorem isLibrary_hashWithSalt (h : Hasher) (password : List UInt8) (salt : String) :
    (h.hashWithSalt password salt).IsLibrary := by
  obtain ⟨key, -, -, hHash⟩ := h.hashWithSalt_eq password salt
  rw [hHash]
  split
  · exact Logged.isLibrary_silent _
  · split
    · exact Logged.isLibrary_silent _
    · exact Logged.isLibrary_singleton _ rfl

end Hasher

namespace Check

variable {env : Environment} {settings : Settings} {pool : Pool} {entropy : Entropy}

/-- Without a record, a run that is ready prints a record that verifies at once. -/
theorem says_hashFresh {password : Password} {record : Record}
    (hHash : (pool.hasher.hash password.bytes (entropy _)).answer = .ok record) :
    (hashFresh pool password entropy).Says [record.text] .success False := by
  rw [hashFresh, pool.hash_eq]
  refine says_proceed (pool.hasher.isLibrary_hashWithSalt _ _) hHash ?_
  rw [pool.verify_eq]
  refine Report.Says.after_line ?_ record.text
  have hVerify := Hasher.verify_of_hashWithSalt hHash
  exact says_proceed (pool.hasher.isLibrary_verify _ _) hVerify
    ⟨rfl, rfl, by simp [note, outdatedNote]⟩

/-- Without a record a run that is set up prints the record it makes, and succeeds. The record that
was made verifies, so that no other ending is open. -/
theorem Ready.exists_fresh (hReady : Ready env settings pool) (hNone : settings.record = none)
    (entropy : Entropy) :
    ∃ record, (pool.hasher.hash settings.password.bytes (entropy _)).answer = .ok record ∧
      (runIn env entropy).Says [record.text] .success False := by
  obtain ⟨record, hHash⟩ :=
    pool.hasher.exists_hash settings.password.nonempty (entropy pool.hasher.policy.saltLength.toNat)
  have hStage : runReady settings pool entropy = hashFresh pool settings.password entropy := by
    rw [runReady, hNone]
  exact ⟨record, hHash, hReady.says_runIn (hStage ▸ says_hashFresh hHash)⟩

/-- Settings that differ in the record alone are ready together. -/
theorem Ready.of_agree {later : Environment} (hReady : Ready env settings pool)
    (hAgree : ∀ name ∈ Settings.names, later.text name = env.text name) :
    Ready later { settings with record := Settings.recordIn later.text } pool := by
  refine ⟨?_, hReady.ofPolicy, hReady.ofHasher⟩
  rw [Settings.ofVariables_of_agree hAgree, hReady.ofVariables]
  rfl

/-- No run ever finds that a record it just made does not verify. -/
theorem ending_ne_unverified (env : Environment) (file : Option (List UInt8))
    (entropy : Entropy) : (run env file entropy).ending ≠ .failed .unverified := by
  obtain ⟨env, hRun⟩ : ∃ applied, run env file entropy = runIn applied entropy := by
    cases file with
    | none => exact ⟨env, rfl⟩
    | some bytes => exact ⟨EnvFile.apply env bytes, rfl⟩
  rw [hRun]
  by_cases hSome : ∃ settings pool, Ready env settings pool
  · obtain ⟨settings, pool, hReady⟩ := hSome
    cases hRecord : settings.record with
    | none =>
        obtain ⟨record, -, hSays⟩ := hReady.exists_fresh hRecord entropy
        simp [hSays.ending]
    | some stored =>
        rcases hReady.verdict hRecord entropy with
          ⟨-, outdated, -, hSays⟩ | ⟨-, hSays⟩ | ⟨failure, -, hSays⟩
        · simp [hSays.ending]
        · simp [hSays.ending]
        · simp [hSays.ending]
  · obtain ⟨fault, hOther, hSays⟩ := says_runIn_failed hSome entropy
    simpa [hSays.ending] using hOther

/-- A run that is given its own record again prints `match` and has nothing to add. Of the three
ends of a check only this one is open to a record that verifies. -/
theorem Ready.says_later (hReady : Ready env settings pool) {later : Environment} {record : Record}
    (hHash : (pool.hasher.hash settings.password.bytes (entropy _)).answer = .ok record)
    (hRecord : later.text "CREDENTIAL_RECORD" = some record.text)
    (hAgree : ∀ name ∈ Settings.names, later.text name = env.text name) (entropy' : Entropy) :
    (runIn later entropy').Says ["match"] .success False := by
  obtain ⟨hNonempty, hUnbroken⟩ := Hasher.unbroken_of_hash hHash
  have hBlank : Text.trim record.text.toList ≠ [] := by rwa [hUnbroken.trim_eq]
  have hStored : Settings.recordIn later.text = some record := by
    rw [Settings.recordIn_of_text hRecord hBlank, hUnbroken.trim_eq, String.ofList_toList]
  have hVerify := Hasher.verify_of_hashWithSalt hHash
  obtain ⟨key, hCurrent, -⟩ := Hasher.isCurrent_of_hashWithSalt hHash
  have hNeeds := Hasher.needsRehash_eq_false_iff.mpr ⟨_, key, hCurrent⟩
  rcases (hReady.of_agree hAgree).verdict hStored entropy' with
    ⟨-, outdated, hOutdated, hSays⟩ | ⟨hOther, -⟩ | ⟨failure, hOther, -⟩
  · rw [hNeeds] at hOutdated
    obtain rfl := Except.ok.inj hOutdated
    simpa using hSays
  · rw [hVerify] at hOther
    cases hOther
  · rw [hVerify] at hOther
    cases hOther

/-- The check program closes the loop. Whenever all is ready and no record is given, whatever the
random bytes, a run prints one unbroken line and succeeds. With this line as the record and the
other variables as they were, every later run prints `match`, succeeds, and does not call the record
outdated; setting the variable leads to such a run. That a fresh record does not verify is never
found by any run. -/
theorem printed_record_matches_later (hReady : Ready env settings pool)
    (hNone : settings.record = none) (entropy : Entropy) :
    (∃ record : Record,
      let first := run env none entropy
      let again := env.set "CREDENTIAL_RECORD" (Utf8.encode record.text)
      (pool.hasher.hash settings.password.bytes (entropy _)).answer = .ok record ∧
        first.lines = [record.text] ∧ first.exitCode = 0 ∧
        record.text.toList ≠ [] ∧ Unbroken record.text.toList ∧
        (∀ later : Environment, later.text "CREDENTIAL_RECORD" = some record.text →
          (∀ name ∈ Settings.names, later.text name = env.text name) → ∀ entropy' : Entropy,
            let second := run later none entropy'
            second.lines = ["match"] ∧ second.exitCode = 0 ∧ outdatedNote ∉ second.output) ∧
        again.text "CREDENTIAL_RECORD" = some record.text ∧
        ∀ name ∈ Settings.names, again.text name = env.text name) ∧
      ∀ (env : Environment) file entropy, (run env file entropy).ending ≠ .failed .unverified := by
  refine ⟨?_, ending_ne_unverified⟩
  obtain ⟨record, hHash, hFirst⟩ := hReady.exists_fresh hNone entropy
  obtain ⟨hNonempty, hUnbroken⟩ := Hasher.unbroken_of_hash hHash
  refine ⟨record, hHash, hFirst.lines, hFirst.exitCode, hNonempty, hUnbroken, ?_, ?_, ?_⟩
  · intro later hRecord hAgree entropy' second
    have hSecond := hReady.says_later hHash hRecord hAgree entropy'
    exact ⟨hSecond.lines, hSecond.exitCode, hSecond.outdated.mp⟩
  · rw [Environment.text, Environment.value_set env (by decide), Option.bind_some,
      Utf8.decode_encode]
  · have hNames : ∀ name ∈ Settings.names,
        0x3d ∉ Utf8.encode name ∧ name ≠ "CREDENTIAL_RECORD" := by decide
    intro name hMem
    obtain ⟨hEquals, hOther⟩ := hNames name hMem
    rw [Environment.text, Environment.text,
      Environment.value_set_of_ne env (by decide) hEquals hOther]

/-- A run with a blank record makes one, and a run with that one finds it. -/
theorem testing_record_matches_later :
    let env : Environment := .ofBindings
      [("CREDENTIAL_PASSWORD", Utf8.encode "p"), ("CREDENTIAL_WORK_FACTOR", Utf8.encode " 1024\n"),
        ("CREDENTIAL_RECORD", Utf8.encode " \t")]
    ∃ record : Record,
      (run env none fun n => Vector.replicate n 0).lines = [record.text] ∧
        let again := env.set "CREDENTIAL_RECORD" (Utf8.encode record.text)
        (run again none fun n => Vector.replicate n 1).lines = ["match"] ∧
          (run again none fun n => Vector.replicate n 1).exitCode = 0 := by
  intro env
  let pool : Pool := ⟨.testing, 4, by decide, by decide⟩
  have hReady : Ready env ⟨.testing, 4, ⟨[0x70], by decide⟩, none⟩ pool :=
    ⟨rfl, Policy.ofPolicy_of_check_ok rfl, rfl⟩
  obtain ⟨⟨record, -, hLines, -, -, -, hLater, hRecord, hAgree⟩, -⟩ :=
    printed_record_matches_later hReady rfl fun n => Vector.replicate n 0
  obtain ⟨hMatch, hExit, -⟩ := hLater _ hRecord hAgree fun n => Vector.replicate n 1
  exact ⟨record, hLines, hMatch, hExit⟩

end Check

end PasswordHashing
