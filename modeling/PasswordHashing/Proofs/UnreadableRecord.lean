import PasswordHashing.Proofs.CheckLoop

/-! The variable of the record, as bytes. A value that is text, and not blank, is the record to
verify, and a run succeeds by verification alone. A value that is no text counts as absent although
the variable is set: a run that is asked to verify then makes a record of its own and succeeds. -/
namespace PasswordHashing

/-- A variable whose value is no text counts as one that is not set. -/
theorem Environment.text_of_value {env : Environment} {name : String} {bytes : List UInt8}
    (hValue : env.value name = some bytes) : env.text name = Utf8.decode bytes := by
  rw [Environment.text, hValue, Option.bind_some]

theorem Settings.recordIn_of_none {given : String → Option String}
    (hNone : given "CREDENTIAL_RECORD" = none) : recordIn given = none := by
  rw [recordIn, hNone]

namespace Check

def verdicts : List String := ["match", "no-match"]

/-- A record that can be read has a colon, which the verdicts have not. -/
theorem not_mem_verdicts_of_parse {record : Record} {fields : Fields}
    (hParse : record.parse = .ok fields) : record.text ∉ verdicts := by
  have hVerdicts : ∀ text ∈ verdicts, Record.parse ⟨text⟩ = .error (.fieldCount 1) := by decide
  intro hMem
  rw [hVerdicts record.text hMem] at hParse
  cases hParse

/-- No record that is made reads like a verdict: it holds a delimiter. -/
theorem not_mem_verdicts_of_hash {h : Hasher} {password : List UInt8}
    {draw : Vector UInt8 h.policy.saltLength.toNat} {made : Record}
    (hMade : (h.hash password draw).answer = .ok made) : made.text ∉ verdicts := by
  obtain ⟨key, hCurrent, -⟩ := Hasher.isCurrent_of_hashWithSalt hMade
  exact not_mem_verdicts_of_parse hCurrent.parse

variable {env : Environment} {settings : Settings} {pool : Pool}

/-- A run succeeds exactly if all is ready and the record, if it is given one, verifies. -/
theorem exitCode_eq_zero_iff (env : Environment) (entropy : Entropy) :
    (run env none entropy).exitCode = 0 ↔ ∃ settings pool, Ready env settings pool ∧
      ∀ stored, settings.record = some stored →
        (pool.hasher.verify settings.password.bytes stored).answer = .ok true := by
  rw [run]
  by_cases hSome : ∃ settings pool, Ready env settings pool
  · obtain ⟨settings, pool, hReady⟩ := hSome
    rw [hReady.exists_iff]
    cases hRecord : settings.record with
    | none =>
        obtain ⟨made, -, hSays⟩ := hReady.exists_fresh hRecord entropy
        simp [hSays.exitCode]
    | some stored =>
        rcases hReady.verdict hRecord entropy with
          ⟨hVerify, outdated, -, hSays⟩ | ⟨hVerify, hSays⟩ | ⟨failure, hVerify, hSays⟩
        · simp [hSays.exitCode, hVerify]
        · simp [hSays.exitCode, hVerify]
        · simp [hSays.exitCode, hVerify]
  · obtain ⟨fault, -, hSays⟩ := says_runIn_failed hSome entropy
    have hNone : ∀ settings pool, ¬ Ready env settings pool := by simpa using hSome
    simp [hSays.exitCode, hNone]

/-- A run that is given a record prints nothing but verdicts. -/
theorem lines_subset_verdicts {stored : Record} (hStored : Settings.recordIn env.text = some stored)
    (entropy : Entropy) : (run env none entropy).lines ⊆ verdicts := by
  rw [run]
  by_cases hSome : ∃ settings pool, Ready env settings pool
  · obtain ⟨settings, pool, hReady⟩ := hSome
    have hRecord : settings.record = some stored := by
      rw [Settings.record_of_ofVariables hReady.ofVariables, hStored]
    rcases hReady.verdict hRecord entropy with
      ⟨-, outdated, -, hSays⟩ | ⟨-, hSays⟩ | ⟨failure, -, hSays⟩
    · simp [hSays.lines, verdicts]
    · simp [hSays.lines, verdicts]
    · simp [hSays.lines]
  · obtain ⟨fault, -, hSays⟩ := says_runIn_failed hSome entropy
    simp [hSays.lines]

/-- A run with the variable set does not always verify. One byte that begins no character is enough
for a run that ends well without having verified anything. -/
theorem not_every_set_record_is_verified :
    ¬ ∀ (env : Environment) (bytes : List UInt8) (entropy : Entropy),
      env.value "CREDENTIAL_RECORD" = some bytes →
      (∀ text, Utf8.decode bytes = some text → Text.trim text.toList ≠ []) →
      (run env none entropy).exitCode = 0 →
        ∃ text settings pool, Utf8.decode bytes = some text ∧ Ready env settings pool ∧
          (pool.hasher.verify settings.password.bytes
            ⟨String.ofList (Text.trim text.toList)⟩).answer = .ok true := by
  intro hAll
  let env : Environment := .ofBindings
    [("CREDENTIAL_PASSWORD", Utf8.encode "p"), ("CREDENTIAL_WORK_FACTOR", Utf8.encode "1024"),
      ("CREDENTIAL_RECORD", [0xff])]
  let pool : Pool := ⟨.testing, 4, by decide, by decide⟩
  have hDecode : Utf8.decode [0xff] = none := by decide
  have hReady : Ready env ⟨.testing, 4, ⟨[0x70], by decide⟩, none⟩ pool :=
    ⟨rfl, Policy.ofPolicy_of_check_ok rfl, rfl⟩
  obtain ⟨made, -, hSays⟩ := hReady.exists_fresh rfl fun n => Vector.replicate n 0
  obtain ⟨text, settings, pool, hText, -⟩ :=
    hAll env [0xff] (fun n => Vector.replicate n 0) rfl (by simp [hDecode]) hSays.exitCode
  rw [hDecode] at hText
  cases hText

/-- Only a value that is no text lets a run succeed without verification. If the value of the
variable is text and not blank, the status is zero exactly if all is ready and the text verifies
without the blanks at its ends; nothing but verdicts is printed, and no record that any hasher makes
is among them. If the value is no text, all runs that are ready succeed, and each prints the record
that it has just made. -/
theorem unreadable_record_alone_fails_open {bytes : List UInt8}
    (hValue : env.value "CREDENTIAL_RECORD" = some bytes)
    (hBlank : ∀ text, Utf8.decode bytes = some text → Text.trim text.toList ≠ [])
    (entropy : Entropy) :
    let report := run env none entropy
    (∀ text, Utf8.decode bytes = some text →
        (report.exitCode = 0 ↔ ∃ settings pool, Ready env settings pool ∧
          (pool.hasher.verify settings.password.bytes
            ⟨String.ofList (Text.trim text.toList)⟩).answer = .ok true) ∧
        (∀ line ∈ report.lines, line = "match" ∨ line = "no-match") ∧
        ∀ (maker : Hasher) (password : List UInt8)
          (draw : Vector UInt8 maker.policy.saltLength.toNat) (made : Record),
          (maker.hash password draw).answer = .ok made → made.text ∉ report.lines) ∧
      (Utf8.decode bytes = none →
        (report.exitCode = 0 ↔ ∃ settings pool, Ready env settings pool) ∧
        ∀ settings pool, Ready env settings pool →
          ∃ made, (pool.hasher.hash settings.password.bytes (entropy _)).answer = .ok made ∧
            report.lines = [made.text]) := by
  intro report
  have hText : env.text "CREDENTIAL_RECORD" = Utf8.decode bytes := Environment.text_of_value hValue
  have hExit : report.exitCode = 0 ↔ _ := exitCode_eq_zero_iff env entropy
  have hRecord {settings : Settings} {pool : Pool} (hReady : Ready env settings pool) :
      settings.record = Settings.recordIn env.text :=
    Settings.record_of_ofVariables hReady.ofVariables
  constructor
  · intro text hDecode
    have hStored := Settings.recordIn_of_text (hText.trans hDecode) (hBlank text hDecode)
    have hLines := lines_subset_verdicts hStored entropy
    refine ⟨?_, fun line hMem => by simpa [verdicts] using hLines hMem,
      fun maker password draw made hMade hMem => not_mem_verdicts_of_hash hMade (hLines hMem)⟩
    rw [hExit]
    refine exists_congr fun settings => exists_congr fun pool => and_congr_right fun hReady => ?_
    simp [hRecord hReady, hStored]
  · intro hDecode
    have hNone := Settings.recordIn_of_none (hText.trans hDecode)
    constructor
    · rw [hExit]
      refine exists_congr fun settings => exists_congr fun pool =>
        and_iff_left_of_imp fun hReady => ?_
      simp [hRecord hReady, hNone]
    · intro settings pool hReady
      obtain ⟨made, hMade, hSays⟩ := hReady.exists_fresh ((hRecord hReady).trans hNone) entropy
      exact ⟨made, hMade, hSays.lines⟩

/-- One unreadable byte for a record gives a fresh one, and a readable text that is no record
fails. -/
theorem testing_fails_open_on_one_byte :
    let env (record : List UInt8) : Environment := .ofBindings
      [("CREDENTIAL_PASSWORD", Utf8.encode "p"), ("CREDENTIAL_WORK_FACTOR", Utf8.encode "1024"),
        ("CREDENTIAL_RECORD", record)]
    let report (record : List UInt8) := run (env record) none fun n => Vector.replicate n 0
    (report [0xff]).exitCode = 0 ∧
      (∃ made, (Hasher.testing.hash (Utf8.encode "p") (Vector.replicate 16 0)).answer = .ok made ∧
        (report [0xff]).lines = [made.text]) ∧
      (report (Utf8.encode "not-a-record")).exitCode ≠ 0 := by
  intro env report
  let pool : Pool := ⟨.testing, 4, by decide, by decide⟩
  have hHasher : (Hasher.ofPolicy .testing).answer = .ok .testing :=
    Policy.ofPolicy_of_check_ok rfl
  have hReady : Ready (env [0xff]) ⟨.testing, 4, ⟨[0x70], by decide⟩, none⟩ pool :=
    ⟨rfl, hHasher, rfl⟩
  have hDecode : Utf8.decode [0xff] = none := by decide
  obtain ⟨hExit, hLines⟩ := (unreadable_record_alone_fails_open (rfl : (env [0xff]).value _ = _)
    (by simp [hDecode]) fun n => Vector.replicate n 0).2 hDecode
  refine ⟨hExit.mpr ⟨_, pool, hReady⟩, hLines _ pool hReady, ?_⟩
  let text := "not-a-record"
  have hValue : (env (Utf8.encode text)).value "CREDENTIAL_RECORD" = some (Utf8.encode text) := rfl
  have hText : Utf8.decode (Utf8.encode text) = some text := Utf8.decode_encode text
  have hBlank : ∀ given, Utf8.decode (Utf8.encode text) = some given →
      Text.trim given.toList ≠ [] := by
    intro given hGiven
    obtain rfl := Option.some.inj (hText.symm.trans hGiven)
    decide
  obtain ⟨⟨hVerified, -⟩, -⟩ := (unreadable_record_alone_fails_open hValue hBlank
    fun n => Vector.replicate n 0).1 text hText
  intro hZero
  obtain ⟨settings, pool, -, hVerify⟩ := hVerified hZero
  have hParse : Record.parse ⟨String.ofList (Text.trim text.toList)⟩ = .error (.fieldCount 1) := by
    decide
  rw [pool.hasher.verify_of_unreadable _ hParse] at hVerify
  cases hVerify

end Check

end PasswordHashing
