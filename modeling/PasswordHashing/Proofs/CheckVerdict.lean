import PasswordHashing.Check.Run
import PasswordHashing.Proofs.CurrentRecords
import PasswordHashing.Proofs.PermitConservation
import PasswordHashing.Proofs.PolicyAcceptance

/-! The verdict of a check. A mismatch and a failure end with the same status, so that the line
printed is what tells them apart: it is there exactly if the hasher compared keys. Whatever else a
run writes are events, and those of the library are never taken for the program's own. -/
namespace PasswordHashing

/-- Only the library has logged anything. -/
def Logged.IsLibrary {α : Type} (result : Logged α) : Prop :=
  ∀ e ∈ result.events, e.source = .library

theorem Logged.isLibrary_silent {α : Type} (answer : α) : (Logged.silent answer).IsLibrary := by
  intro e hMem
  cases hMem

theorem Logged.isLibrary_singleton {α : Type} (answer : α) {e : Event}
    (hLibrary : e.source = .library) : (⟨answer, [e]⟩ : Logged α).IsLibrary := by
  intro other hMem
  obtain rfl := List.mem_singleton.mp hMem
  exact hLibrary

theorem Failure.isLibrary_logged {α : Type} (f : Failure) :
    (f.logged : Logged (Except Failure α)).IsLibrary := by
  apply Logged.isLibrary_singleton
  cases f <;> rfl

/-- All that verifying logs is an event of the library, whatever becomes of it. -/
theorem Hasher.isLibrary_verify (h : Hasher) (password : List UInt8) (record : Record) :
    (h.verify password record).IsLibrary := by
  rw [h.verify_eq]
  split
  · exact Failure.isLibrary_logged _
  · split
    · exact Failure.isLibrary_logged _
    · exact Logged.isLibrary_singleton _ rfl

theorem Hasher.isLibrary_ofPolicy (policy : Policy) : (Hasher.ofPolicy policy).IsLibrary := by
  rw [Hasher.ofPolicy]
  split
  · exact Logged.isLibrary_silent _
  · exact Failure.isLibrary_logged _

namespace Settings

variable {given given' : String → Option String} {settings : Settings}

theorem exists_of_bind_eq_ok {ε α β : Type} {x : Except ε α} {f : α → Except ε β} {b : β}
    (hBind : (x >>= f) = .ok b) : ∃ a, x = .ok a ∧ f a = .ok b := by
  cases x with
  | error fault => cases hBind
  | ok a => exact ⟨a, rfl, hBind⟩

/-- The variables of the policy and of the pool. -/
def setupNames : List String :=
  ["CREDENTIAL_WORK_FACTOR", "CREDENTIAL_BLOCK_SIZE", "CREDENTIAL_PARALLELISM",
    "CREDENTIAL_MAX_MEMORY", "CREDENTIAL_FORMAT", "CREDENTIAL_MAX_IN_FLIGHT"]

/-- The variables that settings are read from, but for the one of the record. -/
def names : List String :=
  setupNames ++ ["CREDENTIAL_PASSWORD", "BSKY_TEST_PASSWORD"]

/-- The variable of the record decides on the record alone. -/
theorem ofVariables_of_agree (hAgree : ∀ name ∈ names, given' name = given name) :
    ofVariables given' =
      (fun settings => { settings with record := recordIn given' }) <$> ofVariables given := by
  simp only [names, setupNames, List.forall_mem_append, List.forall_mem_cons] at hAgree
  simp only [ofVariables, numberIn, layoutIn, passwordIn, hAgree, map_bind, map_pure]

theorem record_of_ofVariables (hSettings : ofVariables given = .ok settings) :
    settings.record = recordIn given := by
  have hSame := ofVariables_of_agree fun name (_ : name ∈ names) => (rfl : given name = given name)
  rw [hSettings] at hSame
  exact congrArg record (Except.ok.inj hSame)

/-- A record is taken without the blanks at its ends, and only if something is left. -/
theorem recordIn_of_text {value : String} (hValue : given "CREDENTIAL_RECORD" = some value)
    (hBlank : Text.trim value.toList ≠ []) :
    recordIn given = some ⟨String.ofList (Text.trim value.toList)⟩ := by
  rw [recordIn, hValue]
  dsimp only
  split
  · contradiction
  · rfl

end Settings

namespace Check

/-- The note that a record should be replaced. -/
def outdatedNote : Output :=
  note "Stored record uses outdated parameters, rehash on next login" []

/-- The lines of a report and its ending, and whether it notes an outdated record. -/
structure Report.Says (r : Report) (lines : List String) (ending : Ending) (outdated : Prop) :
    Prop where
  lines : r.lines = lines
  ending : r.ending = ending
  outdated : outdatedNote ∈ r.output ↔ outdated

variable {r : Report} {lines : List String} {ending : Ending} {outdated : Prop}

/-- The status is zero for a run that ends well, and one for any other. -/
theorem Report.Says.exitCode (hSays : r.Says lines ending outdated) :
    r.exitCode = if ending = .success then 0 else 1 := by
  rw [Report.exitCode, hSays.ending]
  cases ending <;> rfl

theorem Report.lines_after_events (r : Report) (events : List Event) :
    (r.after (events.map .event)).lines = r.lines := by
  induction events with
  | nil => rfl
  | cons e events ih => exact ih

/-- Events of the library before a report change nothing of what it says. -/
theorem Report.Says.after_events (hSays : r.Says lines ending outdated) {events : List Event}
    (hLibrary : ∀ e ∈ events, e.source = .library) :
    (r.after (events.map .event)).Says lines ending outdated := by
  refine ⟨by rw [r.lines_after_events, hSays.lines], hSays.ending, ?_⟩
  rw [← hSays.outdated, after, List.mem_append, or_iff_right]
  intro hMem
  obtain ⟨e, hEvent, hNote⟩ := List.mem_map.mp hMem
  obtain rfl := Output.event.inj hNote
  cases hLibrary _ hEvent

/-- No note changes what a report says but the one of an outdated record. -/
theorem Report.Says.after_note (hSays : r.Says lines ending outdated) {message : String}
    {fields : List (String × String)} (hOther : note message fields ≠ outdatedNote) :
    (r.after [note message fields]).Says lines ending outdated := by
  refine ⟨?_, hSays.ending, ?_⟩
  · exact (r.lines_after_events [⟨.program, .info, message, fields⟩]).trans hSays.lines
  · rw [← hSays.outdated, after, List.mem_append, List.mem_singleton, or_iff_right hOther.symm]

/-- A line that is printed first stands first among the lines. -/
theorem Report.Says.after_line (hSays : r.Says lines ending outdated) (text : String) :
    (r.after [.line text]).Says (text :: lines) ending outdated := by
  refine ⟨congrArg (text :: ·) hSays.lines, hSays.ending, ?_⟩
  rw [← hSays.outdated, after, List.mem_append, List.mem_singleton]
  exact or_iff_right (by simp [outdatedNote, note])

theorem says_failed (fault : Fault) : (failed fault).Says [] (.failed fault) False :=
  ⟨rfl, rfl, by simp [failed]⟩

section Proceed

variable {α : Type} {result : Logged (Except Failure α)} {next : α → Report}

/-- After an operation that succeeds a run says what its continuation says. -/
theorem says_proceed (hLibrary : result.IsLibrary) {answer : α}
    (hAnswer : result.answer = .ok answer) (hNext : (next answer).Says lines ending outdated) :
    (proceed result next).Says lines ending outdated := by
  rw [proceed, hAnswer]
  exact hNext.after_events hLibrary

/-- An operation that fails ends the run with its failure, before any line. -/
theorem says_proceed_failed (hLibrary : result.IsLibrary) {failure : Failure}
    (hAnswer : result.answer = .error failure) :
    (proceed result next).Says [] (.failed (.failure failure)) False := by
  rw [proceed, hAnswer]
  exact (says_failed _).after_events hLibrary

end Proceed

section VerifyStored

variable {pool : Pool} {password : Password} {record : Record}

/-- After a match nothing can fail any more: a record that was verified can also be judged. -/
theorem says_verifyStored_match
    (hVerify : (pool.hasher.verify password.bytes record).answer = .ok true) :
    ∃ outdated, pool.hasher.needsRehash record = .ok outdated ∧
      (verifyStored pool password record).Says ["match"] .success (outdated = true) := by
  have hReadable : ∀ fault,
      (pool.hasher.verify password.bytes record).answer ≠ .error (.malformedRecord fault) := by
    simp [hVerify]
  obtain ⟨fields, hParse⟩ := Hasher.exists_parse_of_verify hReadable
  have hNeeds := Hasher.needsRehash_of_parse (h := pool.hasher) hParse
  refine ⟨_, hNeeds, ?_⟩
  rw [verifyStored, pool.verify_eq]
  refine says_proceed (pool.hasher.isLibrary_verify _ _) hVerify ?_
  rw [if_pos rfl, hNeeds]
  refine ⟨?_, rfl, ?_⟩
  · dsimp only
    split <;> rfl
  · simp [outdatedNote, note]

/-- A password that does not match is told so in one line. Whether the record is out of date is not
asked. -/
theorem says_verifyStored_noMatch
    (hVerify : (pool.hasher.verify password.bytes record).answer = .ok false) :
    (verifyStored pool password record).Says ["no-match"] .mismatch False := by
  rw [verifyStored, pool.verify_eq]
  exact says_proceed (pool.hasher.isLibrary_verify _ _) hVerify
    ⟨rfl, rfl, by simp [outdatedNote, note]⟩

/-- A record that cannot be verified has no verdict: nothing is printed, and the run fails. -/
theorem says_verifyStored_failed {failure : Failure}
    (hVerify : (pool.hasher.verify password.bytes record).answer = .error failure) :
    (verifyStored pool password record).Says [] (.failed (.failure failure)) False := by
  rw [verifyStored, pool.verify_eq]
  exact says_proceed_failed (pool.hasher.isLibrary_verify _ _) hVerify

end VerifyStored

/-- The variables give settings, and these a hasher and a pool. -/
structure Ready (env : Environment) (settings : Settings) (pool : Pool) : Prop where
  ofVariables : Settings.ofVariables env.text = .ok settings
  ofPolicy : (Hasher.ofPolicy settings.policy).answer = .ok pool.hasher
  ofHasher : Pool.ofHasher pool.hasher settings.maxInFlight = .ok pool

variable {env : Environment} {settings : Settings} {pool : Pool} {entropy : Entropy}

/-- The variables decide settings and pool, so that one may speak of the settings of a run. -/
theorem Ready.unique {settings' : Settings} {pool' : Pool} (hReady : Ready env settings pool)
    (hReady' : Ready env settings' pool') : settings' = settings ∧ pool' = pool := by
  have hSettings := hReady'.ofVariables
  rw [hReady.ofVariables] at hSettings
  obtain rfl := Except.ok.inj hSettings
  have hHasher := hReady'.ofPolicy
  rw [hReady.ofPolicy, Except.ok.injEq] at hHasher
  have hPool := hReady'.ofHasher
  rw [← hHasher, hReady.ofHasher] at hPool
  exact ⟨rfl, (Except.ok.inj hPool).symm⟩

/-- What holds of every setup of a run holds of the one it has. -/
theorem Ready.forall_iff (hReady : Ready env settings pool) {P : Settings → Pool → Prop} :
    (∀ settings pool, Ready env settings pool → P settings pool) ↔ P settings pool := by
  constructor
  · exact fun hAll => hAll settings pool hReady
  · rintro hHolds settings' pool' hReady'
    obtain ⟨rfl, rfl⟩ := hReady.unique hReady'
    exact hHolds

theorem Ready.exists_iff (hReady : Ready env settings pool) {P : Settings → Pool → Prop} :
    (∃ settings pool, Ready env settings pool ∧ P settings pool) ↔ P settings pool := by
  constructor
  · rintro ⟨settings', pool', hReady', hHolds⟩
    obtain ⟨rfl, rfl⟩ := hReady.unique hReady'
    exact hHolds
  · exact fun hHolds => ⟨settings, pool, hReady, hHolds⟩

def runReady (settings : Settings) (pool : Pool) (entropy : Entropy) : Report :=
  match settings.record with
  | some record => verifyStored pool settings.password record
  | none => hashFresh pool settings.password entropy

/-- A run whose setup succeeds says what follows the setup. The note of the hasher is not one of an
outdated record. -/
theorem Ready.says_runIn (hReady : Ready env settings pool)
    (hSays : (runReady settings pool entropy).Says lines ending outdated) :
    (runIn env entropy).Says lines ending outdated := by
  rw [runIn, hReady.ofVariables]
  refine says_proceed (Hasher.isLibrary_ofPolicy _) hReady.ofPolicy ?_
  simp only [hReady.ofHasher]
  exact hSays.after_note (by simp [note, outdatedNote])

/-- A run that is not ready fails without a word. It has not hashed anything either. -/
theorem says_runIn_failed (hNot : ¬ ∃ settings pool, Ready env settings pool) (entropy : Entropy) :
    ∃ fault, fault ≠ .unverified ∧ (runIn env entropy).Says [] (.failed fault) False := by
  rw [runIn]
  cases hSettings : Settings.ofVariables env.text with
  | error fault => exact ⟨.settings fault, by simp, says_failed _⟩
  | ok settings =>
      have hLibrary := Hasher.isLibrary_ofPolicy settings.policy
      cases hHasher : (Hasher.ofPolicy settings.policy).answer with
      | error failure =>
          exact ⟨.failure failure, by simp, says_proceed_failed hLibrary hHasher⟩
      | ok hasher =>
          cases hPool : Pool.ofHasher hasher settings.maxInFlight with
          | error failure =>
              refine ⟨.failure failure, by simp, says_proceed hLibrary hHasher ?_⟩
              simp only [hPool]
              exact (says_failed _).after_note (by simp [note, outdatedNote])
          | ok pool =>
              obtain ⟨rfl, -⟩ := Pool.ofHasher_eq_ok_iff.mp hPool
              exact absurd ⟨settings, pool, hSettings, hHasher, hPool⟩ hNot

/-- The three ends of a check for which all is ready. -/
theorem Ready.verdict (hReady : Ready env settings pool) {stored : Record}
    (hStored : settings.record = some stored) (entropy : Entropy) :
    ((pool.hasher.verify settings.password.bytes stored).answer = .ok true ∧
        ∃ outdated, pool.hasher.needsRehash stored = .ok outdated ∧
          (runIn env entropy).Says ["match"] .success (outdated = true)) ∨
      ((pool.hasher.verify settings.password.bytes stored).answer = .ok false ∧
        (runIn env entropy).Says ["no-match"] .mismatch False) ∨
      ∃ failure, (pool.hasher.verify settings.password.bytes stored).answer = .error failure ∧
        (runIn env entropy).Says [] (.failed (.failure failure)) False := by
  have hStage : runReady settings pool entropy = verifyStored pool settings.password stored := by
    rw [runReady, hStored]
  cases hVerify : (pool.hasher.verify settings.password.bytes stored).answer with
  | ok isMatch =>
      cases isMatch with
      | true =>
          obtain ⟨outdated, hNeeds, hSays⟩ := says_verifyStored_match hVerify
          exact .inl ⟨rfl, outdated, hNeeds, hReady.says_runIn (hStage ▸ hSays)⟩
      | false =>
          have hSays := says_verifyStored_noMatch hVerify
          exact .inr (.inl ⟨rfl, hReady.says_runIn (hStage ▸ hSays)⟩)
  | error failure =>
      have hSays := says_verifyStored_failed hVerify
      exact .inr (.inr ⟨failure, rfl, hReady.says_runIn (hStage ▸ hSays)⟩)

/-- A check of a stored record comes to one of three ends. It prints one of two lines exactly if the
variables give a hasher and a pool, and the hasher compares the keys: `match` with status zero, or
`no-match` with status one. For whatever other reason it ends, it prints no line at all, and its
status is one. A record that matches is noted as outdated exactly if the hasher would replace it,
which it can always tell by then. -/
theorem verdict_of_stored_record {value : String}
    (hValue : env.text "CREDENTIAL_RECORD" = some value) (hBlank : Text.trim value.toList ≠ [])
    (entropy : Entropy) :
    let stored : Record := ⟨String.ofList (Text.trim value.toList)⟩
    let report := run env none entropy
    (report.lines = ["match"] ∧ report.exitCode = 0 ↔
        ∃ settings pool, Ready env settings pool ∧
          (pool.hasher.verify settings.password.bytes stored).answer = .ok true) ∧
      (report.lines = ["no-match"] ∧ report.exitCode = 1 ↔
        ∃ settings pool, Ready env settings pool ∧
          (pool.hasher.verify settings.password.bytes stored).answer = .ok false) ∧
      (report.lines = [] ∧ report.exitCode = 1 ↔
        ∀ settings pool, Ready env settings pool →
          ∃ failure, (pool.hasher.verify settings.password.bytes stored).answer = .error failure) ∧
      (outdatedNote ∈ report.output ↔ report.lines = ["match"] ∧
        ∃ settings pool, Ready env settings pool ∧ pool.hasher.needsRehash stored = .ok true) ∧
      ∀ settings pool, Ready env settings pool →
        (pool.hasher.verify settings.password.bytes stored).answer = .ok true →
          ∃ outdated, pool.hasher.needsRehash stored = .ok outdated := by
  intro stored report
  by_cases hSome : ∃ settings pool, Ready env settings pool
  · obtain ⟨settings, pool, hReady⟩ := hSome
    have hStored : settings.record = some stored := by
      rw [Settings.record_of_ofVariables hReady.ofVariables,
        Settings.recordIn_of_text hValue hBlank]
    simp only [hReady.exists_iff, hReady.forall_iff]
    rcases hReady.verdict hStored entropy with
      ⟨hVerify, outdated, hNeeds, hSays⟩ | ⟨hVerify, hSays⟩ | ⟨failure, hVerify, hSays⟩
    · change report.Says _ _ _ at hSays
      simp [Report.exitCode, hSays.lines, hSays.ending, hSays.outdated, hVerify, hNeeds]
    · change report.Says _ _ _ at hSays
      simp [Report.exitCode, hSays.lines, hSays.ending, hSays.outdated, hVerify]
    · change report.Says _ _ _ at hSays
      simp [Report.exitCode, hSays.lines, hSays.ending, hSays.outdated, hVerify]
  · obtain ⟨fault, -, hSays⟩ := says_runIn_failed hSome entropy
    change report.Says _ _ _ at hSays
    simp only [not_exists] at hSome
    simp [Report.exitCode, hSays.lines, hSays.ending, hSays.outdated, hSome]

def cheapRecord : Record :=
  ⟨"scrypt:ln=1,r=1,p=1:salt:00000000000000000000000000000000"⟩

/-- With the same other variables, a text that is no record gets no verdict, and a record of a cost
that the hasher can afford gets one of the two. -/
theorem only_readable_record_has_verdict :
    let env (stored : String) : Environment := .ofBindings
      [("CREDENTIAL_PASSWORD", Utf8.encode "p"), ("CREDENTIAL_WORK_FACTOR", Utf8.encode " 1024\n"),
        ("CREDENTIAL_RECORD", Utf8.encode stored)]
    let report (stored : String) : Report := run (env stored) none fun n => Vector.replicate n 0
    ((report " not-a-record\n").lines = [] ∧ (report " not-a-record\n").exitCode = 1) ∧
      ∃ line ∈ ["match", "no-match"], (report cheapRecord.text).lines = [line] := by
  intro env report
  let pool : Pool := ⟨.testing, 4, by decide, by decide⟩
  let settings (stored : Record) : Settings := ⟨.testing, 4, ⟨[0x70], by decide⟩, some stored⟩
  have hHasher : (Hasher.ofPolicy .testing).answer = .ok pool.hasher :=
    Policy.ofPolicy_of_check_ok rfl
  constructor
  · have hMalformed : (env " not-a-record\n").text "CREDENTIAL_RECORD" = some " not-a-record\n" :=
      rfl
    have hReady : Ready (env " not-a-record\n") (settings ⟨"not-a-record"⟩) pool :=
      ⟨rfl, hHasher, rfl⟩
    obtain ⟨-, -, hFailure, -⟩ :=
      verdict_of_stored_record hMalformed (by decide) fun n => Vector.replicate n 0
    exact hFailure.mpr (hReady.forall_iff.mpr ⟨_, rfl⟩)
  · have hCheap : (env cheapRecord.text).text "CREDENTIAL_RECORD" = some cheapRecord.text := rfl
    have hReady : Ready (env cheapRecord.text) (settings cheapRecord) pool := ⟨rfl, hHasher, rfl⟩
    obtain ⟨hMatch, hNoMatch, -⟩ :=
      verdict_of_stored_record hCheap (by decide) fun n => Vector.replicate n 0
    have hParse : cheapRecord.parse =
        .ok ⟨.selfDescribing, ⟨1, 1, 1⟩, "salt", List.replicate 16 0⟩ := by decide +kernel
    have hUsable : ¬ Cost.Unusable ⟨1, 1, 1⟩ := Cost.fault?_eq_none_iff.mp rfl
    obtain ⟨isMatch, hVerify⟩ : ∃ isMatch,
        (Hasher.testing.verify [0x70] cheapRecord).answer = .ok isMatch := by
      rw [Hasher.testing.verify_of_fits [0x70] hParse hUsable (by decide)]
      exact ⟨_, rfl⟩
    rw [hReady.exists_iff] at hMatch hNoMatch
    cases isMatch with
    | true => exact ⟨"match", by simp, (hMatch.mpr hVerify).1⟩
    | false => exact ⟨"no-match", by simp, (hNoMatch.mpr hVerify).1⟩

end Check

end PasswordHashing
