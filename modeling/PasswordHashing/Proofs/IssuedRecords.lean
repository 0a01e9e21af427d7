import PasswordHashing.Proofs.CheckLoop

/-! Records with a salt of the caller's choice, given to the check program. A salt may be any text
without a colon, and the program drops the blanks at the ends of the text that it is given. A record
ends with digits and a self-describing one begins with the algorithm, so that only a compact record
can lose something: the blanks that its salt begins with. -/
namespace PasswordHashing

/-- The salt that a record keeps when its text loses the blanks at its ends. -/
def Layout.trimmedSalt (layout : Layout) (salt : String) : String :=
  match layout with
  | .compact => String.ofList (Text.trimStart salt.toList)
  | .selfDescribing => salt

/-- Only in a compact record, which it begins, can a salt lose blanks. -/
theorem Layout.trimmedSalt_eq_self {layout : Layout} {salt : String}
    (hKept : layout = .compact → Text.trimStart salt.toList = salt.toList) :
    layout.trimmedSalt salt = salt := by
  cases layout with
  | compact => rw [trimmedSalt, hKept rfl, String.ofList_toList]
  | selfDescribing => rfl

theorem Layout.mem_of_mem_trimmedSalt {layout : Layout} {salt : String} {c : Char}
    (hMem : c ∈ (layout.trimmedSalt salt).toList) : c ∈ salt.toList := by
  cases layout with
  | compact =>
      rw [trimmedSalt, String.toList_ofList] at hMem
      exact (List.dropWhile_sublist _).mem hMem
  | selfDescribing => exact hMem

/-- A key and the delimiter before it hold no blank. -/
theorem Hex.unbroken_delimited (bytes : List UInt8) :
    Text.Unbroken (delimiter :: encode bytes) := by
  intro c hMem
  rcases List.mem_cons.mp hMem with rfl | hMem
  · rfl
  · exact unbroken_encode bytes c hMem

/-- Without the blanks at its ends a record still has the same layout, cost and key. Its end is
safe, since the delimiter before the key is no blank, nor is a digit of the key. -/
theorem Fields.trim_chars (f : Fields) :
    Text.trim f.chars = chars { f with salt := f.layout.trimmedSalt f.salt } := by
  obtain ⟨layout, cost, salt, key⟩ := f
  have hEnd := Hex.unbroken_delimited key
  cases layout with
  | compact =>
      have hChars (salt : String) : chars ⟨.compact, cost, salt, key⟩ =
          salt.toList ++ delimiter :: Hex.encode key := by
        simp [chars, List.intercalate]
      rw [hChars, hChars, Text.trim_append hEnd (by simp), Layout.trimmedSalt,
        String.toList_ofList]
  | selfDescribing =>
      have hTag : Text.Unbroken algorithmTag := by
        simp [Text.Unbroken, algorithmTag, Text.isBlank]
      have hChars : chars ⟨.selfDescribing, cost, salt, key⟩ =
          (algorithmTag ++ delimiter :: cost.chars ++ delimiter :: salt.toList) ++
            delimiter :: Hex.encode key := by
        simp [chars, List.intercalate]
      rw [hChars, Text.trim_append hEnd (by simp), List.append_assoc algorithmTag,
        hTag.trimStart_append (by simp [algorithmTag]), ← List.append_assoc, ← hChars]
      rfl

namespace Hasher

variable {h : Hasher} {salt : String} {key : List UInt8}

theorem policy_of_ofPolicy {p : Policy} (hMade : (ofPolicy p).answer = .ok h) : h.policy = p := by
  rw [ofPolicy] at hMade
  split at hMade
  · cases hMade
    rfl
  · cases hMade

def trimmedRecord (h : Hasher) (salt : String) (key : List UInt8) : Record :=
  Fields.encode ⟨h.policy.layout, h.cost, h.policy.layout.trimmedSalt salt, key⟩

/-- The record that a run is given is the issued one without the blanks at its ends. -/
theorem recordIn_of_issued {given : String → Option String}
    (hRecord : given "CREDENTIAL_RECORD" =
      some (Fields.encode ⟨h.policy.layout, h.cost, salt, key⟩).text) :
    Settings.recordIn given = some (h.trimmedRecord salt key) := by
  have hTrim := Fields.trim_chars ⟨h.policy.layout, h.cost, salt, key⟩
  have hText : (Fields.encode ⟨h.policy.layout, h.cost, salt, key⟩).text.toList =
      Fields.chars ⟨h.policy.layout, h.cost, salt, key⟩ := String.toList_ofList
  have hBlank :
      Text.trim (Fields.encode ⟨h.policy.layout, h.cost, salt, key⟩).text.toList ≠ [] := by
    rw [hText, hTrim, Fields.chars]
    split <;> simp [List.intercalate, algorithmTag]
  rw [Settings.recordIn_of_text hRecord hBlank, hText, hTrim]
  rfl

/-- If something is left of the salt, the trimmed record is current, with that salt. -/
theorem isCurrent_trimmedRecord (hColon : delimiter ∉ salt.toList)
    (hLength : key.length = h.policy.keyLength.toNat)
    (hKept : h.policy.layout.trimmedSalt salt ≠ "") :
    h.IsCurrent (h.trimmedRecord salt key) (h.policy.layout.trimmedSalt salt) key := by
  have hNonempty : (h.policy.layout.trimmedSalt salt).toList ≠ [] := by
    simpa using hKept
  have hFree : delimiter ∉ (h.policy.layout.trimmedSalt salt).toList :=
    fun hMem => hColon (Layout.mem_of_mem_trimmedSalt hMem)
  exact ⟨h.parse_record hNonempty hFree hLength, hLength⟩

/-- A salt of which nothing is left makes a malformed record. -/
theorem parse_trimmedRecord_of_blank (hSalt : salt.toList ≠ [])
    (hBlank : h.policy.layout.trimmedSalt salt = "") :
    (h.trimmedRecord salt key).parse = .error .emptySalt := by
  cases hLayout : h.policy.layout with
  | compact =>
      rw [trimmedRecord, hBlank, hLayout]
      have hText : (Fields.encode ⟨.compact, h.cost, "", key⟩).text.toList =
          [] ++ ':' :: Hex.encode key := by
        simp [Fields.encode, Fields.chars, List.intercalate, delimiter]
      have hKey := Hex.colon_not_mem_of_spells (Hex.spells_encode key)
      rw [Record.parse_eq_compact hText (by simp) hKey, Record.readShared, if_pos rfl]
  | selfDescribing =>
      rw [hLayout, Layout.trimmedSalt] at hBlank
      exact absurd (by rw [hBlank]; rfl) hSalt

end Hasher

namespace Settings

variable {given given' : String → Option String} {settings : Settings} {password : Password}

/-- Settings for another password and record. What was read of the setup is read again, since these
two come from variables of their own. -/
theorem ofVariables_of_password (hSetup : ofVariables given = .ok settings)
    (hAgree : ∀ name ∈ setupNames, given' name = given name)
    (hPassword : passwordIn given' = .ok password) :
    ofVariables given' =
      .ok { settings with password := password, record := recordIn given' } := by
  simp only [setupNames, List.forall_mem_cons] at hAgree
  obtain ⟨workFactor, hWorkFactor, hRest⟩ := exists_of_bind_eq_ok hSetup
  obtain ⟨blockSize, hBlockSize, hRest⟩ := exists_of_bind_eq_ok hRest
  obtain ⟨parallelism, hParallelism, hRest⟩ := exists_of_bind_eq_ok hRest
  obtain ⟨maxMemory, hMaxMemory, hRest⟩ := exists_of_bind_eq_ok hRest
  obtain ⟨layout, hLayout, hRest⟩ := exists_of_bind_eq_ok hRest
  obtain ⟨maxInFlight, hMaxInFlight, hRest⟩ := exists_of_bind_eq_ok hRest
  obtain ⟨_, -, hRest⟩ := exists_of_bind_eq_ok hRest
  cases hRest
  simp only [numberIn] at hWorkFactor hBlockSize hParallelism hMaxMemory hMaxInFlight
  simp only [layoutIn] at hLayout
  simp only [ofVariables, numberIn, layoutIn, hAgree, hWorkFactor, hBlockSize, hParallelism,
    hMaxMemory, hLayout, hMaxInFlight, hPassword]
  rfl

/-- The first variable for the password is the one that counts. -/
theorem passwordIn_of_text {text : String} (hText : given "CREDENTIAL_PASSWORD" = some text)
    (hNonempty : Utf8.encode text ≠ []) :
    passwordIn given = .ok ⟨Utf8.encode text, hNonempty⟩ := by
  rw [passwordIn, hText]
  simp [Password.ofBytes, hNonempty]

end Settings

namespace Check

/-- The environment has the setup that the given variables have, and this password and record. -/
structure Presents (env : Environment) (given : String → Option String) (password : String)
    (record : Record) : Prop where
  setup : ∀ name ∈ Settings.setupNames, env.text name = given name
  password : env.text "CREDENTIAL_PASSWORD" = some password
  record : env.text "CREDENTIAL_RECORD" = some record.text

variable {env : Environment} {given : String → Option String} {settings : Settings}
  {hasher : Hasher} {password salt : String} {record : Record}

/-- The settings with a password and a record presented are the earlier ones with these two put in.
All else is read from the same variables. -/
theorem Presents.ofVariables (hEnv : Presents env given password record)
    (hSetup : Settings.ofVariables given = .ok settings) (hPassword : Utf8.encode password ≠ []) :
    Settings.ofVariables env.text = .ok { settings with
      password := ⟨Utf8.encode password, hPassword⟩, record := Settings.recordIn env.text } :=
  Settings.ofVariables_of_password hSetup hEnv.setup
    (Settings.passwordIn_of_text hEnv.password hPassword)

/-- A bound that no pool can have ends the run before anything is verified. -/
theorem Presents.says_without_pool (hEnv : Presents env given password record)
    (hSetup : Settings.ofVariables given = .ok settings) (hPassword : Utf8.encode password ≠ [])
    (hBound : ¬ (0 < settings.maxInFlight.toNat ∧ settings.maxInFlight.toNat ≤ maxPermits))
    (entropy : Entropy) : ∃ fault, (run env none entropy).Says [] (.failed fault) False := by
  have hNot : ¬ ∃ settings pool, Ready env settings pool := by
    rintro ⟨_, pool, hReady⟩
    have hSame := hReady.ofVariables
    rw [hEnv.ofVariables hSetup hPassword, Except.ok.injEq] at hSame
    have hMax := (Pool.ofHasher_eq_ok_iff.mp hReady.ofHasher).2
    rw [← hSame] at hMax
    exact hBound ⟨hMax ▸ pool.positive, hMax ▸ pool.le_maxPermits⟩
  obtain ⟨fault, -, hSays⟩ := says_runIn_failed hNot entropy
  exact ⟨fault, hSays⟩

/-- The three ends of a run with the record of a salt: nothing is left of the salt, or what is left
gives the key of the whole salt, or it does not. -/
theorem Presents.says_issued {key : List UInt8}
    (hEnv : Presents env given password
      (Fields.encode ⟨hasher.policy.layout, hasher.cost, salt, key⟩))
    (hSetup : Settings.ofVariables given = .ok settings)
    (hHasher : (Hasher.ofPolicy settings.policy).answer = .ok hasher)
    (hPassword : Utf8.encode password ≠ []) (hSalt : Hasher.usableSalt salt)
    (hKey : hasher.cost.scrypt (Utf8.encode password) salt hasher.policy.keyLength.toNat = some key)
    (hBound : 0 < settings.maxInFlight.toNat ∧ settings.maxInFlight.toNat ≤ maxPermits)
    (entropy : Entropy) :
    let report := run env none entropy
    let kept := settings.policy.layout.trimmedSalt salt
    let keyOf := fun salt =>
      hasher.cost.scrypt (Utf8.encode password) salt hasher.policy.keyLength.toNat
    (kept = "" ∧ ∃ fault, report.Says [] (.failed fault) False) ∨
      (kept ≠ "" ∧ keyOf kept = keyOf salt ∧ report.Says ["match"] .success False) ∨
      (kept ≠ "" ∧ keyOf kept ≠ keyOf salt ∧ report.Says ["no-match"] .mismatch False) := by
  intro report kept keyOf
  let stored := hasher.trimmedRecord salt key
  let pool : Pool := ⟨hasher, settings.maxInFlight.toNat, hBound.1, hBound.2⟩
  have hReady : Ready env { settings with
      password := ⟨Utf8.encode password, hPassword⟩, record := Settings.recordIn env.text } pool :=
    ⟨hEnv.ofVariables hSetup hPassword, hHasher, Pool.ofHasher_eq_ok_iff.mpr ⟨rfl, rfl⟩⟩
  have hEnds :
      ((hasher.verify (Utf8.encode password) stored).answer = .ok true ∧ ∃ outdated,
        hasher.needsRehash stored = .ok outdated ∧
          report.Says ["match"] .success (outdated = true)) ∨
      ((hasher.verify (Utf8.encode password) stored).answer = .ok false ∧
        report.Says ["no-match"] .mismatch False) ∨
      ∃ failure, (hasher.verify (Utf8.encode password) stored).answer = .error failure ∧
        report.Says [] (.failed (.failure failure)) False :=
    hReady.verdict (Hasher.recordIn_of_issued hEnv.record) entropy
  have hPolicy := Hasher.policy_of_ofPolicy hHasher
  by_cases hKept : kept = ""
  · have hParse : stored.parse = .error .emptySalt :=
      Hasher.parse_trimmedRecord_of_blank hSalt.1 (by rwa [hPolicy])
    rw [hasher.verify_of_unreadable _ hParse] at hEnds
    rcases hEnds with ⟨hOther, -⟩ | ⟨hOther, -⟩ | ⟨failure, -, hSays⟩
    · cases hOther
    · cases hOther
    · exact .inl ⟨hKept, _, hSays⟩
  · have hCurrent : hasher.IsCurrent stored kept key := by
      have hLength := Scrypt.length_eq_of_derive hKey
      simpa only [hPolicy] using
        Hasher.isCurrent_trimmedRecord hSalt.2 hLength (by rwa [hPolicy])
    have hNeeds := Hasher.needsRehash_eq_false_iff.mpr ⟨_, key, hCurrent⟩
    rw [hCurrent.verify, ← hKey] at hEnds
    rcases hEnds with
      ⟨hSame, outdated, hOutdated, hSays⟩ | ⟨hOther, hSays⟩ | ⟨failure, hOther, -⟩
    · rw [hNeeds] at hOutdated
      obtain rfl := Except.ok.inj hOutdated
      refine .inr (.inl ⟨hKept, of_decide_eq_true (Except.ok.inj hSame), ?_⟩)
      simpa only [Bool.false_eq_true] using hSays
    · exact .inr (.inr ⟨hKept, of_decide_eq_false (Except.ok.inj hOther), hSays⟩)
    · cases hOther

/-- Setting the variable of the record leaves the setup and the password as they are. -/
theorem presents_set (hPassword : env.text "CREDENTIAL_PASSWORD" = some password)
    (record : Record) : Presents (env.set "CREDENTIAL_RECORD" (Utf8.encode record.text)) env.text
      password record := by
  have hKept {name : String} (hEquals : 0x3d ∉ Utf8.encode name)
      (hOther : name ≠ "CREDENTIAL_RECORD") :
      (env.set "CREDENTIAL_RECORD" (Utf8.encode record.text)).text name = env.text name := by
    rw [Environment.text, Environment.text,
      Environment.value_set_of_ne env (by decide) hEquals hOther]
  have hNames : ∀ name ∈ Settings.setupNames,
      0x3d ∉ Utf8.encode name ∧ name ≠ "CREDENTIAL_RECORD" := by decide
  refine ⟨?_, ?_, ?_⟩
  · intro name hMem
    exact hKept (hNames name hMem).1 (hNames name hMem).2
  · rw [hKept (by decide) (by decide), hPassword]
  · rw [Environment.text, Environment.value_set env (by decide), Option.bind_some,
      Utf8.decode_encode]

/-- Not every record that the library issues matches. Nothing is left of a salt that is a space, so
that the program finds the record malformed. -/
theorem not_every_issued_record_matches :
    ¬ ∀ (given : String → Option String) (settings : Settings) (hasher : Hasher)
        (password salt : String) (record : Record) (env : Environment) (entropy : Entropy),
      Settings.ofVariables given = .ok settings →
      (Hasher.ofPolicy settings.policy).answer = .ok hasher → password ≠ "" →
      '\x00' ∉ password.toList → '\x00' ∉ salt.toList →
      (hasher.hashWithSalt (Utf8.encode password) salt).answer = .ok record →
      Presents env given password record →
        let report := run env none entropy
        report.lines = ["match"] ∧ report.exitCode = 0 ∧ outdatedNote ∉ report.output := by
  intro hAll
  let env : Environment := .ofBindings
    [("CREDENTIAL_PASSWORD", Utf8.encode "p"), ("CREDENTIAL_FORMAT", Utf8.encode "compact")]
  let hasher : Hasher := ⟨.compact, .standard, rfl⟩
  have hSetup : Settings.ofVariables env.text =
      .ok ⟨.compact, 4, ⟨Utf8.encode "p", by decide⟩, none⟩ := rfl
  have hHasher : (Hasher.ofPolicy .compact).answer = .ok hasher :=
    Policy.ofPolicy_of_check_ok rfl
  have hSalt : Hasher.usableSalt " " := by decide
  obtain ⟨key, hKey, -, hRecord⟩ :=
    hasher.exists_hashWithSalt (Utf8.encode "p") (by decide) hSalt.1 hSalt.2
  have hText : env.text "CREDENTIAL_PASSWORD" = some "p" := rfl
  have hEnv := presents_set hText (Fields.encode ⟨.compact, .standard, " ", key⟩)
  have hMatch := (hAll env.text _ hasher "p" " " _ _ (fun n => Vector.replicate n 0) hSetup hHasher
    (by decide) (by decide) (by decide) hRecord hEnv).1
  rcases hEnv.says_issued hSetup hHasher (by decide) hSalt hKey (by decide) _ with
    ⟨-, fault, hSays⟩ | ⟨hKept, -⟩ | ⟨hKept, -⟩
  · rw [hSays.lines] at hMatch
    cases hMatch
  · exact hKept (by decide)
  · exact hKept (by decide)

/-- The check program accepts what the library issues, up to trimming. Whatever setup the program
can read and a hasher accepts, each password that is not empty has a record under each usable salt,
and no run that is given both calls it outdated. If a pool can have the bound, and the layout is
self-describing or the salt begins with no blank, the run prints `match` and succeeds. Otherwise the
salt decides that is left after trimming: the run matches exactly if it gives the key of the whole
salt. A run fails without a line if nothing is left, or if there is no pool. -/
theorem issued_record_matches_unless_trimmed
    (hSetup : Settings.ofVariables given = .ok settings)
    (hHasher : (Hasher.ofPolicy settings.policy).answer = .ok hasher)
    (hPassword : password ≠ "") (hSalt : Hasher.usableSalt salt) :
    ∃ record, (hasher.hashWithSalt (Utf8.encode password) salt).answer = .ok record ∧
      ∀ env, Presents env given password record → ∀ entropy,
        let report := run env none entropy
        let bounded := 0 < settings.maxInFlight.toNat ∧ settings.maxInFlight.toNat ≤ maxPermits
        let kept := settings.policy.layout.trimmedSalt salt
        let key := fun salt =>
          hasher.cost.scrypt (Utf8.encode password) salt hasher.policy.keyLength.toNat
        outdatedNote ∉ report.output ∧
          (bounded →
            (settings.policy.layout = .compact → Text.trimStart salt.toList = salt.toList) →
            report.lines = ["match"] ∧ report.exitCode = 0) ∧
          (bounded → kept ≠ "" → key kept = key salt →
            report.lines = ["match"] ∧ report.exitCode = 0) ∧
          (bounded → kept ≠ "" → key kept ≠ key salt →
            report.lines = ["no-match"] ∧ report.exitCode = 1) ∧
          (¬ bounded ∨ kept = "" → report.lines = [] ∧ report.exitCode = 1) := by
  have hBytes : Utf8.encode password ≠ [] :=
    fun hNil => hPassword (Utf8.encode_injective hNil)
  obtain ⟨issued, hKey, -, hRecord⟩ :=
    hasher.exists_hashWithSalt (Utf8.encode password) hBytes hSalt.1 hSalt.2
  refine ⟨_, hRecord, fun env hEnv entropy => ?_⟩
  intro report bounded kept key
  have hWhole (hStart : settings.policy.layout = .compact →
      Text.trimStart salt.toList = salt.toList) : kept ≠ "" ∧ key kept = key salt := by
    rw [show kept = salt from Layout.trimmedSalt_eq_self hStart]
    exact ⟨fun hNil => hSalt.1 (by rw [hNil]; rfl), rfl⟩
  by_cases hBound : bounded
  · have hPool (hSome : kept ≠ "") : ¬ (¬ bounded ∨ kept = "") :=
      not_or_intro (not_not_intro hBound) hSome
    rcases hEnv.says_issued hSetup hHasher hBytes hSalt hKey hBound entropy with
      ⟨hNil, fault, hSays⟩ | ⟨hSome, hSame, hSays⟩ | ⟨hSome, hOther, hSays⟩
    · exact ⟨hSays.outdated.mp, fun _ hStart => absurd hNil (hWhole hStart).1,
        fun _ hSome => absurd hNil hSome, fun _ hSome => absurd hNil hSome,
        fun _ => ⟨hSays.lines, hSays.exitCode⟩⟩
    · have hMatch : report.lines = ["match"] ∧ report.exitCode = 0 :=
        ⟨hSays.lines, hSays.exitCode⟩
      exact ⟨hSays.outdated.mp, fun _ _ => hMatch, fun _ _ _ => hMatch,
        fun _ _ hOther => absurd hSame hOther, fun hNone => absurd hNone (hPool hSome)⟩
    · exact ⟨hSays.outdated.mp, fun _ hStart => absurd (hWhole hStart).2 hOther,
        fun _ _ hSame => absurd hSame hOther, fun _ _ _ => ⟨hSays.lines, hSays.exitCode⟩,
        fun hNone => absurd hNone (hPool hSome)⟩
  · obtain ⟨fault, hSays⟩ := hEnv.says_without_pool hSetup hBytes hBound entropy
    exact ⟨hSays.outdated.mp, fun hSome => absurd hSome hBound, fun hSome => absurd hSome hBound,
      fun hSome => absurd hSome hBound, fun _ => ⟨hSays.lines, hSays.exitCode⟩⟩

/-- A compact record keeps the blank that its salt ends with. -/
theorem compact_record_with_blank_matches :
    let env : Environment := .ofBindings
      [("CREDENTIAL_PASSWORD", Utf8.encode "p"), ("CREDENTIAL_FORMAT", Utf8.encode "compact")]
    let hasher : Hasher := ⟨.compact, .standard, rfl⟩
    ∃ record, (hasher.hashWithSalt (Utf8.encode "p") "a,b\n").answer = .ok record ∧
      let checked := env.set "CREDENTIAL_RECORD" (Utf8.encode record.text)
      (run checked none fun n => Vector.replicate n 0).lines = ["match"] ∧
        (run checked none fun n => Vector.replicate n 0).exitCode = 0 := by
  intro env hasher
  have hSetup : Settings.ofVariables env.text =
      .ok ⟨.compact, 4, ⟨Utf8.encode "p", by decide⟩, none⟩ := rfl
  have hHasher : (Hasher.ofPolicy .compact).answer = .ok hasher :=
    Policy.ofPolicy_of_check_ok rfl
  have hText : env.text "CREDENTIAL_PASSWORD" = some "p" := rfl
  have hSalt : Hasher.usableSalt "a,b\n" := by decide
  obtain ⟨record, hRecord, hRun⟩ :=
    issued_record_matches_unless_trimmed hSetup hHasher (by decide : "p" ≠ "") hSalt
  obtain ⟨-, hMatch, -⟩ :=
    hRun _ (presents_set hText record) fun n => Vector.replicate n 0
  exact ⟨record, hRecord, hMatch (by decide) (by decide)⟩

end Check

end PasswordHashing
