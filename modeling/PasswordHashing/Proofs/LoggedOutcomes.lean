import PasswordHashing.Proofs.AccountIsolation

/-! What is logged of an outcome. A failure is logged where it arises and passed on from there, and
a success is logged at the end, so that every outcome has one event. Hashing has failures that are
not logged, and one that would be; the first are those of the caller's input, and the other never
comes up. -/
namespace PasswordHashing

/-- There is one event, and it is that of the answer: a failure is told in its own words, at WARN if
the record is to blame and at ERROR if no key was derived, and a success at DEBUG. -/
def Logged.TellsOnce {α : Type} (result : Logged (Except Failure α)) : Prop :=
  ∃ e, result.events = [e] ∧
    match result.answer with
    | .ok _ => e.level = .debug
    | .error (.malformedRecord fault) =>
        e.level = .warn ∧ e = (Failure.malformedRecord fault).event
    | .error (.derivationFailure fault) =>
        e.level = .error ∧ e = (Failure.derivationFailure fault).event
    | .error _ => False

theorem Logged.tellsOnce_malformedRecord {α : Type} (fault : RecordFault) :
    ((Failure.malformedRecord fault).logged : Logged (Except Failure α)).TellsOnce :=
  ⟨_, rfl, rfl, rfl⟩

theorem Logged.tellsOnce_derivationFailure {α : Type} (fault : DerivationFault) :
    ((Failure.derivationFailure fault).logged : Logged (Except Failure α)).TellsOnce :=
  ⟨_, rfl, rfl, rfl⟩

theorem Logged.tellsOnce_ok {α : Type} (answer : α) {e : Event} (hDebug : e.level = .debug) :
    (⟨.ok answer, [e]⟩ : Logged (Except Failure α)).TellsOnce :=
  ⟨e, rfl, hDebug⟩

namespace Hasher

variable (h : Hasher) (password : List UInt8) {record : Record}

/-- A refusal is malformed or unaffordable. -/
theorem tellsOnce_of_refusal {α : Type} {cost : Cost} {failure : Failure}
    (hRefusal : h.refusal? cost = some failure) :
    (failure.logged : Logged (Except Failure α)).TellsOnce := by
  rw [refusal?] at hRefusal
  split at hRefusal
  · cases hRefusal
    exact Logged.tellsOnce_malformedRecord _
  · split at hRefusal
    · cases hRefusal
    · cases hRefusal
      exact Logged.tellsOnce_derivationFailure _

/-- Verification logs one event and no more, whatever the record is. -/
theorem verify_tellsOnce (record : Record) : (h.verify password record).TellsOnce := by
  rw [verify_eq]
  split
  · exact Logged.tellsOnce_malformedRecord _
  · split
    · rename_i hRefusal
      exact h.tellsOnce_of_refusal hRefusal
    · exact Logged.tellsOnce_ok _ rfl

/-- Whatever is compared is logged with the verdict and the layout of the record. -/
theorem verify_eq_compared {isMatch : Bool}
    (hVerify : (h.verify password record).answer = .ok isMatch) :
    ∃ layout, record.layout = .ok layout ∧
      h.verify password record = compared layout isMatch := by
  rw [verify_eq] at hVerify ⊢
  split at hVerify
  · cases hVerify
  · rename_i fields hParse
    split at hVerify
    · cases hVerify
    · obtain rfl := Except.ok.inj hVerify
      exact ⟨fields.layout, Record.layout_eq_ok_iff.mpr ⟨fields, hParse, rfl⟩, rfl⟩

/-- Hashing that fails leaves no event: the failures that would were settled with the policy. -/
theorem hashWithSalt_cases (salt : String) :
    (∃ record, h.hashWithSalt password salt = ⟨.ok record, [h.hashedEvent]⟩) ∨
      (¬ (password ≠ [] ∧ usableSalt salt) ∧
        ∃ fault, h.hashWithSalt password salt = ⟨.error (.invalidInput fault), []⟩) := by
  obtain ⟨key, -, -, hHash⟩ := h.hashWithSalt_eq password salt
  rw [hHash]
  split
  · rename_i hPassword
    exact .inr ⟨fun hUsable => hUsable.1 hPassword, _, rfl⟩
  · split
    · rename_i hSalt
      exact .inr ⟨fun hUsable => hSalt hUsable.2, _, rfl⟩
    · exact .inl ⟨_, rfl⟩

/-- Making a hasher logs nothing if it succeeds, and the fault of the policy if it fails. -/
theorem ofPolicy_eq (p : Policy) :
    (∃ h, ofPolicy p = ⟨.ok h, []⟩) ∨
      ∃ fault, ofPolicy p = (Failure.invalidConfig fault).logged := by
  rw [ofPolicy]
  split
  · exact .inl ⟨_, rfl⟩
  · exact .inr ⟨_, rfl⟩

end Hasher

/-- Reading a record twice does not log it twice: a record that cannot be read does not get as far
as the second time. -/
theorem AppPassword.verify_tellsOnce (h : Hasher) (account : String) (password : List UInt8)
    (record : Record) : (verify h account password record).TellsOnce := by
  cases hParse : record.parse with
  | error fault =>
      rw [verify_of_unreadable hParse]
      exact h.verify_tellsOnce password record
  | ok fields =>
      by_cases hSalt : fields.salt = salt account
      · rw [verify_of_own_salt hParse hSalt]
        exact h.verify_tellsOnce password record
      · rw [verify, hParse]
        simp only [hSalt, if_false]
        exact Logged.tellsOnce_ok false rfl

/-- Every outcome is logged once. Verification, of an app password too, leaves one event, which is
that of its answer: WARN for a malformed record, ERROR for a key that was not derived, DEBUG for a
verdict, with the verdict and the layout of the record in it. No other failure comes of it. Hashing
leaves one event at DEBUG or else fails without any, and the making of a hasher none unless the
policy is rejected, which is one at ERROR. -/
theorem outcomes_are_logged_once (h : Hasher) :
    (∀ password record, (h.verify password record).TellsOnce ∧
        ∀ isMatch, (h.verify password record).answer = .ok isMatch →
          ∃ layout, record.layout = .ok layout ∧
            (h.verify password record).events =
              [⟨.library, .debug, "Credential verified",
                [("matches", toString isMatch), ("format", layout.inspect)]⟩]) ∧
      (∀ account password record, (AppPassword.verify h account password record).TellsOnce) ∧
      (∀ password salt,
        (∃ record e, h.hashWithSalt password salt = ⟨.ok record, [e]⟩ ∧ e.level = .debug) ∨
          ∃ failure, h.hashWithSalt password salt = ⟨.error failure, []⟩) ∧
      ∀ policy, (∃ made, Hasher.ofPolicy policy = ⟨.ok made, []⟩) ∨
        ∃ failure e, Hasher.ofPolicy policy = ⟨.error failure, [e]⟩ ∧ e.level = .error ∧
          e = failure.event := by
  refine ⟨fun password record => ⟨?_, fun isMatch hVerify => ?_⟩, ?_, fun password salt => ?_,
    fun policy => ?_⟩
  · exact h.verify_tellsOnce password record
  · obtain ⟨layout, hLayout, hResult⟩ := h.verify_eq_compared password hVerify
    exact ⟨layout, hLayout, congrArg Logged.events hResult⟩
  · exact AppPassword.verify_tellsOnce h
  · rcases h.hashWithSalt_cases password salt with ⟨record, hHash⟩ | ⟨-, fault, hHash⟩
    · exact .inl ⟨record, _, hHash, rfl⟩
    · exact .inr ⟨_, hHash⟩
  · rcases Hasher.ofPolicy_eq policy with hMade | ⟨fault, hRejected⟩
    · exact .inl hMade
    · exact .inr ⟨_, _, hRejected, rfl, rfl⟩

end PasswordHashing
