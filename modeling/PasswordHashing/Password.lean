import PasswordHashing.Failure

/-!
Passwords in clear. A password is any byte string but the empty one, and its outline shows nothing
of it.
-/

namespace PasswordHashing

/-- A password that may be hashed. -/
structure Password where
  bytes : List UInt8
  nonempty : bytes ≠ []
  deriving DecidableEq

namespace Password

def ofBytes (bytes : List UInt8) : Except Failure Password :=
  if hNonempty : bytes ≠ [] then .ok ⟨bytes, hNonempty⟩
  else .error (.invalidInput .emptyPassword)

theorem ofBytes_eq_ok_iff {bytes : List UInt8} {password : Password} :
    ofBytes bytes = .ok password ↔ password.bytes = bytes := by
  rw [ofBytes]
  constructor
  · intro hOk
    split at hOk <;> cases hOk
    rfl
  · rintro rfl
    exact dif_pos password.nonempty

/-- Only the empty password is refused, and always for that reason. -/
theorem ofBytes_eq_error_iff {bytes : List UInt8} {f : Failure} :
    ofBytes bytes = .error f ↔ bytes = [] ∧ f = .invalidInput .emptyPassword := by
  rw [ofBytes]
  constructor
  · intro hError
    split at hError <;> cases hError
    exact ⟨Decidable.not_not.mp ‹_›, rfl⟩
  · rintro ⟨rfl, rfl⟩
    rfl

/-- An outline that shows nothing of the password. -/
def inspect (_ : Password) : String :=
  Text.Inspect.wrapped "ClearTextPassword" (Text.Quoted.text "[REDACTED]")

end Password

end PasswordHashing
