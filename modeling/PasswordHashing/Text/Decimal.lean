/-!
Natural numbers in decimal. Numbers are written without leading zeros; a reader for numbers up to a
bound also takes leading zeros and one plus sign. `read_render` says that reading undoes writing.
-/

namespace PasswordHashing.Decimal

def digit (n : Nat) : Char :=
  Char.ofNat (48 + n)

def digit? (c : Char) : Option Nat :=
  if 48 ≤ c.toNat ∧ c.toNat ≤ 57 then some (c.toNat - 48) else none

/-- The digits of a number, the highest one first. -/
def render (n : Nat) : List Char :=
  if n < 10 then [digit n] else render (n / 10) ++ [digit (n % 10)]

def text (n : Nat) : String :=
  String.ofList (render n)

inductive Fault where
  | empty
  | invalidDigit
  | tooLarge
  deriving DecidableEq, Repr

def Fault.message : Fault → String
  | .empty => "cannot parse integer from empty string"
  | .invalidDigit => "invalid digit found in string"
  | .tooLarge => "number too large to fit in target type"

/-- Read digits after those that gave `n`. The first character at which the text is no digit, or the
number exceeds the bound, decides the fault. -/
def readDigits (bound : Nat) : (n : Nat) → List Char → Except Fault Nat
  | n, [] => .ok n
  | n, c :: cs =>
      match digit? c with
      | none => .error .invalidDigit
      | some d => if 10 * n + d ≤ bound then readDigits bound (10 * n + d) cs else .error .tooLarge

/-- Read a number up to a bound: digits, at least one, after at most one plus sign. -/
def read (bound : Nat) (cs : List Char) : Except Fault Nat :=
  match cs with
  | [] => .error .empty
  | ['+'] => .error .invalidDigit
  | '+' :: cs => readDigits bound 0 cs
  | cs => readDigits bound 0 cs

theorem digit?_digit {n : Nat} (hLt : n < 10) : digit? (digit n) = some n := by
  have hAll : ∀ n : Fin 10, digit? (digit n) = some n.val := by decide
  exact hAll ⟨n, hLt⟩

/-- Digits that could be read are done with: what follows them is read on from their number. -/
theorem readDigits_append {bound n : Nat} {cs ds : List Char} {m : Nat}
    (hRead : readDigits bound n cs = .ok m) :
    readDigits bound n (cs ++ ds) = readDigits bound m ds := by
  induction cs generalizing n with
  | nil => cases hRead; rfl
  | cons c cs ih =>
      simp only [readDigits, List.cons_append] at hRead ⊢
      split at hRead
      · cases hRead
      · split at hRead
        · rename_i hDigit hLe
          simp only [hLe, if_true]
          exact ih hRead
        · cases hRead

theorem readDigits_render {bound n : Nat} (hLe : n ≤ bound) :
    readDigits bound 0 (render n) = .ok n := by
  induction n using Nat.strongRecOn with
  | ind n ih =>
      rw [render]
      split
      · rename_i hLt
        simp [readDigits, digit?_digit hLt, hLe]
      · rename_i hLt
        have hTen : 10 * (n / 10) + n % 10 = n := by omega
        rw [readDigits_append (ih (n / 10) (by omega) (by omega))]
        simp [readDigits, digit?_digit (Nat.mod_lt n (by omega : 10 > 0)), hTen, hLe]

theorem render_ne_nil (n : Nat) : render n ≠ [] := by
  rw [render]
  split <;> simp

/-- Nothing but digits is written, so that neither a sign nor a delimiter stands in a number. -/
theorem digit?_of_mem_render {n : Nat} {c : Char} (hMem : c ∈ render n) :
    (digit? c).isSome = true := by
  induction n using Nat.strongRecOn with
  | ind n ih =>
      rw [render] at hMem
      split at hMem
      · rename_i hLt
        simp only [List.mem_singleton] at hMem
        simp [hMem, digit?_digit hLt]
      · rename_i hLt
        rcases List.mem_append.mp hMem with hMem | hMem
        · exact ih (n / 10) (by omega) hMem
        · simp only [List.mem_singleton] at hMem
          simp [hMem, digit?_digit (Nat.mod_lt n (by omega : 10 > 0))]

/-- Without a plus sign in front, reading a nonempty text is reading its digits. -/
theorem read_eq_readDigits {bound : Nat} {cs : List Char} (hNonempty : cs ≠ [])
    (hPlus : '+' ∉ cs.head?) : read bound cs = readDigits bound 0 cs := by
  unfold read
  split <;> simp_all

theorem read_plus {bound : Nat} {cs : List Char} (hNonempty : cs ≠ []) :
    read bound ('+' :: cs) = readDigits bound 0 cs := by
  cases cs with
  | nil => exact absurd rfl hNonempty
  | cons c cs => rfl

/-- A number up to the bound is read back, since it is written without a sign. -/
@[simp] theorem read_render {bound n : Nat} (hLe : n ≤ bound) :
    read bound (render n) = .ok n := by
  rw [read_eq_readDigits (render_ne_nil n), readDigits_render hLe]
  intro hPlus
  have := digit?_of_mem_render (List.mem_of_head? hPlus)
  simp [digit?] at this

end PasswordHashing.Decimal
