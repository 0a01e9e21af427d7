import PasswordHashing.Proofs.CurrentRecords

/-! When records are replaced. At a login the stored record is verified, judged, and made anew under
the policy in force if it is out of date. Policies may change between logins in any way. A change is
seen in records only through the settings that they show, and a record is replaced no more often
than those change. -/
namespace PasswordHashing

/-- The settings of a policy that its records show. The memory ceiling and the length of random
salts are not among them. -/
def Policy.shown (p : Policy) : UInt64 × UInt32 × UInt32 × UInt64 × Layout :=
  (p.workFactor, p.blockSize, p.parallelism, p.keyLength, p.layout)

namespace Hasher

variable {h other : Hasher} {password : List UInt8} {salt : String} {record stored : Record}

/-- The hasher made this record from the password, with a salt of anyone's choice. -/
def Issues (h : Hasher) (password : List UInt8) (record : Record) : Prop :=
  ∃ salt, (h.hashWithSalt password salt).answer = .ok record

/-- Work factors are kept as logarithms, which tell powers of two apart. -/
theorem cost_eq_cost_iff :
    h.cost = other.cost ↔ h.policy.workFactor = other.policy.workFactor ∧
      h.policy.blockSize = other.policy.blockSize ∧
        h.policy.parallelism = other.policy.parallelism := by
  have hOne := h.accepts
  have hTwo := other.accepts
  have hLogN : h.cost.logN = other.cost.logN ↔
      h.policy.workFactor = other.policy.workFactor := by
    rw [← UInt8.toNat_inj, ← UInt64.toNat_inj, hOne.workFactor, hTwo.workFactor]
    exact (Nat.pow_right_injective (Nat.le_refl 2)).eq_iff.symm
  rw [← hLogN, ← hOne.blockSize, ← hTwo.blockSize, ← hOne.parallelism, ← hTwo.parallelism]
  generalize h.cost = c
  generalize other.cost = d
  obtain ⟨_, _, _⟩ := c
  obtain ⟨_, _, _⟩ := d
  simp only [Cost.mk.injEq]

/-- The settings that records show agree exactly if layout, cost and key length do. -/
theorem shown_eq_shown_iff :
    h.policy.shown = other.policy.shown ↔
      h.policy.layout = other.policy.layout ∧ h.cost = other.cost ∧
        h.policy.keyLength.toNat = other.policy.keyLength.toNat := by
  rw [cost_eq_cost_iff, UInt64.toNat_inj]
  simp only [Policy.shown, Prod.mk.injEq]
  constructor
  · rintro ⟨hFactor, hBlockSize, hParallelism, hLength, hLayout⟩
    exact ⟨hLayout, ⟨hFactor, hBlockSize, hParallelism⟩, hLength⟩
  · rintro ⟨hLayout, ⟨hFactor, hBlockSize, hParallelism⟩, hLength⟩
    exact ⟨hFactor, hBlockSize, hParallelism, hLength, hLayout⟩

/-- The settings of the policy are read off the record, and nothing else of the policy is. -/
theorem Issues.needsRehash_eq (hIssues : h.Issues password record) (other : Hasher) :
    other.needsRehash record = .ok (h.policy.shown ≠ other.policy.shown) := by
  obtain ⟨salt, hRecord⟩ := hIssues
  obtain ⟨key, hCurrent, -⟩ := isCurrent_of_hashWithSalt hRecord
  rw [needsRehash_of_parse hCurrent.parse, hCurrent.length_key]
  congr 1
  rw [decide_eq_decide, ne_eq (h.policy.shown), shown_eq_shown_iff, not_and_or, not_and_or]

end Hasher

/-- A login: the hasher in force, and the salt that a new record would have, random or not. -/
structure Login where
  hasher : Hasher
  salt : String
  usable : Hasher.usableSalt salt

/-- Whether two policies show different settings, as a number. -/
def Policy.changed (p q : Policy) : Nat :=
  if p.shown = q.shown then 0 else 1

@[simp] theorem Policy.changed_self (p : Policy) : p.changed p = 0 :=
  if_pos rfl

/-- A change between two policies shows on the way through any third one. -/
theorem Policy.changed_le (p q r : Policy) : p.changed r ≤ p.changed q + q.changed r := by
  unfold Policy.changed
  by_cases hFirst : p.shown = q.shown
  · rw [hFirst]
    omega
  · rw [if_neg hFirst]
    split <;> omega

namespace Login

/-- Whether a login has the stored record replaced: the password opens it, and it is out of date. -/
def replaces (l : Login) (password : List UInt8) (stored : Record) : Bool :=
  (l.hasher.verify password stored).answer = .ok true ∧ l.hasher.needsRehash stored = .ok true

/-- The record that is stored after a login. Where anything fails, the old one stays. -/
def leaves (l : Login) (password : List UInt8) (stored : Record) : Record :=
  if l.replaces password stored then
    match (l.hasher.hashWithSalt password l.salt).answer with
    | .ok record => record
    | .error _ => stored
  else stored

def leavesAll (password : List UInt8) (stored : Record) (logins : List Login) : Record :=
  logins.foldl (fun stored l => l.leaves password stored) stored

def replacements (password : List UInt8) (stored : Record) : List Login → Nat
  | [] => 0
  | l :: logins =>
      (if l.replaces password stored then 1 else 0) +
        replacements password (l.leaves password stored) logins

/-- How often the shown settings change over several logins, from those of a first policy on. -/
def changes (p : Policy) : List Login → Nat
  | [] => 0
  | l :: logins => p.changed l.hasher.policy + changes l.hasher.policy logins

variable {h : Hasher} {password : List UInt8} {stored : Record}

/-- One login on a record that some hasher made from the password. It is replaced by one of the
hasher in force, or it stays and was either current or refused. -/
theorem leaves_cases (hIssues : h.Issues password stored) (l : Login) :
    (l.replaces password stored = true ∧ h.policy.shown ≠ l.hasher.policy.shown ∧
        l.hasher.Issues password (l.leaves password stored)) ∨
      (l.replaces password stored = false ∧ l.leaves password stored = stored ∧
        ((l.hasher.verify password stored).answer = .ok true →
          h.policy.shown = l.hasher.policy.shown)) := by
  have hNeeds := hIssues.needsRehash_eq l.hasher
  cases hReplaces : l.replaces password stored with
  | true =>
      obtain ⟨-, hOutdated⟩ := of_decide_eq_true hReplaces
      rw [hNeeds, Except.ok.injEq, decide_eq_true_iff] at hOutdated
      obtain ⟨salt, hStored⟩ := hIssues
      obtain ⟨hPassword, -⟩ := h.hashWithSalt_eq_ok_iff.mp hStored
      obtain ⟨key, -, -, hRecord⟩ :=
        l.hasher.exists_hashWithSalt password hPassword l.usable.1 l.usable.2
      refine .inl ⟨rfl, hOutdated, l.salt, ?_⟩
      rw [leaves, if_pos hReplaces, hRecord]
  | false =>
      refine .inr ⟨rfl, by simp [leaves, hReplaces], ?_⟩
      intro hVerify
      by_contra hChanged
      have hOutdated : l.hasher.needsRehash stored = .ok true := by
        rw [hNeeds, decide_eq_true hChanged]
      exact of_decide_eq_false hReplaces ⟨hVerify, hOutdated⟩

/-- Whatever happens, the stored record is one that a hasher of the history made from the
password. -/
theorem exists_issuer (hIssues : h.Issues password stored) (logins : List Login) :
    ∃ maker ∈ h :: logins.map Login.hasher,
      maker.Issues password (leavesAll password stored logins) := by
  induction logins generalizing h stored with
  | nil => exact ⟨h, List.mem_cons_self, hIssues⟩
  | cons l logins ih =>
      rcases l.leaves_cases hIssues with ⟨-, -, hNew⟩ | ⟨-, hStays, -⟩
      · obtain ⟨maker, hMem, hLast⟩ := ih hNew
        exact ⟨maker, List.mem_cons_of_mem h hMem, hLast⟩
      · obtain ⟨maker, hMem, hLast⟩ := ih hIssues
        refine ⟨maker, ?_, ?_⟩
        · rcases List.mem_cons.mp hMem with rfl | hMem
          · exact List.mem_cons_self
          · exact List.mem_cons_of_mem h (List.mem_cons_of_mem l.hasher hMem)
        · rwa [leavesAll, List.foldl_cons, hStays]

/-- A replacement is paid for by a change of settings. The record may have been made before the
policy `p` that was in force last, which leaves one replacement to be paid for. -/
theorem replacements_le (hIssues : h.Issues password stored) (p : Policy) (logins : List Login) :
    replacements password stored logins ≤ h.policy.changed p + changes p logins := by
  induction logins generalizing h stored p with
  | nil => exact Nat.zero_le _
  | cons l logins ih =>
      have hTriangle := h.policy.changed_le p l.hasher.policy
      rw [replacements, changes]
      rcases l.leaves_cases hIssues with ⟨hReplaces, hChanged, hNew⟩ | ⟨hReplaces, hStays, -⟩
      · have hRest := ih hNew l.hasher.policy
        have hOne : h.policy.changed l.hasher.policy = 1 := if_neg hChanged
        rw [Policy.changed_self] at hRest
        rw [if_pos hReplaces]
        omega
      · have hRest := ih hIssues l.hasher.policy
        rw [hStays, if_neg (by simp [hReplaces])]
        omega

theorem changes_eq_zero {p : Policy} {logins : List Login}
    (hSame : ∀ l ∈ logins, l.hasher.policy.shown = p.shown) : changes p logins = 0 := by
  induction logins generalizing p with
  | nil => rfl
  | cons l logins ih =>
      have hHead := hSame l List.mem_cons_self
      have hNone : p.changed l.hasher.policy = 0 := if_pos hHead.symm
      have hRest : changes l.hasher.policy logins = 0 :=
        ih fun m hMem => (hSame m (List.mem_cons_of_mem l hMem)).trans hHead.symm
      rw [changes, hNone, hRest]

/-- Settings that stay as they are after the first login have changed at most once. -/
theorem changes_le_one (p : Policy) {logins : List Login} {settings}
    (hSame : ∀ l ∈ logins, l.hasher.policy.shown = settings) : changes p logins ≤ 1 := by
  cases logins with
  | nil => exact Nat.zero_le 1
  | cons l logins =>
      obtain rfl := hSame l List.mem_cons_self
      rw [changes, changes_eq_zero fun m hMem => hSame m (List.mem_cons_of_mem l hMem),
        Policy.changed]
      split <;> omega

/-- Nothing happens to a record under policies that show the settings it was made with. -/
theorem leavesAll_eq_self (hIssues : h.Issues password stored) {logins : List Login}
    (hSame : ∀ l ∈ logins, l.hasher.policy.shown = h.policy.shown) :
    leavesAll password stored logins = stored := by
  induction logins with
  | nil => rfl
  | cons l logins ih =>
      have hHead := hSame l List.mem_cons_self
      have hTail := ih fun m hMem => hSame m (List.mem_cons_of_mem l hMem)
      rcases l.leaves_cases hIssues with ⟨-, hChanged, -⟩ | ⟨-, hStays, -⟩
      · exact absurd hHead.symm hChanged
      · rwa [leavesAll, List.foldl_cons, hStays]

/-- A login that opens the record leaves one with the settings of the hasher in force, which opens
again. -/
theorem leaves_of_verify (hIssues : h.Issues password stored) {l : Login}
    (hVerify : (l.hasher.verify password stored).answer = .ok true) :
    (∃ maker : Hasher, maker.Issues password (l.leaves password stored) ∧
        maker.policy.shown = l.hasher.policy.shown) ∧
      (l.hasher.verify password (l.leaves password stored)).answer = .ok true := by
  rcases l.leaves_cases hIssues with ⟨-, -, hNew⟩ | ⟨-, hStays, hCurrent⟩
  · obtain ⟨salt, hRecord⟩ := hNew
    exact ⟨⟨l.hasher, ⟨salt, hRecord⟩, rfl⟩, Hasher.verify_of_hashWithSalt hRecord⟩
  · rw [hStays]
    exact ⟨⟨h, hIssues, hCurrent hVerify⟩, hVerify⟩

/-- A record is out of date exactly for the policies that show other settings than its own. However
policies change from login to login, the stored record stays one that can be judged, and it is
replaced no more often than the settings change. Once they change no more, there is at most one more
replacement, and after the first login that opens the record there is none. -/
theorem renewal_converges {salt : String} (hPassword : password ≠ []) (hSalt : salt.toList ≠ [])
    (hColon : ':' ∉ salt.toList) (h : Hasher) :
    ∃ record, (h.hashWithSalt password salt).answer = .ok record ∧
      (∀ other : Hasher, ∃ outdated, other.needsRehash record = .ok outdated ∧
        (outdated = true ↔
          h.policy.workFactor ≠ other.policy.workFactor ∨
            h.policy.blockSize ≠ other.policy.blockSize ∨
              h.policy.parallelism ≠ other.policy.parallelism ∨
                h.policy.keyLength ≠ other.policy.keyLength ∨
                  h.policy.layout ≠ other.policy.layout)) ∧
      h.needsRehash record = .ok false ∧
      ∀ logins,
        (∃ maker ∈ h :: logins.map Login.hasher,
          maker.Issues password (leavesAll password record logins)) ∧
        replacements password record logins ≤ changes h.policy logins ∧
        (∀ settings later, (∀ m ∈ later, m.hasher.policy.shown = settings) →
          replacements password (leavesAll password record logins) later ≤ 1) ∧
        ∀ l, (l.hasher.verify password (leavesAll password record logins)).answer = .ok true →
          l.hasher.needsRehash (leavesAll password record (logins ++ [l])) = .ok false ∧
          (l.hasher.verify password (leavesAll password record (logins ++ [l]))).answer = .ok true ∧
          ∀ later, (∀ m ∈ later, m.hasher.policy.shown = l.hasher.policy.shown) →
            leavesAll password record (logins ++ l :: later) =
              leavesAll password record (logins ++ [l]) := by
  obtain ⟨key, -, -, hRecord⟩ := h.exists_hashWithSalt password hPassword hSalt hColon
  have hIssues : h.Issues password _ := ⟨salt, hRecord⟩
  refine ⟨_, hRecord, fun other => ⟨_, hIssues.needsRehash_eq other, ?_⟩, ?_, fun logins => ?_⟩
  · simp only [decide_eq_true_iff, Policy.shown, ne_eq, Prod.mk.injEq, not_and_or]
  · simpa using hIssues.needsRehash_eq h
  have hPaid := replacements_le hIssues h.policy logins
  rw [Policy.changed_self, Nat.zero_add] at hPaid
  obtain ⟨maker, hMaker, hStored⟩ := exists_issuer hIssues logins
  refine ⟨⟨maker, hMaker, hStored⟩, hPaid, fun settings later hSame => ?_, fun l hVerify => ?_⟩
  · have hOne := changes_le_one maker.policy hSame
    have hLater := replacements_le hStored maker.policy later
    rw [Policy.changed_self, Nat.zero_add] at hLater
    exact Nat.le_trans hLater hOne
  · obtain ⟨⟨last, hLast, hShown⟩, hOpens⟩ := leaves_of_verify hStored hVerify
    have hNeeds := hLast.needsRehash_eq l.hasher
    rw [decide_eq_false (not_not.mpr hShown)] at hNeeds
    simp only [leavesAll, List.foldl_append, List.foldl_cons, List.foldl_nil] at hNeeds hOpens ⊢
    refine ⟨hNeeds, hOpens, fun later hSame => ?_⟩
    exact leavesAll_eq_self hLast fun m hMem => (hSame m hMem).trans hShown.symm

/-- A record of the cheap policy at logins under the costly one: it is out of date, is replaced at
the first of them and is current from then on. The costly policy has the memory for the cheap one,
so that the first login opens the record. -/
theorem testing_record_is_renewed :
    ([0x70, 0x77] : List UInt8) ≠ [] ∧ "salt".toList ≠ [] ∧ ':' ∉ "salt".toList ∧
      ∃ (record : Record) (l : Login), l.hasher = Hasher.interactive ∧
        (Hasher.testing.hashWithSalt [0x70, 0x77] "salt").answer = .ok record ∧
        Hasher.testing.needsRehash record = .ok false ∧
        Hasher.interactive.needsRehash record = .ok true ∧
        replacements [0x70, 0x77] record [l, l, l] ≤ 1 ∧
        Hasher.interactive.needsRehash (leavesAll [0x70, 0x77] record [l]) = .ok false ∧
        leavesAll [0x70, 0x77] record [l, l, l] = leavesAll [0x70, 0x77] record [l] := by
  have hPassword : ([0x70, 0x77] : List UInt8) ≠ [] := by decide
  have hSalt : "salt".toList ≠ [] := by decide
  have hColon : ':' ∉ "salt".toList := by decide
  let l : Login := ⟨.interactive, "salt", hSalt, hColon⟩
  obtain ⟨record, hRecord, hNeeds, hCurrent, hLogins⟩ :=
    renewal_converges hPassword hSalt hColon .testing
  obtain ⟨outdated, hOutdated, hIff⟩ := hNeeds .interactive
  obtain rfl : outdated = true := hIff.mpr (.inl (by decide))
  obtain ⟨-, -, hOne, hOpened⟩ := hLogins []
  obtain ⟨same, key, hSame, hKey, hVerify⟩ :=
    Hasher.testing.exists_record hPassword hSalt hColon
  rw [hRecord] at hSame
  obtain rfl := Except.ok.inj hSame
  have hOpens : (l.hasher.verify [0x70, 0x77] (leavesAll [0x70, 0x77] record [])).answer =
      .ok true := by
    change (Hasher.interactive.verify [0x70, 0x77] record).answer = .ok true
    rw [hVerify, if_pos (by decide), decide_eq_true hKey]
  obtain ⟨hNew, -, hStays⟩ := hOpened l hOpens
  have hAll : ∀ m ∈ [l, l, l], m.hasher.policy.shown = l.hasher.policy.shown := by simp
  exact ⟨hPassword, hSalt, hColon, record, l, rfl, hRecord, hCurrent, hOutdated,
    hOne _ [l, l, l] hAll, hNew, hStays [l, l] (by simp)⟩

end Login

end PasswordHashing
