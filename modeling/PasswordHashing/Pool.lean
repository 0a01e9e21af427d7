import PasswordHashing.Hasher
import PasswordHashing.Password

/-!
A pool runs jobs of one hasher, no more than its permits allow at a time. A pool's history is a
sequence of actions: a job is submitted, takes a permit and starts, ends with an answer or breaks
down, or is abandoned by its caller. A permit belongs to the worker of a job and is given back when
the worker ends, whether or not anyone still waits for the answer.
-/

namespace PasswordHashing

/-- A hasher with a bound on the jobs that may run at a time. -/
structure Pool where
  hasher : Hasher
  maxInFlight : Nat
  positive : 0 < maxInFlight
  le_maxPermits : maxInFlight ≤ maxPermits

inductive Job (h : Hasher) where
  | hash (password : Password) (draw : Vector UInt8 h.policy.saltLength.toNat)
  | verify (password : Password) (record : Record)

/-- What a job that succeeds gives. -/
inductive Reply where
  | hashed (record : Record)
  | verified (isMatch : Bool)
  deriving DecidableEq, Repr

/-- The work of a job, done by its hasher. -/
def Job.run {h : Hasher} : Job h → Logged (Except Failure Reply)
  | hash password draw =>
      let result := h.hash password.bytes draw
      ⟨result.answer.map .hashed, result.events⟩
  | verify password record =>
      let result := h.verify password.bytes record
      ⟨result.answer.map .verified, result.events⟩

inductive Stage where
  /-- It holds no permit yet. -/
  | waiting
  /-- Its worker holds a permit; the caller may have left. -/
  | running (awaited : Bool)
  /-- Its caller has the answer. -/
  | answered (answer : Except Failure Reply)
  /-- It has ended and nobody has its answer. -/
  | dropped

structure Ticket (h : Hasher) where
  job : Job h
  stage : Stage

namespace Pool

/-- The pool for a hasher, if the bound is one that permits can be counted to. -/
def ofHasher (h : Hasher) (maxInFlight : UInt64) : Except Failure Pool :=
  if hBound : 0 < maxInFlight.toNat ∧ maxInFlight.toNat ≤ maxPermits then
    .ok ⟨h, maxInFlight.toNat, hBound.1, hBound.2⟩
  else .error (.invalidConfig (.inFlight maxInFlight))

/-- A moment in the life of a pool: its free permits, the jobs in the order of their submission, and
the events logged so far. -/
structure State (h : Hasher) where
  available : Nat
  tickets : List (Ticket h)
  events : List Event

/-- What can happen to a pool. Jobs are named by the order of their submission, from zero. -/
inductive Action (h : Hasher) where
  /-- A caller submits a job. -/
  | submit (job : Job h)
  /-- A waiting job takes a permit and starts. -/
  | start (i : Nat)
  /-- The worker of a job ends with the job's result. -/
  | finish (i : Nat)
  /-- The worker of a job breaks down. -/
  | fail (i : Nat) (reason : String)
  /-- The caller of a job no longer waits for its answer. -/
  | abandon (i : Nat)

def initial (p : Pool) : State p.hasher :=
  ⟨p.maxInFlight, [], []⟩

namespace State

variable {h : Hasher}

def setStage (s : State h) (i : Nat) (stage : Stage) : State h :=
  { s with tickets := s.tickets.modify i fun ticket => { ticket with stage := stage } }

/-- The worker of a job ends: its permit is free again, and whoever still waits has the answer. -/
def endWorker (s : State h) (i : Nat) (awaited : Bool) (result : Logged (Except Failure Reply)) :
    State h :=
  let s := s.setStage i (if awaited then .answered result.answer else .dropped)
  { s with available := s.available + 1, events := s.events ++ result.events }

/-- The state after an action, if the action is possible. Only a caller who still waits learns of a
breakdown and logs it. -/
def perform (s : State h) : Action h → Option (State h)
  | .submit job => some { s with tickets := s.tickets ++ [⟨job, .waiting⟩] }
  | .start i =>
      match s.tickets[i]?, s.available with
      | some ⟨_, .waiting⟩, free + 1 => some { s.setStage i (.running true) with available := free }
      | _, _ => none
  | .finish i =>
      match s.tickets[i]? with
      | some ⟨job, .running awaited⟩ => some (s.endWorker i awaited job.run)
      | _ => none
  | .fail i reason =>
      match s.tickets[i]? with
      | some ⟨_, .running awaited⟩ =>
          let failure := Failure.derivationFailure (.workerFailed reason)
          some (s.endWorker i awaited
            (if awaited then failure.logged else .silent (.error failure)))
      | _ => none
  | .abandon i =>
      match s.tickets[i]? with
      | some ⟨_, .waiting⟩ => some (s.setStage i .dropped)
      | some ⟨_, .running true⟩ => some (s.setStage i (.running false))
      | _ => none

def performAll (s : State h) : List (Action h) → Option (State h)
  | [] => some s
  | action :: actions =>
      match s.perform action with
      | none => none
      | some s => s.performAll actions

/-- The answers that callers have, in the order of submission. -/
def answers (s : State h) : List (Except Failure Reply) :=
  s.tickets.filterMap fun ticket =>
    match ticket.stage with
    | .answered answer => some answer
    | _ => none

end State

/-- The plainest history of some jobs: all are submitted, and then run one after another. -/
def inTurn {h : Hasher} (jobs : List (Job h)) : List (Action h) :=
  jobs.map .submit ++ (List.range jobs.length).flatMap fun i => [.start i, .finish i]

/-- Run jobs and wait for all answers. -/
def run (p : Pool) (jobs : List (Job p.hasher)) : State p.hasher :=
  (p.initial.performAll (inTurn jobs)).getD p.initial

namespace State

variable {h : Hasher}

theorem performAll_append (s : State h) (first rest : List (Action h)) :
    s.performAll (first ++ rest) = (s.performAll first).bind fun s => s.performAll rest := by
  induction first generalizing s with
  | nil => rfl
  | cons action first ih =>
      rw [List.cons_append, performAll, performAll]
      cases s.perform action with
      | none => rfl
      | some s => exact ih s

/-- Jobs can be submitted at any time. They line up behind those already there. -/
theorem performAll_submit (s : State h) (jobs : List (Job h)) :
    s.performAll (jobs.map .submit) =
      some { s with tickets := s.tickets ++ jobs.map fun job => ⟨job, .waiting⟩ } := by
  induction jobs generalizing s with
  | nil => simp [performAll]
  | cons job jobs ih => simp [performAll, perform, ih]

/-- One turn: a job starts and finishes. Its permit is free again afterwards, so that the next turn
finds the pool as this one did. -/
theorem performAll_turn (free : Nat) (ended waiting : List (Ticket h)) (events : List Event)
    (job : Job h) :
    performAll ⟨free + 1, ended ++ ⟨job, .waiting⟩ :: waiting, events⟩
        [.start ended.length, .finish ended.length] =
      some ⟨free + 1, ended ++ ⟨job, .answered job.run.answer⟩ :: waiting,
        events ++ job.run.events⟩ := by
  have hModify (stage next : Stage) :
      (ended ++ ⟨job, stage⟩ :: waiting).modify ended.length
        (fun ticket => { ticket with stage := next }) = ended ++ ⟨job, next⟩ :: waiting :=
    List.modifyTailIdx_add _ 0 ended _
  simp [performAll, perform, setStage, endWorker, hModify]

/-- As many turns as there are jobs waiting, each for the next job. Answers and events come in the
order of the jobs. -/
theorem performAll_turns (free : Nat) (ended : List (Ticket h)) (jobs : List (Job h))
    (events : List Event) :
    performAll ⟨free + 1, ended ++ jobs.map fun job => ⟨job, .waiting⟩, events⟩
        ((List.range' ended.length jobs.length).flatMap fun i => [.start i, .finish i]) =
      some ⟨free + 1, ended ++ jobs.map fun job => ⟨job, .answered job.run.answer⟩,
        events ++ jobs.flatMap fun job => job.run.events⟩ := by
  induction jobs generalizing ended events with
  | nil => simp [performAll]
  | cons job jobs ih =>
      have hRest := ih (ended ++ [⟨job, .answered job.run.answer⟩]) (events ++ job.run.events)
      rw [List.length_append, List.length_singleton] at hRest
      rw [List.length_cons, List.range'_succ, List.flatMap_cons, performAll_append, List.map_cons,
        performAll_turn]
      simpa using hRest

end State

/-- From a new pool the plain history is possible, and ends with all permits free and every job
answered. -/
theorem performAll_inTurn (p : Pool) (jobs : List (Job p.hasher)) :
    p.initial.performAll (inTurn jobs) =
      some ⟨p.maxInFlight, jobs.map fun job => ⟨job, .answered job.run.answer⟩,
        jobs.flatMap fun job => job.run.events⟩ := by
  obtain ⟨h, maxInFlight, hPositive, hBound⟩ := p
  obtain ⟨free, rfl⟩ : ∃ free, maxInFlight = free + 1 := ⟨maxInFlight - 1, by omega⟩
  have hTurns := State.performAll_turns free [] jobs []
  rw [List.nil_append, List.length_nil, ← List.range_eq_range'] at hTurns
  rw [inTurn, State.performAll_append, State.performAll_submit]
  exact hTurns

/-- Jobs that run one after another get their own results, and the pool has all its permits back. -/
theorem run_eq (p : Pool) (jobs : List (Job p.hasher)) :
    p.run jobs =
      ⟨p.maxInFlight, jobs.map fun job => ⟨job, .answered job.run.answer⟩,
        jobs.flatMap fun job => job.run.events⟩ := by
  rw [run, performAll_inTurn, Option.getD_some]

theorem run_singleton (p : Pool) (job : Job p.hasher) :
    p.run [job] = ⟨p.maxInFlight, [⟨job, .answered job.run.answer⟩], job.run.events⟩ := by
  simp [run_eq]

/-- What a job of the wrong sort would be answered with. Pools give no such answer, by `hash_eq` and
`verify_eq`. -/
def mismatched {α : Type} : Except Failure α :=
  .error (.derivationFailure (.workerFailed "unexpected reply"))

def hash (p : Pool) (password : Password) (draw : Vector UInt8 p.hasher.policy.saltLength.toNat) :
    Logged (Except Failure Record) :=
  let s := p.run [.hash password draw]
  ⟨match s.answers with
    | [.ok (.hashed record)] => .ok record
    | [.error failure] => .error failure
    | _ => mismatched,
    s.events⟩

def verify (p : Pool) (password : Password) (record : Record) : Logged (Except Failure Bool) :=
  let s := p.run [.verify password record]
  ⟨match s.answers with
    | [.ok (.verified isMatch)] => .ok isMatch
    | [.error failure] => .error failure
    | _ => mismatched,
    s.events⟩

/-- Hashing in a pool is hashing with its hasher, events included: the reply is always of the sort
that was asked for. -/
theorem hash_eq (p : Pool) (password : Password)
    (draw : Vector UInt8 p.hasher.policy.saltLength.toNat) :
    p.hash password draw = p.hasher.hash password.bytes draw := by
  simp only [hash, run_singleton, State.answers, Job.run]
  generalize p.hasher.hash password.bytes draw = result
  obtain ⟨answer, events⟩ := result
  cases answer <;> rfl

/-- Verifying in a pool is verifying with its hasher, events included. -/
theorem verify_eq (p : Pool) (password : Password) (record : Record) :
    p.verify password record = p.hasher.verify password.bytes record := by
  simp only [verify, run_singleton, State.answers, Job.run]
  generalize p.hasher.verify password.bytes record = result
  obtain ⟨answer, events⟩ := result
  cases answer <;> rfl

end Pool

end PasswordHashing
