import PasswordHashing.Proofs.PermitConservation

/-! What a pool answers. Jobs share nothing but the permits, so that the order in which they start
and end decides when an answer comes and not what it is. A history of jobs is bounded and never gets
stuck, and what it leaves behind are the answers that the hasher gives directly. -/
namespace PasswordHashing

/-- The most actions that a job at this stage may still see. -/
def Stage.ahead : Stage → Nat
  | .waiting => 3
  | .running true => 2
  | .running false => 1
  | _ => 0

namespace Pool

/-- The job that an action submits, if it submits one. -/
def Action.submitted {h : Hasher} : Action h → List (Job h)
  | .submit job => [job]
  | _ => []

/-- The jobs that are submitted in a history, in their order. -/
def submissions {h : Hasher} (history : List (Action h)) : List (Job h) :=
  history.flatMap Action.submitted

/-- The worker of a job breaks down in the action, or its caller leaves. -/
def Action.Disturbs {h : Hasher} (i : Nat) : Action h → Prop
  | .fail j _ => j = i
  | .abandon j => j = i
  | _ => False

/-- The plainest history submits every job, in the order given. -/
theorem submissions_inTurn {h : Hasher} (jobs : List (Job h)) :
    submissions (inTurn jobs) = jobs := by
  have hSubmit : (jobs.map .submit).flatMap Action.submitted = jobs := by
    rw [List.flatMap_map]
    exact List.flatMap_singleton' jobs
  have hTurns : ((List.range jobs.length).flatMap fun i =>
      [(.start i : Action h), .finish i]).flatMap Action.submitted = [] := by
    rw [List.flatMap_eq_nil_iff]
    intro a hMem
    obtain ⟨i, -, hTurn⟩ := List.mem_flatMap.mp hMem
    simp only [List.mem_cons, List.not_mem_nil, or_false] at hTurn
    rcases hTurn with rfl | rfl <;> rfl
  rw [submissions, inTurn, List.flatMap_append, hSubmit, hTurns, List.append_nil]

theorem submissions_cons {h : Hasher} (a : Action h) (history : List (Action h)) :
    submissions (a :: history) = a.submitted ++ submissions history :=
  rfl

theorem Moves.submitted_eq_nil {h : Hasher} {job : Job h} {i : Nat} {a : Action h}
    {stage next : Stage} (hMoves : Moves job i a stage next) : a.submitted = [] := by
  cases hMoves <;> rfl

/-- Each action brings its job nearer to its end. -/
theorem Moves.ahead_lt {h : Hasher} {job : Job h} {i : Nat} {a : Action h} {stage next : Stage}
    (hMoves : Moves job i a stage next) : next.ahead < stage.ahead := by
  cases hMoves <;> simp [Stage.ahead]

namespace State

variable {h : Hasher} {s s' : State h} {a : Action h} {i : Nat} {job : Job h} {stage next : Stage}
  {actions : List (Action h)}

def jobs (s : State h) : List (Job h) :=
  s.tickets.map Ticket.job

/-- Nothing is left to happen: no waiting job can start, and no worker is left to end. -/
def IsAtRest (s : State h) : Prop :=
  ∀ i, s.perform (.start i) = none ∧ s.perform (.finish i) = none

theorem jobs_setStage (s : State h) (i : Nat) (stage : Stage) :
    (s.setStage i stage).jobs = s.jobs := by
  apply List.ext_getElem?
  intro j
  simp only [jobs, setStage, List.getElem?_map, List.getElem?_modify]
  cases s.tickets[j]? with
  | none => rfl
  | some ticket => by_cases hSame : i = j <;> simp [hSame]

/-- An action keeps the jobs and their order, and adds at most the one it submits. -/
theorem jobs_of_perform (hPerform : s.perform a = some s') : s'.jobs = s.jobs ++ a.submitted := by
  rcases perform_cases hPerform with
    ⟨job, rfl, rfl⟩ | ⟨i, job, stage, next, -, hMoves, hTickets, -⟩
  · simp [jobs, Action.submitted]
  · rw [hMoves.submitted_eq_nil, List.append_nil, ← jobs_setStage s i next, jobs, hTickets, jobs]

/-- The jobs of a pool are those that were submitted, in their order. -/
theorem jobs_of_performAll (hRun : s.performAll actions = some s') :
    s'.jobs = s.jobs ++ submissions actions := by
  induction actions generalizing s with
  | nil =>
      obtain rfl := Option.some.inj hRun
      exact (List.append_nil _).symm
  | cons a actions ih =>
      obtain ⟨middle, hFirst, hRest⟩ := performAll_cons_eq_some_iff.mp hRun
      rw [ih hRest, jobs_of_perform hFirst, List.append_assoc, submissions_cons]

/-- Every action uses up one of those that its job may still see. -/
theorem sum_ahead_of_perform (hPerform : s.perform a = some s') :
    s'.sum Stage.ahead + 1 ≤ s.sum Stage.ahead + 4 * a.submitted.length := by
  rcases perform_cases hPerform with
    ⟨job, rfl, rfl⟩ | ⟨i, job, stage, next, hTicket, hMoves, hTickets, -⟩
  · simp [sum, Action.submitted, Stage.ahead]
  · have hSum := sum_setStage Stage.ahead hTicket next
    have hLess := hMoves.ahead_lt
    have hSame : s'.sum Stage.ahead = (s.setStage i next).sum Stage.ahead := by
      rw [sum, hTickets, sum]
    omega

/-- A history is no longer than four actions for each job submitted in it, and what was still ahead
of the jobs already there. -/
theorem length_le_of_performAll (hRun : s.performAll actions = some s') :
    actions.length + s'.sum Stage.ahead ≤
      s.sum Stage.ahead + 4 * (submissions actions).length := by
  induction actions generalizing s with
  | nil =>
      obtain rfl := Option.some.inj hRun
      simp [submissions]
  | cons a actions ih =>
      obtain ⟨middle, hFirst, hRest⟩ := performAll_cons_eq_some_iff.mp hRun
      have hOne := sum_ahead_of_perform hFirst
      have hMany := ih hRest
      rw [submissions_cons, List.length_append, List.length_cons]
      omega

/-- Where the stage of a job comes from: it was there before, or an action in the life of the job
brought it about, or the job is new. -/
theorem ticket_before_perform (hPerform : s.perform a = some s')
    (hTicket : s'.tickets[i]? = some ⟨job, next⟩) :
    s.tickets[i]? = some ⟨job, next⟩ ∨
      (∃ stage, s.tickets[i]? = some ⟨job, stage⟩ ∧ Moves job i a stage next) ∨
        next = .waiting := by
  rcases perform_cases hPerform with
    ⟨fresh, rfl, rfl⟩ | ⟨j, other, stage, reached, hOther, hMoves, hTickets, -⟩
  · by_cases hOld : i < s.tickets.length
    · left
      rwa [List.getElem?_append_left hOld] at hTicket
    · rw [List.getElem?_append_right (Nat.not_lt.mp hOld)] at hTicket
      have hNew := List.mem_of_getElem? hTicket
      rw [List.mem_singleton, Ticket.mk.injEq] at hNew
      exact .inr (.inr hNew.2)
  · by_cases hSame : j = i
    · subst hSame
      rw [hTickets, getElem?_setStage_self hOther] at hTicket
      obtain ⟨rfl, rfl⟩ : other = job ∧ reached = next := by simpa using hTicket
      exact .inr (.inl ⟨stage, hOther, hMoves⟩)
    · left
      rwa [hTickets, getElem?_setStage_of_ne hSame] at hTicket

/-- A job that nobody disturbs waits, or runs for its caller, or has been answered with its own
result, whatever happens to the other jobs. -/
theorem stage_of_performAll (hRun : s.performAll actions = some s') (hStart : s.tickets = [])
    (hAlone : ∀ a ∈ actions, ¬ a.Disturbs i) (hTicket : s'.tickets[i]? = some ⟨job, stage⟩) :
    stage = .waiting ∨ stage = .running true ∨ stage = .answered job.run.answer := by
  refine performAll_induction
    (P := fun t => ∀ stage, t.tickets[i]? = some ⟨job, stage⟩ →
      stage = .waiting ∨ stage = .running true ∨ stage = .answered job.run.answer)
    (fun a hMem t t' hPerform hStages next hNext => ?_) hRun (by simp [hStart]) stage hTicket
  rcases ticket_before_perform hPerform hNext with hSame | ⟨stage, hStage, hMoves⟩ | rfl
  · exact hStages next hSame
  · have hBefore := hStages stage hStage
    have hSpared := hAlone a hMem
    cases hMoves with
    | start => exact .inr (.inl rfl)
    | finish => exact .inr (.inr rfl)
    | finishAlone => simp at hBefore
    | fail reason => exact absurd rfl hSpared
    | failAlone reason => exact absurd rfl hSpared
    | leaveQueue => exact absurd rfl hSpared
    | leaveWorker => exact absurd rfl hSpared
  · exact .inl rfl

/-- In any run at all, an answer is the result of the job itself or tells that its own worker broke
down. -/
theorem answer_of_performAll (hRun : s.performAll actions = some s') (hStart : s.tickets = [])
    {answer : Except Failure Reply} (hTicket : s'.tickets[i]? = some ⟨job, .answered answer⟩) :
    answer = job.run.answer ∨ ∃ reason, .fail i reason ∈ actions ∧
      answer = .error (.derivationFailure (.workerFailed reason)) := by
  refine performAll_induction
    (P := fun t => ∀ answer, t.tickets[i]? = some ⟨job, .answered answer⟩ →
      answer = job.run.answer ∨ ∃ reason, .fail i reason ∈ actions ∧
        answer = .error (.derivationFailure (.workerFailed reason)))
    (fun a hMem t t' hPerform hAnswers answer hNext => ?_) hRun (by simp [hStart]) answer hTicket
  rcases ticket_before_perform hPerform hNext with hSame | ⟨stage, -, hMoves⟩ | hWaiting
  · exact hAnswers answer hSame
  · cases hMoves with
    | finish => exact .inl rfl
    | fail reason => exact .inr ⟨reason, hMem, rfl⟩
  · cases hWaiting

/-- From every moment the jobs can be worked off, with no further submission and no trouble. Any job
that can start or end may do so next, and leaves fewer actions ahead. -/
theorem exists_isAtRest (s : State h) :
    ∃ rest t, s.performAll rest = some t ∧ (∀ a ∈ rest, ∀ i, ¬ a.Disturbs i) ∧
      submissions rest = [] ∧ t.IsAtRest := by
  generalize hAhead : s.sum Stage.ahead = n
  induction n using Nat.strongRecOn generalizing s with
  | ind n ih =>
      by_cases hRest : s.IsAtRest
      · exact ⟨[], s, rfl, by simp, rfl, hRest⟩
      · obtain ⟨a, next, hPerform, hSpares, hNothing⟩ : ∃ (a : Action h) (next : State h),
            s.perform a = some next ∧ (∀ i, ¬ a.Disturbs i) ∧ a.submitted = [] := by
          simp only [IsAtRest, not_forall, not_and_or, ← ne_eq, Option.ne_none_iff_exists'] at hRest
          obtain ⟨i, ⟨next, hPerform⟩ | ⟨next, hPerform⟩⟩ := hRest
          · exact ⟨.start i, next, hPerform, fun _ => id, rfl⟩
          · exact ⟨.finish i, next, hPerform, fun _ => id, rfl⟩
        have hLess := sum_ahead_of_perform hPerform
        rw [hNothing, List.length_nil] at hLess
        obtain ⟨rest, t, hRun, hUndisturbed, hNone, hEnd⟩ :=
          ih (next.sum Stage.ahead) (by omega) next rfl
        refine ⟨a :: rest, t, performAll_cons_eq_some_iff.mpr ⟨next, hPerform, hRun⟩, ?_, ?_, hEnd⟩
        · exact List.forall_mem_cons.mpr ⟨hSpares, hUndisturbed⟩
        · rw [submissions_cons, hNothing, List.nil_append, hNone]

theorem running_of_isAtRest (hRest : s.IsAtRest) : s.running = 0 := by
  rw [running, List.countP_eq_zero]
  rintro ⟨job, stage⟩ hMem hRunning
  obtain ⟨i, hTicket⟩ := List.getElem?_of_mem hMem
  cases stage with
  | running awaited =>
      have hEnds : Action.EndsWorker i (.finish i : Action h) := rfl
      obtain ⟨next, hMoves, hEnded⟩ := hEnds.exists_moves job awaited
      obtain ⟨t, hPerform, -⟩ := exists_perform hTicket hMoves (by simp [hEnded])
      rw [(hRest i).2] at hPerform
      cases hPerform
  | waiting => cases hRunning
  | answered answer => cases hRunning
  | dropped => cases hRunning

/-- At rest nobody waits for a permit while one is free. -/
theorem not_waiting_of_isAtRest (hRest : s.IsAtRest) (hFree : 0 < s.available) :
    s.tickets[i]? ≠ some ⟨job, .waiting⟩ := by
  intro hTicket
  obtain ⟨t, hPerform, -⟩ := exists_perform hTicket .start hFree
  rw [(hRest i).1] at hPerform
  cases hPerform

/-- Once all jobs are answered nothing is left to happen. -/
theorem isAtRest_of_answered
    (hAnswered : ∀ ticket ∈ s.tickets, ∃ answer, ticket.stage = .answered answer) :
    s.IsAtRest := by
  have hNone (a : Action h) (hNothing : a.submitted = []) : s.perform a = none := by
    rw [Option.eq_none_iff_forall_ne_some]
    intro t hPerform
    rcases perform_cases hPerform with ⟨job, rfl, -⟩ | ⟨i, job, stage, next, hTicket, hMoves, -⟩
    · cases hNothing
    · obtain ⟨answer, rfl⟩ := hAnswered _ (List.mem_of_getElem? hTicket)
      cases hMoves
  exact fun i => ⟨hNone (.start i) rfl, hNone (.finish i) rfl⟩

/-- Answered jobs have their answers listed in the order of the jobs. -/
theorem answers_of_answered {jobs : List (Job h)}
    (hTickets : s.tickets = jobs.map fun job => ⟨job, .answered job.run.answer⟩) :
    s.answers = jobs.map fun job => job.run.answer := by
  rw [answers, hTickets, List.filterMap_map]
  exact congrFun List.filterMap_eq_map _

theorem jobs_eq_submissions (hRun : s.performAll actions = some s')
    (hStart : s.tickets = []) : s'.jobs = submissions actions := by
  rw [jobs_of_performAll hRun, jobs, hStart, List.map_nil, List.nil_append]

/-- A job keeps its place from its submission on. -/
theorem exists_ticket_of_performAll (hRun : s.performAll actions = some s')
    (hStart : s.tickets = []) (hJob : (submissions actions)[i]? = some job) :
    ∃ stage, s'.tickets[i]? = some ⟨job, stage⟩ := by
  rw [← jobs_eq_submissions hRun hStart, jobs, List.getElem?_map, Option.map_eq_some_iff] at hJob
  obtain ⟨⟨job, stage⟩, hTicket, rfl⟩ := hJob
  exact ⟨stage, hTicket⟩

end State

variable {h : Hasher} {n : UInt64} {p : Pool}

/-- The plain history of some jobs comes to rest. -/
theorem run_isAtRest (p : Pool) (jobs : List (Job p.hasher)) : (p.run jobs).IsAtRest := by
  rw [run_eq]
  refine State.isAtRest_of_answered fun ticket hMem => ?_
  obtain ⟨job, -, rfl⟩ := List.mem_map.mp hMem
  exact ⟨_, rfl⟩

/-- The plain history gives all answers, in the order of the jobs. -/
theorem answers_run (p : Pool) (jobs : List (Job p.hasher)) :
    (p.run jobs).answers = jobs.map fun job => job.run.answer := by
  rw [run_eq]
  exact State.answers_of_answered rfl

/-- All jobs of a pool that has come to rest have ended, and all its permits are free. -/
theorem available_of_isAtRest (hPool : ofHasher h n = .ok p) {history : List (Action p.hasher)}
    {s : State p.hasher} (hHistory : p.initial.performAll history = some s) (hRest : s.IsAtRest) :
    s.available = n.toNat := by
  have hPermits := available_add_running hPool hHistory
  rwa [State.running_of_isAtRest hRest, Nat.add_zero] at hPermits

/-- Once the pool is at rest, the job of an undisturbed caller has been answered with its own
result. At rest a permit is free, so that the job cannot be left waiting. -/
theorem answered_of_isAtRest (hPool : ofHasher h n = .ok p) {history : List (Action p.hasher)}
    {s : State p.hasher} (hHistory : p.initial.performAll history = some s) (hRest : s.IsAtRest)
    {i : Nat} {job : Job p.hasher} (hAlone : ∀ a ∈ history, ¬ a.Disturbs i)
    (hJob : (submissions history)[i]? = some job) :
    s.tickets[i]? = some ⟨job, .answered job.run.answer⟩ := by
  obtain ⟨stage, hTicket⟩ := State.exists_ticket_of_performAll hHistory rfl hJob
  rcases State.stage_of_performAll hHistory rfl hAlone hTicket with rfl | rfl | rfl
  · have hFree : 0 < s.available := by
      rw [available_of_isAtRest hPool hHistory hRest, ← (ofHasher_eq_ok_iff.mp hPool).2]
      exact p.positive
    exact absurd hTicket (State.not_waiting_of_isAtRest hRest hFree)
  · have hPositive := State.running_pos hTicket rfl
    rw [State.running_of_isAtRest hRest] at hPositive
    cases hPositive
  · exact hTicket

/-- With no caller disturbed, the pool at rest has the results of all jobs, in their order. -/
theorem answers_of_isAtRest (hPool : ofHasher h n = .ok p) {history : List (Action p.hasher)}
    {s : State p.hasher} (hHistory : p.initial.performAll history = some s) (hRest : s.IsAtRest)
    (hUndisturbed : ∀ a ∈ history, ∀ i, ¬ a.Disturbs i) :
    s.answers = (submissions history).map fun job => job.run.answer := by
  have hLength : s.tickets.length = (submissions history).length := by
    rw [← State.jobs_eq_submissions hHistory rfl, State.jobs, List.length_map]
  refine State.answers_of_answered (List.ext_getElem? fun i => ?_)
  rw [List.getElem?_map]
  cases hJob : (submissions history)[i]? with
  | some job =>
      have hAlone : ∀ a ∈ history, ¬ a.Disturbs i := fun a hMem => hUndisturbed a hMem i
      exact answered_of_isAtRest hPool hHistory hRest hAlone hJob
  | none =>
      rw [List.getElem?_eq_none_iff] at hJob
      rw [List.getElem?_eq_none (hLength ▸ hJob), Option.map_none]

/-- A pool changes no result. Take any jobs and any history of a new pool that submits them in this
order, with other actions between as they come. The history is bounded and can be brought to rest,
and then all permits are free. Whoever is answered gets what their own job gave, or is told that its
worker broke down. A job that nobody disturbed is answered, whatever the other jobs did and however
those ended. With no job disturbed, the answers come in the order of the jobs and are those of the
hasher asked directly, for a new record with the draw of the job. The plainest history is an
instance and gives all of them, so that hashing and verifying in the pool are those of the hasher,
events included. -/
theorem answers_are_direct (hPool : ofHasher h n = .ok p) (jobs : List (Job p.hasher)) :
    p.hasher = h ∧
      p.initial.performAll (inTurn jobs) = some (p.run jobs) ∧ submissions (inTurn jobs) = jobs ∧
      (p.run jobs).IsAtRest ∧ (p.run jobs).answers = jobs.map (fun job => job.run.answer) ∧
      (∀ password draw, p.hash password draw = p.hasher.hash password.bytes draw) ∧
      (∀ password record, p.verify password record = p.hasher.verify password.bytes record) ∧
      ∀ history s, p.initial.performAll history = some s → submissions history = jobs →
        history.length ≤ 4 * jobs.length ∧
        (∃ rest t, s.performAll rest = some t ∧ (∀ a ∈ rest, ∀ i, ¬ a.Disturbs i) ∧
          submissions rest = [] ∧ t.IsAtRest) ∧
        (∀ (i : Nat) job answer, s.tickets[i]? = some ⟨job, .answered answer⟩ →
          answer = job.run.answer ∨ ∃ reason, .fail i reason ∈ history ∧
            answer = .error (.derivationFailure (.workerFailed reason))) ∧
        (s.IsAtRest → s.available = n.toNat ∧
          (∀ i job, jobs[i]? = some job → (∀ a ∈ history, ¬ a.Disturbs i) →
            s.tickets[i]? = some ⟨job, .answered job.run.answer⟩) ∧
          ((∀ a ∈ history, ∀ i, ¬ a.Disturbs i) →
            s.answers.length = jobs.length ∧
            (∀ (i : Nat) password record, jobs[i]? = some (.verify password record) →
              s.answers[i]? = some ((p.hasher.verify password.bytes record).answer.map .verified)) ∧
            ∀ (i : Nat) password draw, jobs[i]? = some (.hash password draw) →
              s.answers[i]? = some ((p.hasher.hash password.bytes draw).answer.map .hashed))) := by
  refine ⟨(ofHasher_eq_ok_iff.mp hPool).1, by rw [performAll_inTurn, run_eq],
    submissions_inTurn jobs, run_isAtRest p jobs, answers_run p jobs, p.hash_eq, p.verify_eq, ?_⟩
  rintro history s hHistory rfl
  refine ⟨?_, State.exists_isAtRest s,
    fun i job answer hTicket => State.answer_of_performAll hHistory rfl hTicket,
    fun hRest => ⟨available_of_isAtRest hPool hHistory hRest,
      fun i job hJob hAlone => answered_of_isAtRest hPool hHistory hRest hAlone hJob,
      fun hUndisturbed => ?_⟩⟩
  · have hBound := State.length_le_of_performAll hHistory
    have hNothing : p.initial.sum Stage.ahead = 0 := rfl
    omega
  · have hAnswers := answers_of_isAtRest hPool hHistory hRest hUndisturbed
    rw [hAnswers]
    refine ⟨List.length_map _, fun i password record hJob => ?_, fun i password draw hJob => ?_⟩
    · rw [List.getElem?_map, hJob, Option.map_some, Job.run]
    · rw [List.getElem?_map, hJob, Option.map_some, Job.run]

/-- In a pool of two, the second job starts and ends first, and the third starts before the first
ends. The answers stand in the order of the jobs, the failure of the first among them. -/
theorem two_permits_answer_directly :
    ∃ (p : Pool) (history : List (Action p.hasher)) (s : State p.hasher),
      ofHasher .testing 2 = .ok p ∧ p.initial.performAll history = some s ∧ s.IsAtRest ∧
        s.available = 2 ∧
        s.answers[0]? = some (.error (.malformedRecord (.fieldCount 1))) ∧
        s.answers[1]? =
          some ((Hasher.testing.hash [0x70] (Vector.replicate 16 0)).answer.map .hashed) ∧
        s.answers[2]? =
          some ((Hasher.testing.verify [0x71] ⟨"salt:key"⟩).answer.map .verified) := by
  let p : Pool := ⟨.testing, 2, by decide, by decide⟩
  let first : Job p.hasher := .verify ⟨[0x70], by decide⟩ ⟨"not-a-valid-record"⟩
  let second : Job p.hasher := .hash ⟨[0x70], by decide⟩ (Vector.replicate 16 0)
  let third : Job p.hasher := .verify ⟨[0x71], by decide⟩ ⟨"salt:key"⟩
  let history : List (Action p.hasher) :=
    [.submit first, .submit second, .start 1, .submit third, .start 0, .finish 1, .start 2,
      .finish 0, .finish 2]
  let s : State p.hasher :=
    ⟨2, [first, second, third].map fun job => ⟨job, .answered job.run.answer⟩,
      [] ++ second.run.events ++ first.run.events ++ third.run.events⟩
  have hPool : ofHasher .testing 2 = .ok p := ofHasher_eq_ok_iff.mpr ⟨rfl, rfl⟩
  have hHistory : p.initial.performAll history = some s := rfl
  have hRest : s.IsAtRest := State.isAtRest_of_answered (by simp [s])
  obtain ⟨-, -, -, -, -, -, -, hAll⟩ := answers_are_direct hPool [first, second, third]
  obtain ⟨-, -, -, hEnd⟩ := hAll history s hHistory rfl
  obtain ⟨hAvailable, -, hAnswers⟩ := hEnd hRest
  obtain ⟨-, hVerified, hHashed⟩ := hAnswers (by simp [history, Action.Disturbs])
  refine ⟨p, history, s, hPool, hHistory, hRest, hAvailable, ?_, hHashed 1 _ _ rfl,
    hVerified 2 _ _ rfl⟩
  exact hVerified 0 ⟨[0x70], by decide⟩ ⟨"not-a-valid-record"⟩ rfl

end Pool

end PasswordHashing
