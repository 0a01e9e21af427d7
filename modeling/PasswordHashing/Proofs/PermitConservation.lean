import Mathlib.Algebra.GroupWithZero.Nat
import PasswordHashing.Proofs.RoundTrip
import PasswordHashing.Pool

/-! Where the permits of a pool are. Callers, workers and the order of their actions are free: any
number of jobs wait, start, end, break down and are abandoned in any interleaving. At every moment a
permit is either free or held by the worker of one job, whether or not anyone waits for that job. -/
namespace PasswordHashing

def Stage.isRunning : Stage → Bool
  | .running _ => true
  | _ => false

namespace Pool

/-- The actions in the life of one job, `i` in the order of submission. An answer is given only
while its caller waits. -/
inductive Moves {h : Hasher} (job : Job h) (i : Nat) : Action h → Stage → Stage → Prop where
  | start : Moves job i (.start i) .waiting (.running true)
  | finish : Moves job i (.finish i) (.running true) (.answered job.run.answer)
  | finishAlone : Moves job i (.finish i) (.running false) .dropped
  | fail (reason : String) : Moves job i (.fail i reason) (.running true)
      (.answered (.error (.derivationFailure (.workerFailed reason))))
  | failAlone (reason : String) : Moves job i (.fail i reason) (.running false) .dropped
  | leaveQueue : Moves job i (.abandon i) .waiting .dropped
  | leaveWorker : Moves job i (.abandon i) (.running true) (.running false)

/-- The action ends the worker of a job, well or badly. -/
def Action.EndsWorker {h : Hasher} (i : Nat) : Action h → Prop
  | .finish j => j = i
  | .fail j _ => j = i
  | _ => False

/-- The end of a worker, good or bad, takes its job out of the running ones, whether or not its
caller waits. -/
theorem Action.EndsWorker.exists_moves {h : Hasher} {i : Nat} {a : Action h}
    (hEnds : a.EndsWorker i) (job : Job h) (awaited : Bool) :
    ∃ next, Moves job i a (.running awaited) next ∧ next.isRunning = false := by
  cases a with
  | finish j =>
      obtain rfl : j = i := hEnds
      cases awaited with
      | true => exact ⟨_, .finish, rfl⟩
      | false => exact ⟨_, .finishAlone, rfl⟩
  | fail j reason =>
      obtain rfl : j = i := hEnds
      cases awaited with
      | true => exact ⟨_, .fail reason, rfl⟩
      | false => exact ⟨_, .failAlone reason, rfl⟩
  | submit _ => cases hEnds
  | start _ => cases hEnds
  | abandon _ => cases hEnds

namespace State

variable {h : Hasher} {s s' : State h} {a : Action h} {i : Nat} {job : Job h} {stage next : Stage}
  {actions : List (Action h)}

def running (s : State h) : Nat :=
  s.tickets.countP fun ticket => ticket.stage.isRunning

/-- The sum of a weight over all jobs, by how far they have come. -/
def sum (weight : Stage → Nat) (s : State h) : Nat :=
  (s.tickets.map fun ticket => weight ticket.stage).sum

theorem running_eq_sum (s : State h) : s.running = s.sum fun stage => stage.isRunning.toNat := by
  rw [running, sum]
  induction s.tickets with
  | nil => rfl
  | cons ticket tickets ih =>
      rw [List.countP_cons, ih, List.map_cons, List.sum_cons, Nat.add_comm]
      cases ticket.stage.isRunning <;> rfl

/-- Bringing one job to another stage changes a sum by the weights of its two stages. -/
theorem sum_setStage (weight : Stage → Nat) (hTicket : s.tickets[i]? = some ⟨job, stage⟩)
    (next : Stage) :
    (s.setStage i next).sum weight + weight stage = s.sum weight + weight next := by
  obtain ⟨hLength, -⟩ := List.getElem?_eq_some_iff.mp hTicket
  obtain ⟨before, ticket, after, hTickets, hBefore, hModify⟩ :=
    List.exists_of_modify (fun ticket => { ticket with stage := next }) hLength
  obtain rfl : ticket = ⟨job, stage⟩ := by
    rw [hTickets, ← hBefore] at hTicket
    simpa using hTicket
  simp only [sum, setStage, hModify]
  simp only [hTickets, List.map_append, List.map_cons, List.sum_append, List.sum_cons]
  omega

/-- All that an action can do: a job is submitted, or one job goes on in its life and takes or gives
back the permit that this calls for. -/
theorem perform_cases (hPerform : s.perform a = some s') :
    (∃ job, a = .submit job ∧ s' = { s with tickets := s.tickets ++ [⟨job, .waiting⟩] }) ∨
      ∃ i job stage next, s.tickets[i]? = some ⟨job, stage⟩ ∧ Moves job i a stage next ∧
        s'.tickets = (s.setStage i next).tickets ∧
        s'.available + next.isRunning.toNat = s.available + stage.isRunning.toNat := by
  cases a with
  | submit job => exact .inl ⟨job, rfl, (Option.some.inj hPerform).symm⟩
  | start i =>
      refine .inr ?_
      simp only [perform] at hPerform
      split at hPerform
      · rename_i job free hTicket hFree
        cases hPerform
        exact ⟨i, job, _, _, hTicket, .start, rfl, hFree.symm⟩
      · cases hPerform
  | finish i =>
      refine .inr ?_
      simp only [perform] at hPerform
      split at hPerform
      · rename_i job awaited hTicket
        cases hPerform
        cases awaited with
        | true => exact ⟨i, job, _, _, hTicket, .finish, rfl, rfl⟩
        | false => exact ⟨i, job, _, _, hTicket, .finishAlone, rfl, rfl⟩
      · cases hPerform
  | fail i reason =>
      refine .inr ?_
      simp only [perform] at hPerform
      split at hPerform
      · rename_i job awaited hTicket
        cases hPerform
        cases awaited with
        | true => exact ⟨i, job, _, _, hTicket, .fail reason, rfl, rfl⟩
        | false => exact ⟨i, job, _, _, hTicket, .failAlone reason, rfl, rfl⟩
      · cases hPerform
  | abandon i =>
      refine .inr ?_
      simp only [perform] at hPerform
      split at hPerform
      · rename_i job hTicket
        cases hPerform
        exact ⟨i, job, _, _, hTicket, .leaveQueue, rfl, rfl⟩
      · rename_i job hTicket
        cases hPerform
        exact ⟨i, job, _, _, hTicket, .leaveWorker, rfl, rfl⟩
      · cases hPerform

/-- An action in the life of a job is possible unless it calls for a permit and none is free. -/
theorem exists_perform (hTicket : s.tickets[i]? = some ⟨job, stage⟩)
    (hMoves : Moves job i a stage next)
    (hPermit : next.isRunning.toNat ≤ s.available + stage.isRunning.toNat) :
    ∃ s', s.perform a = some s' ∧ s'.tickets = (s.setStage i next).tickets ∧
      s'.available + next.isRunning.toNat = s.available + stage.isRunning.toNat := by
  cases hMoves with
  | start =>
      obtain ⟨free, hFree⟩ : ∃ free, s.available = free + 1 :=
        ⟨s.available - 1, (Nat.sub_add_cancel hPermit).symm⟩
      refine ⟨{ s.setStage i (.running true) with available := free }, ?_, rfl, hFree.symm⟩
      simp only [perform, hTicket, hFree]
  | finish =>
      refine ⟨s.endWorker i true job.run, ?_, rfl, rfl⟩
      simp only [perform, hTicket]
  | finishAlone =>
      refine ⟨s.endWorker i false job.run, ?_, rfl, rfl⟩
      simp only [perform, hTicket]
  | fail reason =>
      let failure := Failure.derivationFailure (.workerFailed reason)
      refine ⟨s.endWorker i true failure.logged, ?_, rfl, rfl⟩
      simp only [perform, hTicket, if_true, failure]
  | failAlone reason =>
      let failure := Failure.derivationFailure (.workerFailed reason)
      refine ⟨s.endWorker i false (.silent (.error failure)), ?_, rfl, rfl⟩
      simp [perform, hTicket, failure]
  | leaveQueue =>
      refine ⟨s.setStage i .dropped, ?_, rfl, rfl⟩
      simp only [perform, hTicket]
  | leaveWorker =>
      refine ⟨s.setStage i (.running false), ?_, rfl, rfl⟩
      simp only [perform, hTicket]

theorem getElem?_setStage_self (hTicket : s.tickets[i]? = some ⟨job, stage⟩) (next : Stage) :
    (s.setStage i next).tickets[i]? = some ⟨job, next⟩ := by
  simp [setStage, hTicket]

theorem getElem?_setStage_of_ne {j : Nat} (hNe : j ≠ i) (next : Stage) :
    (s.setStage j next).tickets[i]? = s.tickets[i]? :=
  List.getElem?_modify_ne _ _ hNe

/-- What an action does to one job: nothing, or what is in the life of the job. -/
theorem ticket_of_perform (hPerform : s.perform a = some s')
    (hTicket : s.tickets[i]? = some ⟨job, stage⟩) :
    s'.tickets[i]? = some ⟨job, stage⟩ ∨
      ∃ next, Moves job i a stage next ∧ s'.tickets[i]? = some ⟨job, next⟩ := by
  rcases perform_cases hPerform with
    ⟨fresh, rfl, rfl⟩ | ⟨j, other, old, next, hOther, hMoves, hTickets, -⟩
  · obtain ⟨hLength, -⟩ := List.getElem?_eq_some_iff.mp hTicket
    left
    rw [List.getElem?_append_left hLength, hTicket]
  · by_cases hSame : j = i
    · subst hSame
      obtain ⟨rfl, rfl⟩ : other = job ∧ old = stage := by simpa [hOther] using hTicket
      right
      exact ⟨next, hMoves, by rw [hTickets, getElem?_setStage_self hTicket]⟩
    · left
      rw [hTickets, getElem?_setStage_of_ne hSame, hTicket]

/-- No action changes how many permits there are. -/
theorem available_add_running_of_perform (hPerform : s.perform a = some s') :
    s'.available + s'.running = s.available + s.running := by
  rcases perform_cases hPerform with
    ⟨job, rfl, rfl⟩ | ⟨i, job, stage, next, hTicket, -, hTickets, hPermit⟩
  · simp [running, Stage.isRunning]
  · have hSum := sum_setStage (fun stage => stage.isRunning.toNat) hTicket next
    have hRunning : s'.running = (s.setStage i next).running := by rw [running, hTickets, running]
    rw [← running_eq_sum, ← running_eq_sum, ← hRunning] at hSum
    omega

theorem performAll_cons_eq_some_iff :
    s.performAll (a :: actions) = some s' ↔
      ∃ middle, s.perform a = some middle ∧ middle.performAll actions = some s' := by
  rw [performAll]
  cases s.perform a <;> simp

/-- What each action preserves, a run preserves. -/
theorem performAll_induction {P : State h → Prop}
    (hStep : ∀ a ∈ actions, ∀ s s', s.perform a = some s' → P s → P s')
    (hRun : s.performAll actions = some s') (hStart : P s) : P s' := by
  induction actions generalizing s with
  | nil =>
      obtain rfl := Option.some.inj hRun
      exact hStart
  | cons a actions ih =>
      obtain ⟨middle, hFirst, hRest⟩ := performAll_cons_eq_some_iff.mp hRun
      refine ih (fun b hMem => hStep b (List.mem_cons_of_mem a hMem)) hRest ?_
      exact hStep a List.mem_cons_self s middle hFirst hStart

/-- Over any history no permit is lost or made: they are free or held by a running job. -/
theorem available_add_running_of_performAll (hRun : s.performAll actions = some s') :
    s'.available + s'.running = s.available + s.running := by
  refine performAll_induction (P := fun t => t.available + t.running = s.available + s.running)
    (fun a _ t t' hPerform hSame => ?_) hRun rfl
  rw [available_add_running_of_perform hPerform, hSame]

/-- A job that was abandoned before it started never takes a permit. -/
theorem dropped_of_performAll (hRun : s.performAll actions = some s')
    (hTicket : s.tickets[i]? = some ⟨job, .dropped⟩) :
    s'.tickets[i]? = some ⟨job, .dropped⟩ := by
  refine performAll_induction (P := fun t => t.tickets[i]? = some ⟨job, .dropped⟩)
    (fun a _ t t' hPerform hDropped => ?_) hRun hTicket
  rcases ticket_of_perform hPerform hDropped with hStays | ⟨next, hMoves, -⟩
  · exact hStays
  · cases hMoves

/-- A worker whose caller has left holds its permit until it ends. -/
theorem running_of_performAll (hRun : s.performAll actions = some s')
    (hTicket : s.tickets[i]? = some ⟨job, .running false⟩)
    (hGoesOn : ∀ a ∈ actions, ¬ a.EndsWorker i) :
    s'.tickets[i]? = some ⟨job, .running false⟩ := by
  refine performAll_induction (P := fun t => t.tickets[i]? = some ⟨job, .running false⟩)
    (fun a hMem t t' hPerform hRunning => ?_) hRun hTicket
  rcases ticket_of_perform hPerform hRunning with hStays | ⟨next, hMoves, -⟩
  · exact hStays
  · have hNot := hGoesOn a hMem
    cases hMoves <;> exact absurd rfl hNot

theorem running_pos (hTicket : s.tickets[i]? = some ⟨job, stage⟩) (hRunning : stage.isRunning) :
    0 < s.running :=
  List.countP_pos_iff.mpr ⟨_, List.mem_of_getElem? hTicket, hRunning⟩

end State

variable {h : Hasher} {n : UInt64} {p : Pool}

/-- A pool that is made has the hasher and the bound it was made with. -/
theorem ofHasher_eq_ok_iff :
    ofHasher h n = .ok p ↔ p.hasher = h ∧ p.maxInFlight = n.toNat := by
  obtain ⟨hasher, maxInFlight, hPositive, hBound⟩ := p
  rw [ofHasher]
  constructor
  · intro hMade
    split at hMade
    · cases hMade
      exact ⟨rfl, rfl⟩
    · cases hMade
  · rintro ⟨rfl, rfl⟩
    exact dif_pos ⟨hPositive, hBound⟩

/-- In a pool the free permits and the running jobs make up its bound at any moment. -/
theorem available_add_running (hPool : ofHasher h n = .ok p) {history : List (Action p.hasher)}
    {s : State p.hasher} (hHistory : p.initial.performAll history = some s) :
    s.available + s.running = n.toNat := by
  obtain ⟨-, hMax⟩ := ofHasher_eq_ok_iff.mp hPool
  have hSame := State.available_add_running_of_performAll hHistory
  have hNone : p.initial.running = 0 := rfl
  rw [hSame, hNone, Nat.add_zero, initial, hMax]

/-- In every history of a pool, the free permits and the running workers add up to the bound that
the pool was made with. So no more workers ever run, and with none running all permits are free and
whoever waits can start. Leaving a job gives no permit back: one that waits has taken none and never
takes any, and one that runs keeps its permit up to the end of its worker, which may be a result, a
failure or a breakdown and frees exactly one permit. -/
theorem permits_are_conserved (hPool : ofHasher h n = .ok p) {history : List (Action p.hasher)}
    {s : State p.hasher} (hHistory : p.initial.performAll history = some s) :
    s.available + s.running = n.toNat ∧
      s.running ≤ n.toNat ∧
      (s.running = 0 → s.available = n.toNat) ∧
      (∀ i job, s.tickets[i]? = some ⟨job, .waiting⟩ →
        (s.running = 0 → ∃ t, s.perform (.start i) = some t) ∧
        ∃ t, s.perform (.abandon i) = some t ∧ t.available = s.available ∧
          ∀ later u, t.performAll later = some u → u.tickets[i]? = some ⟨job, .dropped⟩) ∧
      (∀ i job, s.tickets[i]? = some ⟨job, .running true⟩ →
        ∃ t, s.perform (.abandon i) = some t ∧ t.available = s.available ∧
          ∀ later u, t.performAll later = some u → (∀ a ∈ later, ¬ a.EndsWorker i) →
            u.tickets[i]? = some ⟨job, .running false⟩ ∧ u.available < n.toNat) ∧
      ∀ i job awaited, s.tickets[i]? = some ⟨job, .running awaited⟩ →
        ∀ a : Action p.hasher, a.EndsWorker i →
          ∃ t, s.perform a = some t ∧ t.available = s.available + 1 := by
  have hPermits := available_add_running hPool hHistory
  refine ⟨hPermits, by omega, by omega, fun i job hTicket => ⟨fun hIdle => ?_, ?_⟩,
    fun i job hTicket => ?_, fun i job awaited hTicket a hEnds => ?_⟩
  · have hPositive : 0 < n.toNat := (ofHasher_eq_ok_iff.mp hPool).2 ▸ p.positive
    have hFree : 1 ≤ s.available := by omega
    obtain ⟨t, hPerform, -⟩ := State.exists_perform hTicket .start hFree
    exact ⟨t, hPerform⟩
  · obtain ⟨t, hPerform, hTickets, hAvailable⟩ :=
      State.exists_perform hTicket .leaveQueue (Nat.zero_le _)
    refine ⟨t, hPerform, hAvailable, fun later u hLater => ?_⟩
    apply State.dropped_of_performAll hLater
    rw [hTickets, State.getElem?_setStage_self hTicket]
  · obtain ⟨t, hPerform, hTickets, hAvailable⟩ :=
      State.exists_perform hTicket .leaveWorker (Nat.le_add_left _ _)
    refine ⟨t, hPerform, Nat.add_right_cancel hAvailable, fun later u hLater hGoesOn => ?_⟩
    have hAbandoned : t.tickets[i]? = some ⟨job, .running false⟩ := by
      rw [hTickets, State.getElem?_setStage_self hTicket]
    have hRuns := State.running_of_performAll hLater hAbandoned hGoesOn
    have hPositive := State.running_pos hRuns rfl
    have hFirst := State.available_add_running_of_perform hPerform
    have hRest := State.available_add_running_of_performAll hLater
    exact ⟨hRuns, by omega⟩
  · obtain ⟨next, hMoves, hEnded⟩ := hEnds.exists_moves job awaited
    obtain ⟨t, hPerform, -, hAvailable⟩ :=
      State.exists_perform hTicket hMoves (by simp [hEnded])
    rw [hEnded] at hAvailable
    exact ⟨t, hPerform, hAvailable⟩

/-- A pool of two with three jobs: the first was started and abandoned, the second was abandoned
while it waited, the third is running. Both permits are taken. A breakdown of the first worker frees
one of them, and leaving the third job frees none. -/
theorem two_permits_are_conserved :
    ∃ (p : Pool) (job : Job p.hasher) (history : List (Action p.hasher)) (s : State p.hasher),
      ofHasher .testing 2 = .ok p ∧ p.initial.performAll history = some s ∧
        s.tickets[0]? = some ⟨job, .running false⟩ ∧ s.tickets[1]? = some ⟨job, .dropped⟩ ∧
        s.tickets[2]? = some ⟨job, .running true⟩ ∧
        s.available + s.running = 2 ∧ s.running ≤ 2 ∧
        (∃ t, s.perform (.fail 0 "task panicked") = some t ∧ t.available = 1) ∧
        ∃ t, s.perform (.abandon 2) = some t ∧ t.available = 0 ∧
          ∀ later u, t.performAll later = some u → (∀ a ∈ later, ¬ a.EndsWorker 2) →
            u.available < 2 := by
  let p : Pool := ⟨.testing, 2, by decide, by decide⟩
  let job : Job p.hasher := .verify ⟨[0x70], by decide⟩ ⟨"not-a-valid-record"⟩
  let history : List (Action p.hasher) :=
    [.submit job, .submit job, .submit job, .start 0, .start 2, .abandon 0, .abandon 1]
  let s : State p.hasher := ⟨0, [⟨job, .running false⟩, ⟨job, .dropped⟩, ⟨job, .running true⟩], []⟩
  have hPool : ofHasher .testing 2 = .ok p := ofHasher_eq_ok_iff.mpr ⟨rfl, rfl⟩
  have hHistory : p.initial.performAll history = some s := rfl
  obtain ⟨hSum, hBound, -, -, hAbandon, hEnd⟩ := permits_are_conserved hPool hHistory
  refine ⟨p, job, history, s, hPool, hHistory, rfl, rfl, rfl, hSum, hBound, ?_, ?_⟩
  · exact hEnd 0 job false rfl (.fail 0 "task panicked") rfl
  · obtain ⟨t, hPerform, hAvailable, hLater⟩ := hAbandon 2 job rfl
    exact ⟨t, hPerform, hAvailable, fun later u hRun hGoesOn => (hLater later u hRun hGoesOn).2⟩

end Pool

end PasswordHashing
