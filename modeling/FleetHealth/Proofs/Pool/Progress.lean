import FleetHealth.Proofs.Pool.Safety
import Mathlib.Algebra.GroupWithZero.Nat

/- The pool comes to its end in every order of moves: as long as it is not there something can
   happen, and every move takes off what is left to do. That holds as well when the last worker
   dies with the queue full and the producer waiting, a state that can be reached. -/
namespace FleetHealth.Pool

variable {concurrency : Nat} {jobs : List Job} {events : List Event} {s t : State} {e : Event}

theorem worker_of_not_gone (alive : s.allGone = false) :
    ∃ (w : Nat) (v : Worker), s.workers[w]? = some v ∧ v.gone = false := by
  obtain ⟨v, mem, lives⟩ := List.all_eq_false.mp alive
  obtain ⟨w, here⟩ := List.mem_iff_getElem?.mp mem
  exact ⟨w, v, here, by simpa using lives⟩

theorem inFlight_of_gone (gone : s.allGone = true) : s.inFlight = [] := by
  refine List.filterMap_eq_nil_iff.mpr fun v mem => ?_
  rcases gone_of_allGone gone mem with rfl | rfl <;> rfl

theorem busy_moves (sound : Sound concurrency jobs events s) {w j : Nat}
    (works : s.workers[w]? = some (.busy j)) : ∃ e t, Move jobs s e t := by
  obtain ⟨inside, _⟩ := sound.once.unsettled (j := j) (by simp [mem_inFlight works])
  have known : jobs[j]? = some jobs[j] := List.getElem?_eq_getElem inside
  cases ends : jobs[j].check.outcome with
  | none => exact ⟨_, _, .crash works known ends⟩
  | some o => exact ⟨_, _, .finish works known ends⟩

theorem worker_moves (sound : Sound concurrency jobs events s) (alive : s.allGone = false)
    (ready : s.queue ≠ [] ∨ s.closed = true) : ∃ e t, Move jobs s e t := by
  obtain ⟨w, v, here, lives⟩ := worker_of_not_gone alive
  cases v with
  | idle =>
    cases waits : s.queue with
    | nil =>
      rcases ready with some_ | ended
      · exact absurd waits some_
      · exact ⟨_, _, .leave here waits ended⟩
    | cons j rest => exact ⟨_, _, .take here waits⟩
  | busy j => exact busy_moves sound here
  | exited => simp [Worker.gone] at lives
  | dead => simp [Worker.gone] at lives

/-- When no job is on its way any more, every job has its answer. -/
theorem settled_of_arrived (sound : Sound concurrency jobs events s) (none_ : s.unsent = [])
    (empty : s.queue = []) (gone : s.allGone = true) {j : Nat} (inside : j < jobs.length) :
    settledAt s.answers j = 1 := by
  have counts := sound.once.count j
  have idle : s.workers.countP (· == .busy j) = 0 := by
    rw [← count_inFlight, inFlight_of_gone gone, List.count_nil]
  rw [none_, empty, idle, if_pos inside] at counts
  simpa using counts

theorem progress (sound : Sound concurrency jobs events s) (unfinished : ¬ s.final) :
    ∃ e t, Move jobs s e t := by
  cases gone : s.allGone with
  | false =>
    cases held : s.unsent with
    | nil =>
      cases ended : s.closed with
      | false => exact ⟨_, _, .close held ended⟩
      | true => exact worker_moves sound gone (Or.inr ended)
    | cons j rest =>
      by_cases room : s.queue.length < queueCapacity
      · exact ⟨_, _, .send held room gone⟩
      · have full : s.queue ≠ [] := by
          intro empty
          simp [empty, queueCapacity] at room
        exact worker_moves sound gone (Or.inl full)
  | true =>
    cases held : s.unsent with
    | cons j rest => exact ⟨_, _, .refuse held gone⟩
    | nil =>
      cases ended : s.closed with
      | false => exact ⟨_, _, .close held ended⟩
      | true =>
        cases waits : s.queue with
        | cons j rest => exact ⟨_, _, .discard waits ended gone⟩
        | nil =>
          have missing : s.collected ≠ s.answers.length :=
            fun all => unfinished ⟨ended, all, gone⟩
          have within := sound.gathered.within
          have inside : s.collected < s.answers.length := by omega
          have settled := settled_of_arrived sound held waits gone (sound.span ▸ inside)
          have next := List.getElem?_eq_getElem inside
          refine ⟨_, _, .collect ended next fun waiting => ?_⟩
          simp [settledAt, next, waiting, Answered.settled, Answered.isOutcome,
            Answered.isDropped] at settled

/-- A working worker has its job to end and then itself to leave. -/
def Worker.left : Worker → Nat
  | .idle => 1
  | .busy _ => 2
  | _ => 0

/-- How many moves are left at most: a job is sent, taken, ended and collected. -/
def State.left (s : State) : Nat :=
  3 * s.unsent.length + 2 * s.queue.length + (s.workers.map Worker.left).sum +
    (!s.closed).toNat + (s.answers.length - s.collected)

theorem sum_set {l : List Worker} {w : Nat} {old : Worker} (new : Worker)
    (here : l[w]? = some old) :
    ((l.set w new).map Worker.left).sum + old.left = (l.map Worker.left).sum + new.left := by
  induction l generalizing w with
  | nil => simp at here
  | cons v rest ih =>
    cases w with
    | zero =>
      obtain rfl : v = old := by simpa using here
      simp only [List.set_cons_zero, List.map_cons, List.sum_cons]
      omega
    | succ w =>
      have later := ih (by simpa using here)
      simp only [List.set_cons_succ, List.map_cons, List.sum_cons]
      omega

theorem Move.left_lt (m : Move jobs s e t) : t.left < s.left := by
  cases m with
  | send held room alive =>
    simp only [State.left, held, List.length_cons, List.length_append, List.length_nil]
    omega
  | refuse held gone =>
    simp only [State.left, State.answer, held, List.length_cons, List.length_set]
    omega
  | close sent still => simp [State.left, still]
  | @take w j rest free first =>
    have workers := sum_set (.busy j) free
    simp only [Worker.left] at workers
    simp only [State.left, State.setWorker, first, List.length_cons]
    omega
  | finish works known ends =>
    have workers := sum_set .idle works
    simp only [Worker.left] at workers
    simp only [State.left, State.answer, State.setWorker, List.length_set]
    omega
  | crash works known crashes =>
    have workers := sum_set .dead works
    simp only [Worker.left] at workers
    simp only [State.left, State.answer, State.setWorker, List.length_set]
    omega
  | leave free empty ended =>
    have workers := sum_set .exited free
    simp only [Worker.left] at workers
    simp only [State.left, State.setWorker]
    omega
  | discard first ended gone =>
    simp only [State.left, State.answer, first, List.length_cons, List.length_set]
    omega
  | collect ended next there =>
    obtain ⟨inside, _⟩ := List.getElem?_eq_some_iff.mp next
    simp only [State.left]
    omega

theorem left_start (concurrency : Nat) (jobs : List Job) :
    (State.start concurrency jobs).left =
      4 * jobs.length + workerCount concurrency jobs.length + 1 := by
  simp [State.left, State.start, Worker.left]
  omega

theorem History.length_le (h : History concurrency jobs events s) :
    events.length + s.left ≤ 4 * jobs.length + workerCount concurrency jobs.length + 1 := by
  induction h with
  | start => simp [left_start]
  | move before m ih =>
    have less := m.left_lt
    simp only [List.length_append, List.length_cons, List.length_nil]
    omega

/-- One move after the other, for as long as there is one. -/
def Scheduled (jobs : List Job) (run : Nat → State) : Prop :=
  ∀ i, (∃ e, Move jobs (run i) e (run (i + 1))) ∨
    (run (i + 1) = run i ∧ ∀ e t, ¬ Move jobs (run i) e t)

theorem final_of_scheduled {run : Nat → State} (scheduled : Scheduled jobs run)
    (h : History concurrency jobs events (run 0)) :
    ∃ i ≤ (run 0).left, (run i).final ∧ Reachable concurrency jobs (run i) := by
  induction size : (run 0).left using Nat.strongRecOn generalizing run events with
  | ind size ih =>
    by_cases ended : (run 0).final
    · exact ⟨0, Nat.zero_le _, ended, events, h⟩
    · obtain ⟨e, t, enabled⟩ := progress h.sound ended
      rcases scheduled 0 with ⟨e, m⟩ | ⟨_, stuck⟩
      · have less : (run 1).left < (run 0).left := m.left_lt
        obtain ⟨i, most, final⟩ := ih (run 1).left (by omega)
          (fun i => scheduled (i + 1)) (h.move m) rfl
        exact ⟨i + 1, by omega, final⟩
      · exact absurd enabled (stuck e t)

theorem History.ends (h : History concurrency jobs events s) :
    ∃ later t, History concurrency jobs later t ∧ t.final := by
  induction size : s.left using Nat.strongRecOn generalizing events s with
  | ind size ih =>
    by_cases ended : s.final
    · exact ⟨events, s, h, ended⟩
    · obtain ⟨e, t, m⟩ := progress h.sound ended
      exact ih t.left (size ▸ m.left_lt) (h.move m) rfl

/-- With one worker the queue fills up behind the first job. -/
theorem queue_fills (lone : workerCount concurrency jobs.length = 1) {m : Nat}
    (room : m ≤ queueCapacity) (more : m < jobs.length) :
    ∃ events, History concurrency jobs events
      ⟨List.range' (m + 1) (jobs.length - (m + 1)), false, List.range' 1 m, [.busy 0],
        List.replicate jobs.length .waiting, 0⟩ := by
  induction m with
  | zero =>
    have held : (State.start concurrency jobs).unsent =
        0 :: List.range' 1 (jobs.length - 1) := by
      obtain ⟨n, many⟩ : ∃ n, jobs.length = n + 1 := ⟨jobs.length - 1, by omega⟩
      simp [State.start, many, List.range_eq_range', List.range'_succ]
    have alive : (State.start concurrency jobs).allGone = false := by
      simp [State.start, lone, State.allGone, Worker.gone]
    have idle : (State.start concurrency jobs).workers = [.idle] := by simp [State.start, lone]
    have sent := History.start.move (.send held (by simp [State.start, queueCapacity]) alive)
    have taken := sent.move (.take (w := 0) (by simp [idle]) rfl)
    simp only [State.setWorker, idle] at taken
    exact ⟨_, taken⟩
  | succ m ih =>
    obtain ⟨events, filled⟩ := ih (by omega) (by omega)
    have held : List.range' (m + 1) (jobs.length - (m + 1)) =
        (m + 1) :: List.range' (m + 1 + 1) (jobs.length - (m + 1 + 1)) := by
      rw [← List.range'_succ]
      congr 1
      omega
    have sent := filled.move (.send held (by simp; omega) rfl)
    have queued : List.range' 1 m ++ [m + 1] = List.range' 1 (m + 1) := by
      rw [List.range'_concat, Nat.one_mul, Nat.add_comm 1 m]
    rw [queued] at sent
    exact ⟨_, sent⟩

/-- The only worker can die while the queue is full and the producer waits to send more. -/
theorem blocked_reachable (lone : workerCount concurrency jobs.length = 1) {job : Job}
    (known : jobs[0]? = some job) (crashes : job.check.outcome = none)
    (more : queueCapacity + 1 < jobs.length) :
    ∃ events s, History concurrency jobs events s ∧ s.AllDead ∧
      s.queue.length = queueCapacity ∧ s.unsent ≠ [] := by
  obtain ⟨events, filled⟩ := queue_fills lone (Nat.le_refl queueCapacity) (by omega)
  refine ⟨_, _, filled.move (.crash (w := 0) rfl known crashes), ?_, ?_, ?_⟩
  · simp [State.AllDead, State.answer, State.setWorker]
  · simp [State.answer, State.setWorker]
  · simp only [State.answer, State.setWorker, ne_eq, List.range'_eq_nil_iff]
    omega

theorem pool_finishes (h : History concurrency jobs events s) :
    (¬ s.final → ∃ e t, Move jobs s e t) ∧
    (∀ e t, Move jobs s e t → t.left < s.left) ∧
    events.length + s.left ≤ 4 * jobs.length + workerCount concurrency jobs.length + 1 ∧
    (∀ run : Nat → State, run 0 = s → Scheduled jobs run →
      ∃ i ≤ s.left, (run i).final ∧ (∀ v ∈ (run i).workers, v = .exited ∨ v = .dead) ∧
        ∀ j < jobs.length, ∃ a, (run i).answers[j]? = some a ∧ a ≠ .waiting) := by
  refine ⟨progress h.sound, fun e t m => m.left_lt, h.length_le, ?_⟩
  rintro run rfl scheduled
  obtain ⟨i, most, final, later, reached⟩ := final_of_scheduled scheduled h
  refine ⟨i, most, final, fun v mem => gone_of_allGone final.2.2 mem, fun j inside => ?_⟩
  rcases answer_of_final reached.sound final (List.getElem?_eq_getElem inside) with
    ⟨o, here, _⟩ | ⟨here, _⟩ | ⟨here, _⟩
  · exact ⟨_, here, by simp⟩
  · exact ⟨_, here, by simp⟩
  · exact ⟨_, here, by simp⟩

theorem pool_finishes_blocked :
    ∃ events s, History 1 (List.replicate 66 (.crashing ['a'])) events s ∧ s.AllDead ∧
      s.queue.length = queueCapacity ∧ s.unsent ≠ [] ∧
      ∃ e t, Move (List.replicate 66 (.crashing ['a'])) s e t := by
  have lone : workerCount 1 (List.replicate 66 (Job.crashing ['a'])).length = 1 := rfl
  obtain ⟨events, s, h, dead, full, held⟩ := blocked_reachable lone rfl rfl (by decide)
  have unfinished : ¬ s.final := fun ended => held (h.sound.ordered.sent ended.1)
  exact ⟨events, s, h, dead, full, held, (pool_finishes h).1 unfinished⟩

end FleetHealth.Pool
