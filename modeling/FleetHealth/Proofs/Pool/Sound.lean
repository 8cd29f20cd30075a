import FleetHealth.Proofs.Pool.Inventory
import FleetHealth.Proofs.Pool.Order
import FleetHealth.Proofs.Pool.Placements

/- What every history of the pool keeps: the workers that died, or are at a check that crashes, are
   as many as there are crashes among the jobs begun; an answer is what the check came to, and a
   job is dropped by a crash of its own or when no worker is left to begin it. -/
namespace FleetHealth.Pool

variable {concurrency k c : Nat} {jobs : List Job} {events : List Event} {fallen : List Nat}
  {s t : State} {e : Event}

/-- How many checks a move ends by a crash. -/
def Event.crashes : Event → Nat
  | .crashed _ _ => 1
  | _ => 0

/-- The worker is dead or about to die. -/
def Worker.doomed (jobs : List Job) : Worker → Bool
  | .dead => true
  | .busy j => jobs[j]?.any fun job => job.check.crashed
  | _ => false

/-- The first `k` jobs were begun, and `c` of them have crashed. -/
structure Tallied (concurrency : Nat) (jobs : List Job) (k c : Nat) (s : State) : Prop where
  width : s.workers.length = workerCount concurrency jobs.length
  deaths : s.workers.countP (· == .dead) = c
  losses : s.workers.countP (Worker.doomed jobs) = crashCount (jobs.take k)
  room : ∀ i < k, crashCount (jobs.take i) < workerCount concurrency jobs.length

theorem crashCount_take_succ (jobs : List Job) (k : Nat) :
    crashCount (jobs.take (k + 1)) = crashCount (jobs.take k) +
      if jobs[k]?.any fun job => job.check.crashed then 1 else 0 := by
  unfold crashCount
  rw [List.take_add_one, List.countP_append]
  cases jobs[k]? with
  | none => rfl
  | some job => simp [List.countP_cons]

theorem countP_lt_of_worker {p : Worker → Bool} {w : Nat} {v : Worker}
    (here : s.workers[w]? = some v) (spared : p v = false) :
    s.workers.countP p < s.workers.length := by
  refine Nat.lt_of_le_of_ne List.countP_le_length fun all => ?_
  have hit := List.countP_eq_length.mp all v (List.mem_of_getElem? here)
  simp [spared] at hit

theorem start_tallied (concurrency : Nat) (jobs : List Job) :
    Tallied concurrency jobs 0 0 (.start concurrency jobs) where
  width := by simp [State.start]
  deaths := by simp [State.start, List.countP_replicate]
  losses := by simp [State.start, List.countP_replicate, Worker.doomed, crashCount]
  room i before := absurd before (Nat.not_lt_zero i)

theorem Move.tallied (m : Move jobs s e t) (ordered : Ordered jobs.length k s)
    (tallied : Tallied concurrency jobs k c s) :
    Tallied concurrency jobs (k + e.begins) (c + e.crashes) t := by
  have width := tallied.width
  have deaths := tallied.deaths
  have losses := tallied.losses
  cases m with
  | send => exact ⟨width, deaths, losses, tallied.room⟩
  | refuse => exact ⟨width, deaths, losses, tallied.room⟩
  | close => exact ⟨width, deaths, losses, tallied.room⟩
  | @take w j rest free first =>
    obtain ⟨rfl, inside, _⟩ := ordered.head (alive_of_worker free (by simp)) first
    have dead := countP_set (· == .dead) (.busy j) free
    have gone : (s.workers.set w (.busy j)).countP (Worker.doomed jobs) =
        s.workers.countP (Worker.doomed jobs) +
          if jobs[j]?.any fun job => job.check.crashed then 1 else 0 :=
      countP_set (Worker.doomed jobs) (.busy j) free
    have spared := countP_lt_of_worker (p := Worker.doomed jobs) free rfl
    refine ⟨by simpa [State.setWorker] using width, dead.trans deaths, ?_, fun i before => ?_⟩
    · rw [Event.begins, crashCount_take_succ, ← losses]
      exact gone
    · rcases Nat.lt_succ_iff_lt_or_eq.mp before with earlier | rfl
      · exact tallied.room i earlier
      · omega
  | @finish w j job o works known ends =>
    have dead := countP_set (· == .dead) .idle works
    have gone := countP_set (Worker.doomed jobs) .idle works
    simp only [beq_iff_eq, reduceCtorEq, if_false, Worker.doomed, known, Option.any_some,
      Check.crashed, ends, Option.isNone_some, Bool.false_eq_true] at dead gone
    exact ⟨by simpa [State.setWorker, State.answer] using width, dead.trans deaths,
      gone.trans losses, tallied.room⟩
  | @crash w j job works known crashes =>
    have dead := countP_set (· == .dead) .dead works
    have gone := countP_set (Worker.doomed jobs) .dead works
    simp only [beq_iff_eq, reduceCtorEq, if_false, if_true, Worker.doomed, known, Option.any_some,
      Check.crashed, crashes, Option.isNone_none] at dead gone
    refine ⟨by simpa [State.setWorker, State.answer] using width, ?_, ?_, tallied.room⟩
    · simp only [State.setWorker, State.answer, Event.crashes]
      omega
    · simp only [State.setWorker, State.answer, Event.begins, Nat.add_zero]
      omega
  | leave free empty ended =>
    have dead := countP_set (· == .dead) .exited free
    have gone := countP_set (Worker.doomed jobs) .exited free
    simp only [beq_iff_eq, reduceCtorEq, if_false, Worker.doomed, Bool.false_eq_true] at dead gone
    exact ⟨by simpa [State.setWorker] using width, dead.trans deaths, gone.trans losses,
      tallied.room⟩
  | discard => exact ⟨width, deaths, losses, tallied.room⟩
  | collect => exact ⟨width, deaths, losses, tallied.room⟩

/-- The checks of the `fallen` jobs crashed. -/
structure Truthful (jobs : List Job) (k : Nat) (fallen : List Nat) (s : State) : Prop where
  running : ∀ j, Worker.busy j ∈ s.workers → j < k
  reports : ∀ j o, s.answers[j]? = some (.outcome o) →
    j < k ∧ ∃ job, jobs[j]? = some job ∧ job.check.outcome = some o
  drops : ∀ j, s.answers[j]? = some .dropped → j ∈ fallen ∨ k ≤ j ∧ s.AllDead
  crashed : ∀ j ∈ fallen, j < k ∧ ∃ job, jobs[j]? = some job ∧ job.check.outcome = none

theorem answer_of_set {answers : List Answered} {i j : Nat} {a b : Answered}
    (here : (answers.set j a)[i]? = some b) : i = j ∧ b = a ∨ answers[i]? = some b := by
  rw [List.getElem?_set] at here
  split at here
  · split at here
    · exact Or.inl ⟨by omega, (Option.some.inj here).symm⟩
    · simp at here
  · exact Or.inr here

theorem busy_of_set {w j : Nat} {v : Worker} (other : ∀ i, v ≠ .busy i)
    (mem : Worker.busy j ∈ s.workers.set w v) : Worker.busy j ∈ s.workers := by
  rcases List.mem_or_eq_of_mem_set mem with old | new
  · exact old
  · exact absurd new.symm (other j)

namespace Truthful

/-- An answer without an outcome, given while no worker lives. -/
theorem drop (truthful : Truthful jobs k fallen s) (dead : s.AllDead) {j : Nat} (behind : k ≤ j)
    {unsent queue : List Nat} :
    Truthful jobs k fallen
      ({ s with unsent := unsent, queue := queue }.answer j .dropped) where
  running := truthful.running
  reports i o here := by
    rcases answer_of_set here with ⟨_, other⟩ | old
    · simp at other
    · exact truthful.reports i o old
  drops i here := by
    rcases answer_of_set here with ⟨rfl, _⟩ | old
    · exact Or.inr ⟨behind, dead⟩
    · exact truthful.drops i old
  crashed := truthful.crashed

end Truthful

theorem start_truthful (concurrency : Nat) (jobs : List Job) :
    Truthful jobs 0 [] (.start concurrency jobs) where
  running j busy := by simp [State.start] at busy
  reports j o here := by simp [State.start, List.getElem?_replicate] at here
  drops j here := by simp [State.start, List.getElem?_replicate] at here
  crashed j mem := by simp at mem

theorem Move.truthful (m : Move jobs s e t) (ordered : Ordered jobs.length k s)
    (truthful : Truthful jobs k fallen s) :
    Truthful jobs (k + e.begins) (fallen ++ e.crashed?.toList) t := by
  cases m with
  | send =>
    simp only [Event.crashed?, Option.toList_none, List.append_nil]
    exact ⟨truthful.running, truthful.reports, truthful.drops, truthful.crashed⟩
  | @refuse j rest held gone =>
    simp only [Event.crashed?, Option.toList_none, List.append_nil]
    exact truthful.drop (ordered.dead_of_unsent (by simp [held]) gone)
      (ordered.behind j (by simp [held]))
  | close =>
    simp only [Event.crashed?, Option.toList_none, List.append_nil]
    exact ⟨truthful.running, truthful.reports, truthful.drops, truthful.crashed⟩
  | @take w j rest free first =>
    have alive := alive_of_worker free (by simp)
    obtain ⟨rfl, inside, _⟩ := ordered.head alive first
    simp only [Event.crashed?, Option.toList_none, List.append_nil]
    refine ⟨fun i busy => ?_, fun i o here => ?_, fun i here => ?_, fun i mem => ?_⟩
    · rcases List.mem_or_eq_of_mem_set busy with old | new
      · exact Nat.lt_succ_of_lt (truthful.running i old)
      · obtain rfl := Worker.busy.inj new
        exact Nat.lt_succ_self i
    · obtain ⟨before, own⟩ := truthful.reports i o here
      exact ⟨Nat.lt_succ_of_lt before, own⟩
    · rcases truthful.drops i here with crashed | ⟨_, dead⟩
      · exact Or.inl crashed
      · exact absurd dead alive
    · obtain ⟨before, own⟩ := truthful.crashed i mem
      exact ⟨Nat.lt_succ_of_lt before, own⟩
  | @finish w j job o works known ends =>
    have alive := alive_of_worker works (by simp)
    simp only [Event.crashed?, Option.toList_none, List.append_nil]
    refine ⟨fun i busy => truthful.running i (busy_of_set (by simp) busy), fun i p here => ?_,
      fun i here => ?_, truthful.crashed⟩
    · rcases answer_of_set here with ⟨rfl, same⟩ | old
      · obtain rfl := Answered.outcome.inj same
        exact ⟨truthful.running i (List.mem_of_getElem? works), job, known, ends⟩
      · exact truthful.reports i p old
    · rcases answer_of_set here with ⟨_, other⟩ | old
      · simp at other
      · rcases truthful.drops i old with crashed | ⟨_, dead⟩
        · exact Or.inl crashed
        · exact absurd dead alive
  | @crash w j job works known crashes =>
    have alive := alive_of_worker works (by simp)
    have running := truthful.running j (List.mem_of_getElem? works)
    refine ⟨fun i busy => truthful.running i (busy_of_set (by simp) busy), fun i p here => ?_,
      fun i here => ?_, fun i mem => ?_⟩
    · rcases answer_of_set here with ⟨_, other⟩ | old
      · simp at other
      · exact truthful.reports i p old
    · rcases answer_of_set here with ⟨rfl, _⟩ | old
      · exact Or.inl (List.mem_append_right _ (by simp [Event.crashed?]))
      · rcases truthful.drops i old with crashed | ⟨_, dead⟩
        · exact Or.inl (List.mem_append_left _ crashed)
        · exact absurd dead alive
    · rcases List.mem_append.mp mem with old | new
      · exact truthful.crashed i old
      · obtain rfl : i = j := by simpa [Event.crashed?] using new
        exact ⟨running, job, known, crashes⟩
  | leave free empty ended =>
    have alive := alive_of_worker free (by simp)
    simp only [Event.crashed?, Option.toList_none, List.append_nil]
    refine ⟨fun i busy => truthful.running i (busy_of_set (by simp) busy), truthful.reports,
      fun i here => ?_, truthful.crashed⟩
    rcases truthful.drops i here with crashed | ⟨_, dead⟩
    · exact Or.inl crashed
    · exact absurd dead alive
  | @discard j rest first ended gone =>
    simp only [Event.crashed?, Option.toList_none, List.append_nil]
    exact truthful.drop (ordered.dead_of_queued (by simp [first]) gone)
      (ordered.behind j (by simp [first]))
  | collect =>
    simp only [Event.crashed?, Option.toList_none, List.append_nil]
    exact ⟨truthful.running, truthful.reports, truthful.drops, truthful.crashed⟩

/-- What was collected was there. -/
structure Gathered (s : State) : Prop where
  within : s.collected ≤ s.answers.length
  settled : ∀ i < s.collected, settledAt s.answers i = 1

theorem settledAt_le (answers : List Answered) (i : Nat) : settledAt answers i ≤ 1 := by
  unfold settledAt
  split <;> omega

theorem Gathered.answer {n : Nat} (gathered : Gathered s) (once : s.Once n)
    (span : s.answers.length = n) {j : Nat} (mem : j ∈ s.unsent ++ s.queue ++ s.inFlight)
    {a : Answered} (settled : a.settled = true) {unsent queue : List Nat} {workers : List Worker} :
    Gathered ({ s with unsent := unsent, queue := queue, workers := workers }.answer j a) := by
  obtain ⟨inside, fresh⟩ := once.unsettled mem
  refine ⟨by simpa [State.answer] using gathered.within, fun i before => ?_⟩
  have old := gathered.settled i before
  have new := settledAt_set (span ▸ inside) fresh settled i
  have most := settledAt_le (s.answers.set j a) i
  simp only [State.answer]
  omega

theorem Move.gathered {n : Nat} (m : Move jobs s e t) (once : s.Once n)
    (span : s.answers.length = n) (gathered : Gathered s) : Gathered t := by
  cases m with
  | send => exact ⟨gathered.within, gathered.settled⟩
  | refuse held gone => exact gathered.answer once span (by simp [held]) rfl
  | close => exact ⟨gathered.within, gathered.settled⟩
  | take => exact ⟨gathered.within, gathered.settled⟩
  | finish works known ends =>
    exact gathered.answer once span (by simp [mem_inFlight works]) rfl
  | crash works known crashes =>
    exact gathered.answer once span (by simp [mem_inFlight works]) rfl
  | leave => exact ⟨gathered.within, gathered.settled⟩
  | discard first ended gone => exact gathered.answer once span (by simp [first]) rfl
  | @collect a ended next there =>
    obtain ⟨inside, _⟩ := List.getElem?_eq_some_iff.mp next
    refine ⟨inside, fun i before => ?_⟩
    rcases Nat.lt_succ_iff_lt_or_eq.mp before with earlier | rfl
    · exact gathered.settled i earlier
    · unfold settledAt
      rw [next]
      cases a with
      | waiting => exact absurd rfl there
      | outcome o => rfl
      | dropped => rfl

structure Sound (concurrency : Nat) (jobs : List Job) (events : List Event) (s : State) :
    Prop where
  once : s.Once jobs.length
  span : s.answers.length = jobs.length
  first : begun events = List.range (begun events).length
  ordered : Ordered jobs.length (begun events).length s
  tallied : Tallied concurrency jobs (begun events).length (casualties events).length s
  truthful : Truthful jobs (begun events).length (casualties events) s
  gathered : Gathered s

theorem begun_snoc (events : List Event) (e : Event) :
    begun (events ++ [e]) = begun events ++ e.taken?.toList := by
  cases e <;> simp [begun, Event.taken?]

theorem casualties_snoc (events : List Event) (e : Event) :
    casualties (events ++ [e]) = casualties events ++ e.crashed?.toList := by
  cases e <;> simp [casualties, Event.crashed?]

theorem length_begun_snoc (events : List Event) (e : Event) :
    (begun (events ++ [e])).length = (begun events).length + e.begins := by
  rw [begun_snoc, List.length_append]
  cases e <;> rfl

theorem length_casualties_snoc (events : List Event) (e : Event) :
    (casualties (events ++ [e])).length = (casualties events).length + e.crashes := by
  rw [casualties_snoc, List.length_append]
  cases e <;> rfl

theorem Move.first (m : Move jobs s e t) (ordered : Ordered jobs.length k s) :
    e.taken?.toList = List.range' k e.begins := by
  cases m with
  | take free first =>
    obtain ⟨rfl, _⟩ := ordered.head (alive_of_worker free (by simp)) first
    rfl
  | _ => rfl

theorem Move.span (m : Move jobs s e t) : t.answers.length = s.answers.length := by
  cases m <;> simp [State.answer, State.setWorker]

theorem Move.sound (m : Move jobs s e t) (sound : Sound concurrency jobs events s) :
    Sound concurrency jobs (events ++ [e]) t where
  once := m.once sound.span sound.once
  span := m.span.trans sound.span
  first := by
    rw [length_begun_snoc, begun_snoc, m.first sound.ordered]
    nth_rewrite 1 [sound.first]
    rw [List.range_eq_range', List.range_eq_range', ← List.range'_append_1, Nat.zero_add]
  ordered := length_begun_snoc events e ▸ m.ordered sound.ordered
  tallied := by
    rw [length_begun_snoc, length_casualties_snoc]
    exact m.tallied sound.ordered sound.tallied
  truthful := by
    rw [length_begun_snoc, casualties_snoc]
    exact m.truthful sound.ordered sound.truthful
  gathered := m.gathered sound.once sound.span sound.gathered

theorem History.sound (h : History concurrency jobs events s) :
    Sound concurrency jobs events s := by
  induction h with
  | start =>
    exact ⟨start_once concurrency jobs, by simp [State.start], rfl, start_ordered concurrency jobs,
      start_tallied concurrency jobs, start_truthful concurrency jobs,
      ⟨Nat.zero_le _, fun i before => absurd before (Nat.not_lt_zero i)⟩⟩
  | move before m ih => exact m.sound ih

end FleetHealth.Pool
