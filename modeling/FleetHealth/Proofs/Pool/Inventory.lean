import FleetHealth.Pool.Moves
import Mathlib.Data.List.Nodup

/- Where the jobs are: not yet sent, in the queue, with a worker, answered or dropped. No move loses
   a job or puts it in a second place. -/
namespace FleetHealth.Pool

def Worker.job? : Worker → Option Nat
  | .busy j => some j
  | _ => none

def Answered.isOutcome : Answered → Bool
  | .outcome _ => true
  | _ => false

def Answered.isDropped : Answered → Bool
  | .dropped => true
  | _ => false

def Answered.settled (a : Answered) : Bool := a.isOutcome || a.isDropped

namespace State

/-- The jobs that workers have, worker by worker. -/
def inFlight (s : State) : List Nat := s.workers.filterMap Worker.job?

def answeredAs (s : State) (p : Answered → Bool) : List Nat :=
  (List.range s.answers.length).filter fun j => s.answers[j]?.any p

def answered (s : State) : List Nat := s.answeredAs Answered.isOutcome

def dropped (s : State) : List Nat := s.answeredAs Answered.isDropped

def inventory (s : State) : List Nat :=
  s.unsent ++ s.queue ++ s.inFlight ++ s.answered ++ s.dropped

/-- Each of `n` jobs is in one place, once. -/
def Once (n : Nat) (s : State) : Prop := s.inventory.Perm (List.range n)

end State

theorem countP_set {α : Type} (p : α → Bool) {l : List α} {i : Nat} {old : α} (new : α)
    (here : l[i]? = some old) :
    (l.set i new).countP p + (if p old then 1 else 0) =
      l.countP p + (if p new then 1 else 0) := by
  obtain ⟨inside, rfl⟩ := List.getElem?_eq_some_iff.mp here
  have counted : (if p l[i] = true then 1 else 0) ≤ l.countP p := by
    split
    · rename_i holds
      exact List.countP_pos_iff.mpr ⟨l[i], List.getElem_mem inside, holds⟩
    · omega
  rw [List.countP_set inside]
  omega

theorem count_inFlight (s : State) (j : Nat) :
    s.inFlight.count j = s.workers.countP (· == .busy j) := by
  unfold State.inFlight
  induction s.workers with
  | nil => rfl
  | cons w rest ih =>
    cases w <;>
      simp [List.filterMap_cons, Worker.job?, List.count_cons, List.countP_cons, ih]

theorem count_answeredAs (s : State) (p : Answered → Bool) (j : Nat) :
    (s.answeredAs p).count j = if s.answers[j]?.any p then 1 else 0 := by
  unfold State.answeredAs
  split
  · rename_i holds
    have inside : j < s.answers.length := by
      by_contra outside
      simp [List.getElem?_eq_none (Nat.le_of_not_lt outside)] at holds
    rw [List.count_filter (by exact holds)]
    exact List.count_eq_one_of_mem List.nodup_range (List.mem_range.mpr inside)
  · rename_i fails
    exact List.count_eq_zero_of_not_mem fun mem => fails (List.mem_filter.mp mem).2

/-- Whether a job has its answer, as a number. -/
def settledAt (answers : List Answered) (j : Nat) : Nat :=
  if answers[j]?.any Answered.settled then 1 else 0

theorem settledAt_set {answers : List Answered} {j : Nat} (inside : j < answers.length)
    (fresh : settledAt answers j = 0) {a : Answered} (settled : a.settled = true) (i : Nat) :
    settledAt (answers.set j a) i = settledAt answers i + if j = i then 1 else 0 := by
  by_cases same : j = i
  · subst i
    rw [fresh]
    simp [settledAt, inside, settled]
  · simp [settledAt, same]

theorem count_inventory (s : State) (j : Nat) :
    s.inventory.count j = s.unsent.count j + s.queue.count j +
      s.workers.countP (· == .busy j) + settledAt s.answers j := by
  have settled : s.answered.count j + s.dropped.count j = settledAt s.answers j := by
    unfold State.answered State.dropped settledAt
    rw [count_answeredAs, count_answeredAs]
    cases s.answers[j]? with
    | none => rfl
    | some a => cases a <;> rfl
  simp only [State.inventory, List.count_append, count_inFlight]
  omega

namespace State.Once

variable {n : Nat} {s : State}

theorem count (once : s.Once n) (j : Nat) :
    s.unsent.count j + s.queue.count j + s.workers.countP (· == .busy j) +
      settledAt s.answers j = if j < n then 1 else 0 := by
  rw [← count_inventory, once.count_eq, List.count_range]

/-- A job that is still on its way has no answer. -/
theorem unsettled (once : s.Once n) {j : Nat} (mem : j ∈ s.unsent ++ s.queue ++ s.inFlight) :
    j < n ∧ settledAt s.answers j = 0 := by
  have counts := once.count j
  have here := List.count_pos_iff.mpr mem
  simp only [List.count_append, count_inFlight] at here
  split at counts <;> omega

end State.Once

theorem mem_inFlight {s : State} {w j : Nat} (works : s.workers[w]? = some (.busy j)) :
    j ∈ s.inFlight :=
  List.mem_filterMap.mpr ⟨.busy j, List.mem_of_getElem? works, rfl⟩

theorem start_once (concurrency : Nat) (jobs : List Job) :
    (State.start concurrency jobs).Once jobs.length := by
  refine List.perm_iff_count.mpr fun j => ?_
  have unsettled : settledAt (List.replicate jobs.length .waiting) j = 0 := by
    unfold settledAt
    rw [List.getElem?_replicate]
    split <;> simp [Answered.settled, Answered.isOutcome, Answered.isDropped]
  rw [count_inventory]
  simp [State.start, unsettled, List.countP_replicate]

theorem Move.once {jobs : List Job} {s t : State} {e : Event} {n : Nat} (m : Move jobs s e t)
    (span : s.answers.length = n) (once : s.Once n) : t.Once n := by
  refine List.perm_iff_count.mpr fun i => ?_
  have counts := once.count i
  rw [count_inventory, List.count_range]
  cases m with
  | send held room alive =>
    rw [held, List.count_cons] at counts
    simp only [List.count_append, List.count_cons, List.count_nil]
    omega
  | @refuse j rest held gone =>
    obtain ⟨inside, fresh⟩ := once.unsettled (j := j) (by simp [held])
    rw [held, List.count_cons] at counts
    simp only [State.answer, beq_iff_eq, settledAt_set (span ▸ inside) fresh (a := .dropped) rfl]
      at counts ⊢
    omega
  | close sent still => exact counts
  | @take w j rest free first =>
    have busy := countP_set (· == .busy i) (.busy j) free
    rw [first, List.count_cons] at counts
    simp only [State.setWorker, beq_iff_eq, reduceCtorEq, if_false, Worker.busy.injEq]
      at busy counts ⊢
    omega
  | @finish w j job o works known ends =>
    obtain ⟨inside, fresh⟩ := once.unsettled (j := j) (by simp [mem_inFlight works])
    have busy := countP_set (· == .busy i) .idle works
    simp only [beq_iff_eq, reduceCtorEq, if_false, Worker.busy.injEq] at busy
    simp only [State.answer, State.setWorker,
      settledAt_set (span ▸ inside) fresh (a := .outcome o) rfl]
    omega
  | @crash w j job works known crashes =>
    obtain ⟨inside, fresh⟩ := once.unsettled (j := j) (by simp [mem_inFlight works])
    have busy := countP_set (· == .busy i) .dead works
    simp only [beq_iff_eq, reduceCtorEq, if_false, Worker.busy.injEq] at busy
    simp only [State.answer, State.setWorker,
      settledAt_set (span ▸ inside) fresh (a := .dropped) rfl]
    omega
  | leave free empty ended =>
    have busy := countP_set (· == .busy i) .exited free
    simp only [beq_iff_eq, reduceCtorEq, if_false] at busy
    simp only [State.setWorker]
    omega
  | @discard j rest first ended gone =>
    obtain ⟨inside, fresh⟩ := once.unsettled (j := j) (by simp [first])
    rw [first, List.count_cons] at counts
    simp only [State.answer, beq_iff_eq, settledAt_set (span ▸ inside) fresh (a := .dropped) rfl]
      at counts ⊢
    omega
  | collect ended next there => exact counts

end FleetHealth.Pool
