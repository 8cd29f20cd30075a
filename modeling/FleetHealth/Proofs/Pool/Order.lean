import FleetHealth.Pool.Moves
import Mathlib.Tactic.Common

/- The order of the jobs. Those begun are the first ones; as long as a worker lives, the jobs behind
   them wait in the queue and with the producer, in order and without a gap. -/
namespace FleetHealth.Pool

variable {n k : Nat} {jobs : List Job} {s t : State} {e : Event}

/-- How many checks a move begins. -/
def Event.begins : Event → Nat
  | .taken _ _ => 1
  | _ => 0

def State.AllDead (s : State) : Prop := ∀ v ∈ s.workers, v = .dead

theorem alive_of_worker {w : Nat} {v : Worker} (here : s.workers[w]? = some v)
    (lives : v ≠ .dead) : ¬ s.AllDead :=
  fun dead => lives (dead v (List.mem_of_getElem? here))

theorem Worker.gone_iff {v : Worker} : v.gone = true ↔ v = .exited ∨ v = .dead := by
  cases v <;> simp [gone]

theorem gone_of_allGone (gone : s.allGone = true) {v : Worker} (mem : v ∈ s.workers) :
    v = .exited ∨ v = .dead :=
  Worker.gone_iff.mp (List.all_eq_true.mp gone v mem)

theorem dead_of_gone (gone : s.allGone = true) (none_ : Worker.exited ∉ s.workers) :
    s.AllDead := by
  intro v mem
  rcases gone_of_allGone gone mem with rfl | dead
  · exact absurd mem none_
  · exact dead

theorem exited_of_set {w : Nat} {v : Worker} (other : v ≠ .exited)
    (mem : Worker.exited ∈ s.workers.set w v) : Worker.exited ∈ s.workers := by
  rcases List.mem_or_eq_of_mem_set mem with old | new
  · exact old
  · exact absurd new.symm other

/-- Of `n` jobs the first `k` were begun. -/
structure Ordered (n k : Nat) (s : State) : Prop where
  within : k ≤ n
  next : ¬ s.AllDead → s.queue ++ s.unsent = List.range' k (n - k)
  behind : ∀ j ∈ s.queue ++ s.unsent, k ≤ j
  sent : s.closed = true → s.unsent = []
  drained : Worker.exited ∈ s.workers → s.closed = true ∧ s.queue = []

namespace Ordered

theorem still (ordered : Ordered n k s) (held : s.unsent ≠ []) : s.closed = false := by
  cases ended : s.closed with
  | false => rfl
  | true => exact absurd (ordered.sent ended) held

theorem dead_of_unsent (ordered : Ordered n k s) (held : s.unsent ≠ [])
    (gone : s.allGone = true) : s.AllDead := by
  refine dead_of_gone gone fun left => ?_
  have ended := (ordered.drained left).1
  simp [ordered.still held] at ended

theorem dead_of_queued (ordered : Ordered n k s) (waits : s.queue ≠ [])
    (gone : s.allGone = true) : s.AllDead :=
  dead_of_gone gone fun left => waits (ordered.drained left).2

/-- The head of the queue is the first job that was not begun. -/
theorem head (ordered : Ordered n k s) (alive : ¬ s.AllDead) {j : Nat} {rest : List Nat}
    (first : s.queue = j :: rest) :
    j = k ∧ k < n ∧ rest ++ s.unsent = List.range' (k + 1) (n - (k + 1)) := by
  have next := ordered.next alive
  have more : n - k = n - (k + 1) + 1 := by
    cases left : n - k with
    | zero => simp [first, left] at next
    | succ left => omega
  rw [first, more, List.range'_succ, List.cons_append, List.cons.injEq] at next
  exact ⟨next.1, by omega, next.2⟩

end Ordered

theorem start_ordered (concurrency : Nat) (jobs : List Job) :
    Ordered jobs.length 0 (.start concurrency jobs) where
  within := Nat.zero_le _
  next _ := by simp [State.start, List.range_eq_range']
  behind _ _ := Nat.zero_le _
  sent ended := by simp [State.start] at ended
  drained left := by simp [State.start] at left

theorem Move.ordered (m : Move jobs s e t) (ordered : Ordered n k s) :
    Ordered n (k + e.begins) t := by
  cases m with
  | @send j rest held room alive =>
    have still := ordered.still (by simp [held])
    have same : (s.queue ++ [j]) ++ rest = s.queue ++ s.unsent := by simp [held]
    refine ⟨ordered.within, same ▸ ordered.next, same ▸ ordered.behind,
      fun ended => ?_, fun left => ?_⟩
    · simp [still] at ended
    · simpa [still] using (ordered.drained left).1
  | @refuse j rest held gone =>
    have still := ordered.still (by simp [held])
    have dead := ordered.dead_of_unsent (by simp [held]) gone
    refine ⟨ordered.within, fun alive => absurd dead alive, fun i mem => ?_,
      fun ended => ?_, fun left => ?_⟩
    · refine ordered.behind i ?_
      rcases List.mem_append.mp mem with queued | later
      · exact List.mem_append_left _ queued
      · exact List.mem_append_right _ (held ▸ List.mem_cons_of_mem j later)
    · simp [State.answer, still] at ended
    · simpa [still] using (ordered.drained left).1
  | close none_ still =>
    exact ⟨ordered.within, ordered.next, ordered.behind, fun _ => none_,
      fun left => ⟨rfl, (ordered.drained left).2⟩⟩
  | @take w j rest free first =>
    obtain ⟨rfl, inside, next⟩ := ordered.head (alive_of_worker free (by simp)) first
    refine ⟨inside, fun _ => next, fun i mem => ?_, ordered.sent, fun left => ?_⟩
    · have later : i ∈ rest ++ s.unsent := mem
      rw [next, List.mem_range'_1] at later
      exact later.1
    · have empty := (ordered.drained (exited_of_set (by simp) left)).2
      simp [first] at empty
  | finish works known ends =>
    exact ⟨ordered.within, fun _ => ordered.next (alive_of_worker works (by simp)),
      ordered.behind, ordered.sent, fun left => ordered.drained (exited_of_set (by simp) left)⟩
  | crash works known crashes =>
    exact ⟨ordered.within, fun _ => ordered.next (alive_of_worker works (by simp)),
      ordered.behind, ordered.sent, fun left => ordered.drained (exited_of_set (by simp) left)⟩
  | leave free empty ended =>
    exact ⟨ordered.within, fun _ => ordered.next (alive_of_worker free (by simp)),
      ordered.behind, ordered.sent, fun _ => ⟨ended, empty⟩⟩
  | @discard j rest first ended gone =>
    have dead := ordered.dead_of_queued (by simp [first]) gone
    refine ⟨ordered.within, fun alive => absurd dead alive, fun i mem => ?_, ordered.sent,
      fun left => absurd (dead _ left) (by simp)⟩
    refine ordered.behind i ?_
    rcases List.mem_append.mp mem with queued | later
    · exact List.mem_append_left _ (first ▸ List.mem_cons_of_mem j queued)
    · exact List.mem_append_right _ later
  | collect ended next there =>
    exact ⟨ordered.within, ordered.next, ordered.behind, ordered.sent, ordered.drained⟩

end FleetHealth.Pool
