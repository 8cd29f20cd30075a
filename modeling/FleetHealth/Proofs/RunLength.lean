import FleetHealth.Proofs.Check.Course
import FleetHealth.Proofs.Independence
import FleetHealth.Proofs.Pool.Makespan

/- How long a run takes. The checks share the workers, so they are over after their average work and
   at most one more check; and as no check takes longer than the limit, neither does a turn in which
   each worker does one. -/
namespace FleetHealth.Verifier

/-- How long the check of each service takes. -/
def lengths (v : Verifier) (fleet : Fleet) (r : Registry) : List Nat :=
  r.names.map fun name => (v.check fleet name).duration

def longest (v : Verifier) (fleet : Fleet) (r : Registry) : Nat := (v.lengths fleet r).foldl max 0

/-- What the time of all checks has to do with the times of each, if no worker is lost. -/
structure Balanced (v : Verifier) (fleet : Fleet) (r : Registry) (span : Nat) : Prop where
  longest : v.longest fleet r ≤ span
  shared : (v.lengths fleet r).sum ≤ v.workers r * span
  average : v.workers r * span ≤
    (v.lengths fleet r).sum + (v.workers r - 1) * v.longest fleet r
  turns : span ≤ r.names.length ⌈/⌉ v.workers r * v.limit
  lone : v.workers r = 1 → span = (v.lengths fleet r).sum
  ample : v.workers r = r.names.length → span = v.longest fleet r

section
variable {v : Verifier} {fleet : Fleet} {r : Registry}

theorem work_jobs : Pool.work (v.jobs fleet r) = (v.lengths fleet r).sum := by
  unfold Pool.work jobs lengths
  rw [List.map_map]
  rfl

theorem calm_jobs (calm : v.Calm fleet r) : Pool.Calm (v.jobs fleet r) := by
  intro job mem
  obtain ⟨name, registered, rfl⟩ := List.mem_map.mp mem
  exact calm name registered

theorem within_jobs {limit : Nat} (within : ∀ d ∈ v.lengths fleet r, d ≤ limit) :
    Pool.Within limit (v.jobs fleet r) := by
  intro job mem
  obtain ⟨name, registered, rfl⟩ := List.mem_map.mp mem
  exact within _ (List.mem_map_of_mem registered)

theorem lengths_le_limit : ∀ d ∈ v.lengths fleet r, d ≤ v.limit := by
  intro d mem
  obtain ⟨name, _, rfl⟩ := List.mem_map.mp mem
  exact (Check.run_course v.scan (some v.limit) name (fleet name)).duration_le

theorem lengths_le_longest : ∀ d ∈ v.lengths fleet r, d ≤ v.longest fleet r :=
  ((Pool.foldl_max_le_iff _ _ _).mp (Nat.le_refl _)).2

theorem longest_le_makespan (calm : v.Calm fleet r) :
    v.longest fleet r ≤ Pool.makespan (v.placed fleet r) := by
  refine (Pool.foldl_max_le_iff _ _ _).mpr ⟨Nat.zero_le _, fun d mem => ?_⟩
  obtain ⟨name, registered, rfl⟩ := List.mem_map.mp mem
  exact Pool.duration_le_makespan (calm_jobs calm) (List.mem_map_of_mem registered)

/-- So many turns are enough, if the jobs are dealt out evenly. -/
theorem jobs_le_turns {k limit : Nat} (calm : v.Calm fleet r)
    (within : ∀ d ∈ v.lengths fleet r, d ≤ limit) (few : r.names.length ≤ v.workers r * k) :
    Pool.makespan (v.placed fleet r) ≤ k * limit := by
  rw [← v.workers_eq fleet r, ← v.jobs_length fleet r] at few
  exact Pool.makespan_le_turns (calm_jobs calm) (within_jobs within) few

theorem balanced_of_calm (calm : v.Calm fleet r) :
    v.Balanced fleet r (Pool.makespan (v.placed fleet r)) := by
  have quiet := calm_jobs calm
  have longest := longest_le_makespan calm
  have shared : (v.lengths fleet r).sum ≤
      v.workers r * Pool.makespan (v.placed fleet r) := by
    rw [← work_jobs, ← v.workers_eq fleet r]
    exact Pool.work_le_makespan quiet
  have average : v.workers r * Pool.makespan (v.placed fleet r) ≤
      (v.lengths fleet r).sum + (v.workers r - 1) * v.longest fleet r := by
    rw [← work_jobs, ← v.workers_eq fleet r]
    exact Pool.makespan_le_average quiet (within_jobs lengths_le_longest)
  refine ⟨longest, shared, average, ?_, fun lone => ?_, fun ample => ?_⟩
  · have enough : r.names.length ≤ v.workers r * (r.names.length ⌈/⌉ v.workers r) :=
      (ceilDiv_le_iff_le_mul (v.workers_pos r)).mp (Nat.le_refl _)
    exact jobs_le_turns calm lengths_le_limit enough
  · rw [lone, Nat.one_mul] at shared average
    rw [Nat.sub_self, Nat.zero_mul, Nat.add_zero] at average
    exact Nat.le_antisymm average shared
  · have single : r.names.length ≤ v.workers r * 1 := by omega
    have turn := jobs_le_turns calm lengths_le_longest single
    rw [Nat.one_mul] at turn
    exact Nat.le_antisymm turn longest

theorem makespan_le_all (v : Verifier) (fleet : Fleet) (r : Registry) :
    Pool.makespan (v.placed fleet r) ≤ r.names.length * v.limit := by
  have within : Pool.Within v.limit (v.jobs fleet r) := within_jobs lengths_le_limit
  have lone := Pool.makespan_le_lone v.concurrency within
  rwa [jobs_length] at lone

theorem elapsed_of_refused {ping : Step Unit} (refused : (v.run ping fleet r).verdict? = none) :
    (v.run ping fleet r).elapsed = min ping.delay v.limit := by
  by_cases late : v.limit < ping.delay
  · rw [v.run_late ping fleet r late]
    exact (Nat.min_eq_right (Nat.le_of_lt late)).symm
  · have inTime : ping.delay ≤ v.limit := Nat.le_of_not_lt late
    rw [Nat.min_eq_left inTime]
    cases answer : ping.answer with
    | value a =>
      rw [v.run_answered ping fleet r answer inTime] at refused
      simp [Run.verdict?] at refused
    | failure e =>
      rw [v.run_refused ping fleet r answer inTime]
      rfl
    | crash =>
      rw [v.run_crashed ping fleet r answer inTime]
      rfl

end

end FleetHealth.Verifier

namespace FleetHealth

theorem run_length_bounded (v : Verifier) (fleet : Fleet) (r : Registry) :
    let n := r.names.length
    let w := v.workers r
    let span := Pool.makespan (v.placed fleet r)
    w = min (max v.concurrency 1) n ∧ (∀ d ∈ v.lengths fleet r, d ≤ v.limit) ∧
    (v.Calm fleet r → v.Balanced fleet r span) ∧ span ≤ n * v.limit ∧
    ∀ ping,
      (ping.answer = .value () → ping.delay ≤ v.limit →
        v.run ping fleet r = .completed (v.placed fleet r) (ping.delay + span) ∧
        (v.Calm fleet r → (v.run ping fleet r).elapsed ≤ v.limit + n ⌈/⌉ w * v.limit) ∧
        (v.run ping fleet r).elapsed ≤ v.limit + n * v.limit) ∧
      ((v.run ping fleet r).verdict? = none →
        (v.run ping fleet r).elapsed = min ping.delay v.limit) := by
  intro n w span
  have all := v.makespan_le_all fleet r
  refine ⟨rfl, Verifier.lengths_le_limit, Verifier.balanced_of_calm, all, fun ping => ?_⟩
  refine ⟨fun answered inTime => ?_, Verifier.elapsed_of_refused⟩
  have completed := v.run_answered ping fleet r answered inTime
  refine ⟨completed, fun calm => ?_, ?_⟩
  · rw [completed]
    exact Nat.add_le_add inTime (Verifier.balanced_of_calm calm).turns
  · rw [completed]
    exact Nat.add_le_add inTime all

end FleetHealth
