import FleetHealth.Proofs.Pool.Placements
import Mathlib.Algebra.Order.BigOperators.Group.List
import Mathlib.Algebra.Order.Floor.Div
import Mathlib.Tactic.Ring

/- How long a schedule takes. Every job goes to the worker that is free first, so nobody idles while
   a job waits; the bounds follow from what that does to the times at which workers are free. -/
namespace FleetHealth.Pool

/-- The time that the checks of the jobs take together. -/
def work (jobs : List Job) : Nat := (jobs.map fun job => job.check.duration).sum

def Calm (jobs : List Job) : Prop := ∀ job ∈ jobs, job.check.crashed = false

def Within (limit : Nat) (jobs : List Job) : Prop := ∀ job ∈ jobs, job.check.duration ≤ limit

theorem crashCount_of_calm {jobs : List Job} (calm : Calm jobs) : crashCount jobs = 0 := by
  refine List.countP_eq_zero.mpr fun job mem => ?_
  simp [calm job mem]

theorem foldl_max_le_iff (l : List Nat) (a t : Nat) :
    l.foldl max a ≤ t ↔ a ≤ t ∧ ∀ x ∈ l, x ≤ t := by
  induction l generalizing a with
  | nil => simp
  | cons x l ih => rw [List.foldl_cons, ih, max_le_iff, List.forall_mem_cons, and_assoc]

theorem makespan_le_iff (placed : List Placement) (t : Nat) :
    makespan placed ≤ t ↔
      ∀ p ∈ placed, ∀ start, p.start = some start → start + p.job.check.duration ≤ t := by
  unfold makespan
  rw [foldl_max_le_iff]
  simp only [Nat.zero_le, true_and, List.mem_filterMap, Placement.finish?, Option.map_eq_some_iff]
  constructor
  · intro all p mem start begun
    exact all _ ⟨p, mem, start, begun, rfl⟩
  · rintro all _ ⟨p, mem, start, begun, rfl⟩
    exact all p mem start begun

theorem finish_le_makespan {placed : List Placement} {p : Placement} {start : Nat}
    (mem : p ∈ placed) (begun : p.start = some start) :
    start + p.job.check.duration ≤ makespan placed :=
  (makespan_le_iff placed _).mp (Nat.le_refl _) p mem start begun

theorem unstarted_of_place_nil {jobs : List Job} {p : Placement} (mem : p ∈ place [] jobs) :
    p.start = none := by
  induction jobs with
  | nil => simp [place] at mem
  | cons job jobs ih =>
    rcases List.mem_cons.mp mem with rfl | later
    · rfl
    · exact ih later

/-- What one placement keeps of the free times and the jobs that are left holds whenever a job is
begun. -/
theorem begun_of_invariant (inv : List Nat → List Job → Prop) (good : Job → Nat → Prop)
    (step : ∀ free now others job jobs, (now :: others).Perm free → (∀ t ∈ others, now ≤ t) →
      inv free (job :: jobs) → good job now ∧
        inv (if job.check.crashed then others else (now + job.check.duration) :: others) jobs)
    {free : List Nat} {jobs : List Job} (holds : inv free jobs) {p : Placement}
    (mem : p ∈ place free jobs) {start : Nat} (begun : p.start = some start) :
    good p.job start := by
  induction jobs generalizing free with
  | nil => simp [place] at mem
  | cons job jobs ih =>
    by_cases nobody : free = []
    · rw [nobody] at mem
      simp [unstarted_of_place_nil mem] at begun
    · obtain ⟨now, others, parts, first, placed⟩ := place_next nobody job jobs
      obtain ⟨here, later⟩ := step free now others job jobs parts first holds
      rw [placed] at mem
      rcases List.mem_cons.mp mem with rfl | mem
      · exact Option.some.inj begun ▸ here
      · exact ih later mem

theorem begun_of_calm (inv : List Nat → List Job → Prop) (good : Job → Nat → Prop)
    (step : ∀ free now others job jobs, (now :: others).Perm free → (∀ t ∈ others, now ≤ t) →
      inv free (job :: jobs) →
      good job now ∧ inv ((now + job.check.duration) :: others) jobs)
    {free : List Nat} {jobs : List Job} (calm : Calm jobs) (holds : inv free jobs) {p : Placement}
    (mem : p ∈ place free jobs) {start : Nat} (begun : p.start = some start) :
    good p.job start := by
  refine begun_of_invariant (fun free jobs => Calm jobs ∧ inv free jobs) good ?_ ⟨calm, holds⟩
    mem begun
  rintro free now others job jobs parts first ⟨calm, holds⟩
  obtain ⟨quiet, calm⟩ := List.forall_mem_cons.mp calm
  obtain ⟨here, later⟩ := step free now others job jobs parts first holds
  rw [quiet]
  exact ⟨here, calm, later⟩

/-- The least of the values is not above their average. -/
theorem length_mul_least_le {l others : List Nat} {least : Nat} (parts : (least :: others).Perm l)
    (first : ∀ t ∈ others, least ≤ t) : l.length * least ≤ l.sum := by
  rw [← parts.length_eq, ← parts.sum_eq]
  refine List.card_nsmul_le_sum (least :: others) least ?_
  exact List.forall_mem_cons.mpr ⟨Nat.le_refl least, first⟩

section
variable {free : List Nat} {jobs : List Job} {limit : Nat} {p : Placement} {start : Nat}

theorem start_le_average (calm : Calm jobs) (mem : p ∈ place free jobs)
    (begun : p.start = some start) :
    free.length * start + p.job.check.duration ≤ free.sum + work jobs := by
  -- Work moves from the jobs that are left to the workers and is never lost, and no worker is
  -- free before the one that takes the next job.
  refine begun_of_calm
    (fun left rest => left.length = free.length ∧
      left.sum + work rest = free.sum + work jobs)
    (fun job start =>
      free.length * start + job.check.duration ≤ free.sum + work jobs)
    ?_ calm ⟨rfl, rfl⟩ mem begun
  rintro left now others job rest parts first ⟨width, total⟩
  have average := width ▸ length_mul_least_le parts first
  have sums : now + others.sum = left.sum := parts.sum_eq
  have lengths : others.length + 1 = left.length := parts.length_eq
  have works : work (job :: rest) = job.check.duration + work rest := rfl
  refine ⟨by omega, ?_, ?_⟩
  · rw [List.length_cons]
    omega
  · rw [List.sum_cons]
    omega

/-- How many turns of the length `limit` it takes to come to a time. -/
def turns (limit t : Nat) : Nat := t ⌈/⌉ limit

theorem turns_le_iff (positive : 0 < limit) {t k : Nat} : turns limit t ≤ k ↔ t ≤ limit * k :=
  ceilDiv_le_iff_le_mul positive

theorem le_limit_mul_turns (positive : 0 < limit) (t : Nat) : t ≤ limit * turns limit t :=
  (turns_le_iff positive).mp (Nat.le_refl _)

theorem turns_mono (positive : 0 < limit) {t u : Nat} (le : t ≤ u) :
    turns limit t ≤ turns limit u :=
  (turns_le_iff positive).mpr (Nat.le_trans le (le_limit_mul_turns positive u))

theorem turns_add_le (positive : 0 < limit) (t : Nat) {d : Nat} (short : d ≤ limit) :
    turns limit (t + d) ≤ turns limit t + 1 := by
  have enough := le_limit_mul_turns positive t
  rw [turns_le_iff positive, Nat.mul_succ]
  omega

theorem finish_le_turns (positive : 0 < limit) (calm : Calm jobs) (within : Within limit jobs)
    {k : Nat} (few : (free.map (turns limit)).sum + jobs.length ≤ free.length * k)
    (mem : p ∈ place free jobs) (begun : p.start = some start) :
    start + p.job.check.duration ≤ limit * k := by
  -- The average of the times bounds too little here. Their numbers of turns are whole, so the
  -- worker that is free first has less than `k` of them, and the job adds one at most.
  refine begun_of_calm
    (fun left rest => left.length = free.length ∧ Within limit rest ∧
      (left.map (turns limit)).sum + rest.length ≤ free.length * k)
    (fun job start => start + job.check.duration ≤ limit * k)
    ?_ calm ⟨rfl, within, few⟩ mem begun
  rintro left now others job rest parts first ⟨width, within, few⟩
  obtain ⟨short, within⟩ := List.forall_mem_cons.mp within
  have turned : (turns limit now :: others.map (turns limit)).Perm (left.map (turns limit)) :=
    parts.map (turns limit)
  have least : ∀ u ∈ others.map (turns limit), turns limit now ≤ u := by
    intro u mem
    obtain ⟨t, later, rfl⟩ := List.mem_map.mp mem
    exact turns_mono positive (first t later)
  have average := length_mul_least_le turned least
  have sums : turns limit now + (others.map (turns limit)).sum = (left.map (turns limit)).sum :=
    turned.sum_eq
  have lengths : others.length + 1 = left.length := parts.length_eq
  have one := turns_add_le positive now short
  rw [List.length_map, width] at average
  rw [List.length_cons] at few
  refine ⟨?_, ?_, within, ?_⟩
  · have room : turns limit now < k := by
      refine Nat.lt_of_mul_lt_mul_left (a := free.length) ?_
      omega
    rw [← turns_le_iff positive]
    omega
  · rw [List.length_cons]
    omega
  · rw [List.map_cons, List.sum_cons]
    omega

/-- Even if all the other workers are dead, each job before this one takes the limit at most. -/
theorem finish_le_lone (within : Within limit jobs) {t : Nat} (early : ∀ u ∈ free, u ≤ t)
    (mem : p ∈ place free jobs) (begun : p.start = some start) :
    start + p.job.check.duration ≤ t + jobs.length * limit := by
  refine begun_of_invariant
    (fun left rest => Within limit rest ∧
      ∀ u ∈ left, u + rest.length * limit ≤ t + jobs.length * limit)
    (fun job start => start + job.check.duration ≤ t + jobs.length * limit)
    ?_ ⟨within, fun u here => Nat.add_le_add_right (early u here) _⟩ mem begun
  rintro left now others job rest parts first ⟨within, early⟩
  obtain ⟨short, within⟩ := List.forall_mem_cons.mp within
  have before : ∀ u ∈ now :: others, u + (rest.length + 1) * limit ≤ t + jobs.length * limit :=
    fun u here => early u (parts.subset here)
  obtain ⟨soon, later⟩ := List.forall_mem_cons.mp before
  simp only [Nat.succ_mul] at soon later
  refine ⟨by omega, within, ?_⟩
  have others_ : ∀ u ∈ others, u + rest.length * limit ≤ t + jobs.length * limit := by
    intro u here
    have := later u here
    omega
  split
  · exact others_
  · exact List.forall_mem_cons.mpr ⟨by omega, others_⟩

theorem work_le_of_finished (calm : Calm jobs) (some_ : free ≠ []) {t : Nat}
    (early : ∀ u ∈ free, u ≤ t)
    (done : ∀ p ∈ place free jobs, ∀ start, p.start = some start →
      start + p.job.check.duration ≤ t) :
    free.sum + work jobs ≤ free.length * t := by
  -- Each job adds its length to one of the times, and all of them stay within `t`.
  induction jobs generalizing free with
  | nil => exact List.sum_le_card_nsmul free t early
  | cons job jobs ih =>
    obtain ⟨now, others, parts, first, placed⟩ := place_next some_ job jobs
    obtain ⟨quiet, calm⟩ := List.forall_mem_cons.mp calm
    rw [placed, quiet] at done
    obtain ⟨here, done⟩ := List.forall_mem_cons.mp done
    have soon : ∀ u ∈ (now + job.check.duration) :: others, u ≤ t := by
      refine List.forall_mem_cons.mpr ⟨here now rfl, fun u mem => ?_⟩
      exact early u (parts.subset (List.mem_cons_of_mem now mem))
    have later := ih calm (List.cons_ne_nil _ _) soon done
    have sums : now + others.sum = free.sum := parts.sum_eq
    have works : work (job :: jobs) = job.check.duration + work jobs := rfl
    rw [List.sum_cons, List.length_cons] at later
    rw [← parts.length_eq, List.length_cons]
    omega

end

theorem workerCount_pos (concurrency n : Nat) : 0 < workerCount concurrency n := by
  unfold workerCount
  omega

section
variable {concurrency : Nat} {jobs : List Job} {limit : Nat}

theorem duration_le_makespan (calm : Calm jobs) {job : Job} (mem : job ∈ jobs) :
    job.check.duration ≤ makespan (schedule concurrency jobs) := by
  rw [← schedule_jobs concurrency jobs] at mem
  obtain ⟨p, placed, rfl⟩ := List.mem_map.mp mem
  obtain ⟨i, here⟩ := List.mem_iff_getElem?.mp placed
  have room : crashCount (jobs.take i) < workerCount concurrency jobs.length := by
    have before := crashCount_take_le_all jobs i
    rw [crashCount_of_calm calm] at before
    have := workerCount_pos concurrency jobs.length
    omega
  obtain ⟨start, begun⟩ := Option.isSome_iff_exists.mp ((schedule_started_iff here).mpr room)
  have finish := finish_le_makespan placed begun
  omega

theorem work_le_makespan (calm : Calm jobs) :
    work jobs ≤
      workerCount concurrency jobs.length * makespan (schedule concurrency jobs) := by
  have workers := workerCount_pos concurrency jobs.length
  have some_ : List.replicate (workerCount concurrency jobs.length) 0 ≠ [] := by
    simp only [ne_eq, List.replicate_eq_nil_iff]
    omega
  have early : ∀ u ∈ List.replicate (workerCount concurrency jobs.length) 0,
      u ≤ makespan (schedule concurrency jobs) := by
    intro u mem
    rw [List.eq_of_mem_replicate mem]
    exact Nat.zero_le _
  have done := work_le_of_finished calm some_ early fun p mem start begun =>
    finish_le_makespan mem begun
  simpa using done

/-- The last job to be finished waited for the others, and then had a worker to itself. -/
theorem makespan_le_average (calm : Calm jobs) (within : Within limit jobs) :
    workerCount concurrency jobs.length * makespan (schedule concurrency jobs) ≤
      work jobs + (workerCount concurrency jobs.length - 1) * limit := by
  obtain ⟨others, workers⟩ :=
    Nat.exists_eq_add_one_of_ne_zero (workerCount_pos concurrency jobs.length).ne'
  rw [Nat.mul_comm, ← Nat.le_div_iff_mul_le (workerCount_pos _ _), makespan_le_iff]
  intro p mem start begun
  have average := start_le_average calm mem begun
  rw [List.length_replicate, List.sum_replicate, smul_zero, Nat.zero_add] at average
  have short : p.job.check.duration ≤ limit :=
    within p.job (schedule_jobs concurrency jobs ▸ List.mem_map_of_mem mem)
  rw [workers] at average ⊢
  rw [Nat.le_div_iff_mul_le (Nat.succ_pos others), Nat.add_sub_cancel]
  calc (start + p.job.check.duration) * (others + 1)
      = (others + 1) * start + p.job.check.duration + others * p.job.check.duration := by ring
    _ ≤ work jobs + others * limit :=
        Nat.add_le_add average (Nat.mul_le_mul_left others short)

theorem makespan_le_lone (concurrency : Nat) (within : Within limit jobs) :
    makespan (schedule concurrency jobs) ≤ jobs.length * limit := by
  rw [makespan_le_iff]
  intro p mem start begun
  have idle : ∀ u ∈ List.replicate (workerCount concurrency jobs.length) 0, u ≤ 0 := by
    intro u here
    rw [List.eq_of_mem_replicate here]
  have lone := finish_le_lone within idle mem begun
  rwa [Nat.zero_add] at lone

/-- If each worker gets no more than `k` jobs when they are dealt out evenly, nobody works longer
than on so many of the longest jobs. -/
theorem makespan_le_turns (calm : Calm jobs) (within : Within limit jobs) {k : Nat}
    (few : jobs.length ≤ workerCount concurrency jobs.length * k) :
    makespan (schedule concurrency jobs) ≤ k * limit := by
  by_cases positive : 0 < limit
  · rw [makespan_le_iff, Nat.mul_comm]
    intro p mem start begun
    refine finish_le_turns positive calm within ?_ mem begun
    rw [List.map_replicate, List.length_replicate, List.sum_replicate]
    simpa [turns] using few
  · have none_ : limit = 0 := by omega
    have lone := makespan_le_lone concurrency within
    rw [none_, Nat.mul_zero] at lone ⊢
    exact lone

end

end FleetHealth.Pool
