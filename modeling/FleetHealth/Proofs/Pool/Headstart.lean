import FleetHealth.Proofs.Pool.Makespan

/- The same jobs with fewer and with more workers. Sorting the times at which workers are free is not
   needed to compare them: at every time at least as many are free where there are more, and a job
   that both take next keeps it that way. -/
namespace FleetHealth.Pool

/-- At every time at least as many of the other workers are free. -/
def FreeSooner (free other : List Nat) : Prop :=
  ∀ t, free.countP (· ≤ t) ≤ other.countP (· ≤ t)

/-- Both placements begin the same job, the first no later than the second. -/
def Placement.NoLater (p q : Placement) : Prop :=
  p.job = q.job ∧ ∃ s t, p.start = some s ∧ q.start = some t ∧ s ≤ t

section
variable {free other others behind : List Nat} {now soon : Nat}

theorem ne_nil_of_freeSooner (sooner : FreeSooner free other) (some_ : free ≠ []) :
    other ≠ [] := by
  obtain ⟨t, ts, rfl⟩ := List.exists_cons_of_ne_nil some_
  rintro rfl
  have none_ := sooner t
  simp at none_

/-- Who is free by time `t`, before and after the worker that is free at `now` takes a job. -/
theorem countP_next (parts : (now :: others).Perm free) (d t : Nat) :
    ((now + d) :: others).countP (· ≤ t) + (if now ≤ t then 1 else 0) =
      free.countP (· ≤ t) + if now + d ≤ t then 1 else 0 := by
  rw [← parts.countP_eq, List.countP_cons, List.countP_cons]
  simp only [decide_eq_true_eq]
  omega

theorem countP_of_early (first : ∀ u ∈ others, now ≤ u) {d t : Nat} (early : t < now) :
    ((now + d) :: others).countP (· ≤ t) = 0 := by
  refine List.countP_eq_zero.mpr fun u mem => ?_
  rw [decide_eq_true_eq]
  rcases List.mem_cons.mp mem with rfl | mem
  · omega
  · have later := first u mem
    omega

theorem first_le_of_freeSooner (sooner : FreeSooner free other)
    (parts : (now :: others).Perm free) (partsToo : (soon :: behind).Perm other)
    (first : ∀ u ∈ behind, soon ≤ u) : soon ≤ now := by
  have one : 0 < free.countP (· ≤ now) := by
    rw [List.countP_pos_iff]
    exact ⟨now, parts.subset List.mem_cons_self, by simp⟩
  obtain ⟨u, mem, early⟩ := List.countP_pos_iff.mp (Nat.lt_of_lt_of_le one (sooner now))
  rw [decide_eq_true_eq] at early
  rcases List.mem_cons.mp (partsToo.symm.subset mem) with rfl | later
  · exact early
  · exact Nat.le_trans (first u later) early

theorem freeSooner_next (sooner : FreeSooner free other) (parts : (now :: others).Perm free)
    (first : ∀ u ∈ others, now ≤ u) (partsToo : (soon :: behind).Perm other) (early : soon ≤ now)
    (d : Nat) : FreeSooner ((now + d) :: others) ((soon + d) :: behind) := by
  intro t
  by_cases before : t < now
  · rw [countP_of_early first before]
    exact Nat.zero_le _
  · have taken := countP_next parts d t
    have takenToo := countP_next partsToo d t
    have more := sooner t
    rw [if_pos (Nat.le_of_not_lt before)] at taken
    rw [if_pos (by omega)] at takenToo
    split at taken <;> split at takenToo <;> omega

end

theorem place_noLater {free other : List Nat} {jobs : List Job} (calm : Calm jobs)
    (some_ : free ≠ []) (sooner : FreeSooner free other) :
    List.Forall₂ Placement.NoLater (place other jobs) (place free jobs) := by
  induction jobs generalizing free other with
  | nil => exact List.Forall₂.nil
  | cons job jobs ih =>
    obtain ⟨quiet, calm⟩ := List.forall_mem_cons.mp calm
    obtain ⟨now, others, parts, first, placed⟩ := place_next some_ job jobs
    obtain ⟨soon, behind, partsToo, firstToo, placedToo⟩ :=
      place_next (ne_nil_of_freeSooner sooner some_) job jobs
    have early := first_le_of_freeSooner sooner parts partsToo firstToo
    have next := freeSooner_next sooner parts first partsToo early job.check.duration
    rw [placed, placedToo, quiet]
    refine List.Forall₂.cons ⟨rfl, soon, now, rfl, rfl, early⟩ ?_
    exact ih calm (List.cons_ne_nil _ _) next

section
variable {placed others : List Placement} (noLater : List.Forall₂ Placement.NoLater placed others)
include noLater

theorem noLater_of_mem {p : Placement} (mem : p ∈ placed) : ∃ q ∈ others, p.NoLater q := by
  induction noLater with
  | nil => simp at mem
  | cons first rest ih =>
    rcases List.mem_cons.mp mem with rfl | mem
    · exact ⟨_, List.mem_cons_self, first⟩
    · obtain ⟨q, later, noLater⟩ := ih mem
      exact ⟨q, List.mem_cons_of_mem _ later, noLater⟩

theorem makespan_le_of_noLater : makespan placed ≤ makespan others := by
  rw [makespan_le_iff]
  intro p mem start begun
  obtain ⟨q, memQ, same, s, t, begins, waits, early⟩ := noLater_of_mem noLater mem
  have finish := finish_le_makespan memQ waits
  obtain rfl := Option.some.inj (begun.symm.trans begins)
  rw [same]
  omega

/-- Both schedules have the job of a service at the same place. -/
theorem find?_noLater {name : ServiceName} (known : name ∈ placed.map fun p => p.job.name) :
    ∃ p q, placed.find? (fun p => p.job.name == name) = some p ∧
      others.find? (fun p => p.job.name == name) = some q ∧ p.NoLater q := by
  induction noLater with
  | nil => simp at known
  | @cons p q placed others first rest ih =>
    by_cases here : p.job.name = name
    · have there : q.job.name = name := first.1 ▸ here
      exact ⟨p, q, by simp [here], by simp [there], first⟩
    · have elsewhere : q.job.name ≠ name := first.1 ▸ here
      rw [List.find?_cons_of_neg (by simpa using here),
        List.find?_cons_of_neg (by simpa using elsewhere)]
      refine ih ?_
      rw [List.map_cons, List.mem_cons] at known
      exact known.resolve_left (Ne.symm here)

end

theorem workerCount_mono {few many : Nat} (le : few ≤ many) (n : Nat) :
    workerCount few n ≤ workerCount many n := by
  unfold workerCount
  omega

theorem schedule_noLater {few many : Nat} {jobs : List Job} (calm : Calm jobs)
    (le : few ≤ many) :
    List.Forall₂ Placement.NoLater (schedule many jobs) (schedule few jobs) := by
  refine place_noLater calm ?_ fun t => ?_
  · have workers := workerCount_pos few jobs.length
    rw [ne_eq, List.replicate_eq_nil_iff]
    omega
  · rw [List.countP_replicate, List.countP_replicate, if_pos (by simp), if_pos (by simp)]
    exact workerCount_mono le jobs.length

end FleetHealth.Pool
