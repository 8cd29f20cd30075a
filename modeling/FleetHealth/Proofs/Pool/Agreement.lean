import FleetHealth.Proofs.Pool.Progress

/- The order of the moves does not show in the end. Whichever way the pool comes to its end, the
   same jobs were begun as on the clock, with the same queries, outcomes and dead workers. -/
namespace FleetHealth.Pool

variable {concurrency : Nat} {jobs : List Job} {events : List Event} {s : State}

/-- A job that nobody began was left by workers that had all died before it. -/
theorem unbegun_of_final (sound : Sound concurrency jobs events s) (ended : s.final) {j : Nat}
    (inside : j < jobs.length) (behind : (begun events).length ≤ j) :
    s.answers[j]? = some .dropped ∧ s.AllDead ∧
      crashCount (jobs.take (begun events).length) = workerCount concurrency jobs.length := by
  rcases answer_of_final sound ended (List.getElem?_eq_getElem inside) with
    ⟨_, _, before, _⟩ | ⟨_, crashed, _⟩ | ⟨here, _, dead⟩
  · omega
  · have before := (sound.truthful.crashed j crashed).1
    omega
  · refine ⟨here, dead, ?_⟩
    rw [← sound.tallied.losses, ← sound.tallied.width, List.countP_eq_length]
    intro v mem
    rw [dead v mem]
    rfl

theorem begun_iff_of_final (sound : Sound concurrency jobs events s) (ended : s.final) {j : Nat}
    (inside : j < jobs.length) :
    j < (begun events).length ↔
      crashCount (jobs.take j) < workerCount concurrency jobs.length := by
  refine ⟨sound.tallied.room j, fun room => ?_⟩
  by_contra behind
  have all := (unbegun_of_final sound ended inside (Nat.le_of_not_lt behind)).2.2
  have more := crashCount_take_le jobs (Nat.le_of_not_lt behind)
  omega

theorem outcome_of_begun (sound : Sound concurrency jobs events s) (ended : s.final) {j : Nat}
    {job : Job} (known : jobs[j]? = some job) (before : j < (begun events).length) :
    (s.outcomes jobs)[j]? = some (job.check.report job.name) := by
  unfold Check.report
  rcases answer_of_final sound ended known with
    ⟨o, here, _, ends⟩ | ⟨here, _, ends⟩ | ⟨_, behind, _⟩
  · rw [outcomes_getElem? known here, ends]
    rfl
  · rw [outcomes_getElem? known here, ends]
    rfl
  · omega

theorem outcome_of_unbegun (sound : Sound concurrency jobs events s) (ended : s.final) {j : Nat}
    {job : Job} (known : jobs[j]? = some job) (behind : (begun events).length ≤ j) :
    (s.outcomes jobs)[j]? = some (.aborted job.name) := by
  obtain ⟨inside, _⟩ := List.getElem?_eq_some_iff.mp known
  exact outcomes_getElem? known (unbegun_of_final sound ended inside behind).1

/-- In the end no worker is at a check, so those that are lost are dead. -/
theorem doomed_of_gone (gone : s.allGone = true) :
    s.workers.countP (Worker.doomed jobs) = s.workers.countP (· == .dead) := by
  refine List.countP_congr fun v mem => ?_
  rcases gone_of_allGone gone mem with rfl | rfl <;> simp [Worker.doomed]

theorem casualties_of_final (sound : Sound concurrency jobs events s) (ended : s.final) :
    (casualties events).length = crashCount (jobs.take (begun events).length) := by
  rw [← sound.tallied.losses, doomed_of_gone ended.2.2, sound.tallied.deaths]

/-- Every job is begun, unless there are enough crashes for all the workers. -/
theorem all_begun_of_final (sound : Sound concurrency jobs events s) (ended : s.final)
    (few : crashCount jobs < workerCount concurrency jobs.length) :
    (begun events).length = jobs.length := by
  refine Nat.le_antisymm sound.ordered.within (Nat.le_of_not_lt fun inside => ?_)
  have all := (unbegun_of_final sound ended inside (Nat.le_refl _)).2.2
  have fewer := crashCount_take_le_all jobs (begun events).length
  omega

theorem casualties_eq_min (sound : Sound concurrency jobs events s) (ended : s.final) :
    (casualties events).length =
      min (workerCount concurrency jobs.length) (crashCount jobs) := by
  have most := sound.tallied.losses ▸ List.countP_le_length
  rw [sound.tallied.width] at most
  rw [casualties_of_final sound ended]
  rcases Nat.lt_or_eq_of_le sound.ordered.within with inside | all
  · have full := (unbegun_of_final sound ended inside (Nat.le_refl _)).2.2
    have fewer := crashCount_take_le_all jobs (begun events).length
    omega
  · rw [all, List.take_length] at most ⊢
    omega

theorem scheduled_of_job (concurrency : Nat) {j : Nat} {job : Job} (known : jobs[j]? = some job) :
    ∃ start, (schedule concurrency jobs)[j]? = some ⟨job, start⟩ := by
  have same : ((schedule concurrency jobs).map Placement.job)[j]? = some job := by
    rw [schedule_jobs, known]
  rw [List.getElem?_map, Option.map_eq_some_iff] at same
  obtain ⟨p, here, rfl⟩ := same
  exact ⟨p.start, here⟩

/-- The clock begins the jobs that are begun in every history. -/
theorem scheduled_iff_begun (sound : Sound concurrency jobs events s) (ended : s.final) {j : Nat}
    {p : Placement} (here : (schedule concurrency jobs)[j]? = some p) :
    p.start.isSome = true ↔ j < (begun events).length := by
  have inside : j < jobs.length := by
    obtain ⟨inside, _⟩ := List.getElem?_eq_some_iff.mp here
    rwa [length_schedule] at inside
  rw [begun_iff_of_final sound ended inside, schedule_started_iff here]

theorem outcomes_agree (sound : Sound concurrency jobs events s) (ended : s.final) :
    s.outcomes jobs = (schedule concurrency jobs).map Placement.outcome := by
  refine List.ext_getElem? fun j => ?_
  cases known : jobs[j]? with
  | none =>
    have outside := List.getElem?_eq_none_iff.mp known
    rw [List.getElem?_eq_none, List.getElem?_eq_none]
    · simpa [length_schedule] using outside
    · simpa [length_outcomes sound] using outside
  | some job =>
    obtain ⟨start, here⟩ := scheduled_of_job concurrency known
    have begins := scheduled_iff_begun sound ended here
    rw [List.getElem?_map, here]
    cases start with
    | none => exact outcome_of_unbegun sound ended known (by simpa using begins)
    | some t => exact outcome_of_begun sound ended known (by simpa using begins)

theorem filter_eq_take {α : Type} {p : α → Bool} {l : List α} {k : Nat}
    (first : ∀ i a, l[i]? = some a → (p a = true ↔ i < k)) : l.filter p = l.take k := by
  induction l generalizing k with
  | nil => simp
  | cons a l ih =>
    have head := first 0 a rfl
    cases k with
    | zero =>
      refine List.filter_eq_nil_iff.mpr fun b mem => ?_
      obtain ⟨i, here⟩ := List.mem_iff_getElem?.mp mem
      simpa using first i b here
    | succ k =>
      have rest := ih (k := k) fun i b here => by simpa using first (i + 1) b here
      rw [List.filter_cons_of_pos (by simpa using head), rest, List.take_succ_cons]

theorem filterMap_range_take {α β : Type} (f : α → β) (l : List α) (k : Nat) :
    (List.range k).filterMap (fun i => l[i]?.map f) = (l.take k).map f := by
  induction k with
  | zero => rfl
  | succ k ih =>
    rw [List.range_succ, List.filterMap_append, ih, List.take_add_one, List.map_append]
    cases here : l[k]? <;> simp [here]

theorem queriesMade_eq (sound : Sound concurrency jobs events s) :
    queriesMade jobs events =
      (jobs.take (begun events).length).map fun job => (job.name, job.check.queries) := by
  unfold queriesMade
  rw [sound.first, List.length_range, filterMap_range_take]

theorem queries_agree (sound : Sound concurrency jobs events s) (ended : s.final) :
    queriesMade jobs events =
      ((schedule concurrency jobs).filter fun p => p.start.isSome).map
        fun p => (p.job.name, p.job.check.queries) := by
  rw [queriesMade_eq sound, filter_eq_take fun j p here => scheduled_iff_begun sound ended here]
  nth_rewrite 1 [← schedule_jobs concurrency jobs]
  rw [← List.map_take, List.map_map]
  rfl

theorem losses_agree (sound : Sound concurrency jobs events s) (ended : s.final) :
    (casualties events).length = (schedule concurrency jobs).countP Placement.lost := by
  rw [casualties_eq_min sound ended, schedule_losses]

end FleetHealth.Pool
