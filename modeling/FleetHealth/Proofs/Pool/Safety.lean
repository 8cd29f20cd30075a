import FleetHealth.Proofs.Pool.Sound

/- What the collector has when nothing is left to happen: one outcome a job, in the order of the
   jobs. It is the outcome of the check, unless the check crashed or nobody lived to begin it. -/
namespace FleetHealth.Pool

variable {concurrency : Nat} {jobs : List Job} {events : List Event} {s : State}

theorem settled_of_final (sound : Sound concurrency jobs events s) (ended : s.final) {j : Nat}
    (inside : j < jobs.length) : settledAt s.answers j = 1 :=
  sound.gathered.settled j (by rw [ended.2.1, sound.span]; exact inside)

/-- In the end a job has the outcome of its check or was dropped. -/
theorem answer_of_final (sound : Sound concurrency jobs events s) (ended : s.final) {j : Nat}
    {job : Job} (known : jobs[j]? = some job) :
    (∃ o, s.answers[j]? = some (.outcome o) ∧ j < (begun events).length ∧
      job.check.outcome = some o) ∨
    (s.answers[j]? = some .dropped ∧ j ∈ casualties events ∧ job.check.outcome = none) ∨
    (s.answers[j]? = some .dropped ∧ (begun events).length ≤ j ∧ s.AllDead) := by
  obtain ⟨inside, _⟩ := List.getElem?_eq_some_iff.mp known
  have settled := settled_of_final sound ended inside
  cases here : s.answers[j]? with
  | none => simp [settledAt, here] at settled
  | some a =>
    cases a with
    | waiting =>
      simp [settledAt, here, Answered.settled, Answered.isOutcome, Answered.isDropped] at settled
    | outcome o =>
      obtain ⟨before, other, knownToo, ends⟩ := sound.truthful.reports j o here
      obtain rfl := Option.some.inj (known.symm.trans knownToo)
      exact Or.inl ⟨o, rfl, before, ends⟩
    | dropped =>
      rcases sound.truthful.drops j here with crashed | ⟨behind, dead⟩
      · obtain ⟨_, other, knownToo, ends⟩ := sound.truthful.crashed j crashed
        obtain rfl := Option.some.inj (known.symm.trans knownToo)
        exact Or.inr (Or.inl ⟨rfl, crashed, ends⟩)
      · exact Or.inr (Or.inr ⟨rfl, behind, dead⟩)

theorem outcomes_getElem? {j : Nat} {job : Job} {a : Answered} (known : jobs[j]? = some job)
    (here : s.answers[j]? = some a) : (s.outcomes jobs)[j]? = some (a.outcomeOf job.name) := by
  have both : (jobs.zip s.answers)[j]? = some (job, a) :=
    List.getElem?_zip_eq_some.mpr ⟨known, here⟩
  simp [State.outcomes, both]

theorem length_outcomes (sound : Sound concurrency jobs events s) :
    (s.outcomes jobs).length = jobs.length := by
  simp [State.outcomes, sound.span]

/-- The outcome of a job in the end, and why it was aborted if it was. -/
theorem outcome_of_final (sound : Sound concurrency jobs events s) (ended : s.final) {j : Nat}
    {job : Job} (known : jobs[j]? = some job) :
    ∃ o, (s.outcomes jobs)[j]? = some o ∧
      (job.check.outcome = some o ∧ o ≠ .aborted job.name ∨
        o = .aborted job.name ∧ (j ∈ casualties events ∨ j ∉ begun events ∧ s.AllDead)) := by
  rcases answer_of_final sound ended known with
    ⟨o, here, _, ends⟩ | ⟨here, crashed, _⟩ | ⟨here, behind, dead⟩
  · exact ⟨o, outcomes_getElem? known here, Or.inl ⟨ends, (job.own o ends).2⟩⟩
  · exact ⟨_, outcomes_getElem? known here, Or.inr ⟨rfl, Or.inl crashed⟩⟩
  · have never : j ∉ begun events := by
      rw [sound.first, List.mem_range]
      omega
    exact ⟨_, outcomes_getElem? known here, Or.inr ⟨rfl, Or.inr ⟨never, dead⟩⟩⟩

theorem names_of_final (sound : Sound concurrency jobs events s) (ended : s.final) :
    (s.outcomes jobs).map Outcome.name = jobs.map Job.name := by
  refine List.ext_getElem? fun j => ?_
  rw [List.getElem?_map, List.getElem?_map]
  cases known : jobs[j]? with
  | none =>
    have outside : (s.outcomes jobs)[j]? = none := by
      rw [List.getElem?_eq_none_iff, length_outcomes sound]
      exact List.getElem?_eq_none_iff.mp known
    simp [outside]
  | some job =>
    obtain ⟨o, here, ⟨ends, _⟩ | ⟨rfl, _⟩⟩ := outcome_of_final sound ended known
    · simp [here, (job.own o ends).1]
    · rw [here]
      rfl

theorem begun_nodup (sound : Sound concurrency jobs events s) : (begun events).Nodup := by
  rw [sound.first]
  exact List.nodup_range

theorem outcomes_exact (h : History concurrency jobs events s) :
    (begun events).Nodup ∧
    s.inventory.Perm (List.range jobs.length) ∧
    (s.final →
      (s.outcomes jobs).map Outcome.name = jobs.map Job.name ∧
      ∀ i job o, jobs[i]? = some job → (s.outcomes jobs)[i]? = some o →
        (job.check.outcome = some o ∨ o = .aborted job.name) ∧
        (o = .aborted job.name →
          i ∈ casualties events ∨ i ∉ begun events ∧ ∀ v ∈ s.workers, v = .dead)) := by
  have sound := h.sound
  refine ⟨begun_nodup sound, sound.once, fun ended => ⟨names_of_final sound ended, ?_⟩⟩
  intro i job o known here
  obtain ⟨p, there, own⟩ := outcome_of_final sound ended known
  obtain rfl := Option.some.inj (here.symm.trans there)
  rcases own with ⟨ends, other⟩ | ⟨aborted, why⟩
  · exact ⟨Or.inl ends, fun aborted => absurd aborted other⟩
  · exact ⟨Or.inr aborted, fun _ => why⟩

/-- A job whose check crashes at its first query. -/
def Job.crashing (name : ServiceName) : Job := ⟨name, ⟨none, [.resolve], 0⟩, by simp⟩

/-- A job whose service runs nowhere. -/
def Job.absent (name : ServiceName) : Job :=
  ⟨name, ⟨some (.unprobed name), [.resolve], 0⟩, fun _ mem =>
    Option.some.inj mem ▸ Check.own_unbroken rfl rfl⟩

/-- The only worker dies of the first job, and the second is given up with the queue. -/
def loneEvents : List Event :=
  [.sent 0, .taken 0 0, .sent 1, .crashed 0 0, .closed, .discarded 1, .collected, .collected]

theorem lone_worker_dies : History 1 [.crashing ['a'], .absent ['b']] loneEvents
    ⟨[], true, [], [.dead], [.dropped, .dropped], 2⟩ := by
  have begins : History 1 [.crashing ['a'], .absent ['b']] [] (.start 1 _) := .start
  have sent := begins.move (.send rfl (by decide) rfl)
  have taken := sent.move (.take (w := 0) rfl rfl)
  have both := taken.move (.send rfl (by decide) rfl)
  have crashed := both.move (.crash (w := 0) rfl rfl rfl)
  have closed := crashed.move (.close rfl rfl)
  have discarded := closed.move (.discard rfl rfl rfl)
  have collected := discarded.move (.collect rfl rfl nofun)
  exact collected.move (.collect rfl rfl nofun)

theorem outcomes_exact_lone :
    ∃ s, History 1 [.crashing ['a'], .absent ['b']] loneEvents s ∧ s.final ∧
      (s.outcomes [.crashing ['a'], .absent ['b']]).map Outcome.name = [['a'], ['b']] ∧
      (1 ∈ casualties loneEvents ∨ 1 ∉ begun loneEvents ∧ ∀ v ∈ s.workers, v = .dead) := by
  have finished : State.final ⟨[], true, [], [.dead], [.dropped, .dropped], 2⟩ := ⟨rfl, rfl, rfl⟩
  obtain ⟨names, entries⟩ := (outcomes_exact lone_worker_dies).2.2 finished
  exact ⟨_, lone_worker_dies, finished, names, (entries 1 _ _ rfl rfl).2 rfl⟩

end FleetHealth.Pool
