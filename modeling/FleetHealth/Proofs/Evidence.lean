import FleetHealth.Proofs.Check.Course
import FleetHealth.Proofs.Reordering

/- What an outcome says is what was seen. A service that counts as found has its exit code, its log
   and the matches in it; of one that does not, the outcome tells how far its check came. -/
namespace FleetHealth

/-- What the outcome of a service says of its instance, given whether its check was begun. -/
structure Outcome.Evident (scan : Text → List LineMatch) (limit : Nat) (i : Instance)
    (begun : Prop) (o : Outcome) : Prop where
  found : o.found = true ↔ begun ∧ i.resolve.answer = .value true ∧
    (∃ code, i.exitCode.answer = .value code) ∧ (∃ log, i.logs.answer = .value log) ∧
    i.ends .logs ≤ limit
  collected : o.found = true → o.probeError = none ∧
    (∃ code, i.exitCode.answer = .value code ∧ o.exitCode = some code) ∧
    i.logs.answer = .value o.logText ∧ o.matched = scan o.logText
  lost : o.found = false → o.logText = [] ∧ o.matched = []
  nowhere : o.found = false ∧ o.probeError = none ↔
    begun ∧ i.resolve.answer = .value false ∧ i.ends .resolve ≤ limit
  codeless : o.found = false → o.probeError = none → o.exitCode = none
  unlogged : ∀ code, o.found = false ∧ o.exitCode = some code ↔
    begun ∧ i.resolve.answer = .value true ∧ i.exitCode.answer = .value code ∧
      i.ends .exitCode ≤ limit ∧ (limit < i.ends .logs ∨ ∃ e, i.logs.answer = .failure e)
  kinds : .instanceNotFound ∈ o.kinds → .logSignatureMatch ∉ o.kinds

theorem Outcome.kinds_of_lost {o : Outcome}
    (lost : o.found = false → o.logText = [] ∧ o.matched = [])
    (missing : .instanceNotFound ∈ o.kinds) : .logSignatureMatch ∉ o.kinds := by
  cases seen : o.found with
  | true => simp [kinds, seen] at missing
  | false => simp [kinds, seen, (lost seen).2]

namespace Check.Course
variable {scan : Text → List LineMatch} {limit : Nat} {name : ServiceName} {i : Instance}
  {c : Check}

theorem report_found (course : Course scan (some limit) name i c)
    (found : (c.report name).found = true) :
    ∃ log, i.Reached (some limit) .logs ∧ i.ends .logs ≤ limit ∧ i.logs.answer = .value log ∧
      c.report name = readLog scan (i.known name .logs) log := by
  cases course with
  | complete reached inTime logged =>
    exact ⟨_, reached, inTime_some_iff.mp inTime, logged, rfl⟩
  | cut | failed | crashed | absent =>
    simp [report, timedOut, failedAt, interrupted, Outcome.aborted, Outcome.unprobed] at found

theorem report_lost (course : Course scan (some limit) name i c)
    (lost : (c.report name).found = false) :
    (c.report name).logText = [] ∧ (c.report name).matched = [] := by
  cases course with
  | cut | failed =>
    obtain ⟨_, log, matched, _⟩ := i.known_blank name ‹Stage›
    exact ⟨log, matched⟩
  | crashed | absent => exact ⟨rfl, rfl⟩
  | complete => simp [report, readLog, Instance.known] at lost

theorem report_nowhere_iff (course : Course scan (some limit) name i c) :
    (c.report name).found = false ∧ (c.report name).probeError = none ↔
      i.resolve.answer = .value false ∧ i.ends .resolve ≤ limit := by
  constructor
  · rintro ⟨lost, unbroken⟩
    cases course with
    | absent inTime nowhere =>
      exact ⟨Instance.turn_resolve_absent.mp nowhere, inTime_some_iff.mp inTime⟩
    | cut | failed | crashed =>
      simp [report, timedOut, failedAt, interrupted, Outcome.aborted] at unbroken
    | complete => simp [report, readLog, Instance.known] at lost
  · rintro ⟨nowhere, inTime⟩
    rw [course.unique (.absent (inTime_some_iff.mpr inTime)
      (Instance.turn_resolve_absent.mpr nowhere))]
    exact ⟨rfl, rfl⟩

theorem report_unlogged_iff (course : Course scan (some limit) name i c) (code : Int) :
    (c.report name).found = false ∧ (c.report name).exitCode = some code ↔
      i.resolve.answer = .value true ∧ i.exitCode.answer = .value code ∧
        i.ends .exitCode ≤ limit ∧ (limit < i.ends .logs ∨ ∃ e, i.logs.answer = .failure e) := by
  constructor
  · rintro ⟨lost, ended⟩
    -- An exit code is known in the last stage alone, so that is where the check ended.
    have last {s : Stage} (reached : i.Reached (some limit) s)
        (known : (i.known name s).exitCode = some code) :
        s = .logs ∧ i.resolve.answer = .value true ∧ i.exitCode.answer = .value code ∧
          i.ends .exitCode ≤ limit := by
      obtain ⟨rfl, exits⟩ := Instance.known_exitCode_iff.mp known
      obtain ⟨there, _, inTime⟩ := Instance.reached_logs_iff.mp reached
      exact ⟨rfl, there, exits, inTime_some_iff.mp inTime⟩
    cases course with
    | cut reached limited late =>
      obtain ⟨rfl, there, exits, inTime⟩ := last reached ended
      exact ⟨there, exits, inTime, Or.inl (Option.some.inj limited ▸ late)⟩
    | failed reached _ fails =>
      obtain ⟨rfl, there, exits, inTime⟩ := last reached ended
      exact ⟨there, exits, inTime, Or.inr ⟨_, Answer.turn_failed.mp fails⟩⟩
    | crashed | absent => simp [report, Outcome.aborted, Outcome.unprobed] at ended
    | complete => simp [report, readLog, Instance.known] at lost
  · rintro ⟨there, exits, inTime, stopped⟩
    have known : (i.known name .logs).exitCode = some code :=
      Instance.known_exitCode_iff.mpr ⟨rfl, exits⟩
    have reached : i.Reached (some limit) .logs :=
      Instance.reached_logs_iff.mpr ⟨there, ⟨code, exits⟩, inTime_some_iff.mpr inTime⟩
    by_cases late : limit < i.ends .logs
    · rw [course.unique (.cut reached rfl late)]
      exact ⟨rfl, known⟩
    · obtain ⟨e, fails⟩ := stopped.resolve_left late
      rw [course.unique (.failed reached (inTime_some_iff.mpr (Nat.le_of_not_lt late))
        (Answer.turn_failed.mpr fails))]
      exact ⟨rfl, known⟩

theorem evident (course : Course scan (some limit) name i c) :
    (c.report name).Evident scan limit i True where
  found := by
    rw [true_and]
    constructor
    · intro found
      obtain ⟨log, reached, inTime, logged, _⟩ := course.report_found found
      obtain ⟨there, exits, _⟩ := Instance.reached_logs_iff.mp reached
      exact ⟨there, exits, ⟨log, logged⟩, inTime⟩
    · rintro ⟨there, exits, ⟨log, logged⟩, inTime⟩
      have before := Nat.le_trans (i.begins_le_ends .logs) inTime
      have reached := Instance.reached_logs_iff.mpr ⟨there, exits, inTime_some_iff.mpr before⟩
      rw [course.unique (.complete reached (inTime_some_iff.mpr inTime) logged)]
      rfl
  collected found := by
    obtain ⟨log, reached, _, logged, told⟩ := course.report_found found
    obtain ⟨_, ⟨code, exits⟩, _⟩ := Instance.reached_logs_iff.mp reached
    obtain ⟨_, _, _, unbroken⟩ := i.known_blank name .logs
    rw [told]
    exact ⟨unbroken, ⟨code, exits, Instance.known_exitCode_iff.mpr ⟨rfl, exits⟩⟩, logged, rfl⟩
  lost := course.report_lost
  nowhere := by rw [true_and, course.report_nowhere_iff]
  codeless lost unbroken := by
    obtain ⟨nowhere, inTime⟩ := course.report_nowhere_iff.mp ⟨lost, unbroken⟩
    rw [course.unique (.absent (inTime_some_iff.mpr inTime)
      (Instance.turn_resolve_absent.mpr nowhere))]
    rfl
  unlogged code := by rw [true_and, course.report_unlogged_iff]
  kinds := Outcome.kinds_of_lost course.report_lost

end Check.Course

/-- Of a service that nobody checked nothing is told. -/
theorem Outcome.evident_aborted (scan : Text → List LineMatch) (limit : Nat) (i : Instance)
    (name : ServiceName) : (aborted name).Evident scan limit i False where
  found := by simp [aborted, unprobed]
  collected found := by simp [aborted, unprobed] at found
  lost _ := ⟨rfl, rfl⟩
  nowhere := by simp [aborted]
  codeless _ _ := rfl
  unlogged code := by simp [aborted, unprobed]
  kinds := kinds_of_lost fun _ => ⟨rfl, rfl⟩

namespace Verifier
variable {v : Verifier} {fleet : Fleet} {r : Registry} {events : List Pool.Event}
  {s : Pool.State} {j : Nat} {name : ServiceName}

theorem mem_take_iff (here : r.names[j]? = some name) (k : Nat) :
    name ∈ r.names.take k ↔ j < k := by
  constructor
  · intro mem
    by_contra behind
    exact not_mem_take here (Nat.le_of_not_lt behind) mem
  · intro before
    refine List.mem_of_getElem? (i := j) ?_
    rw [List.getElem?_take_of_lt before, here]

theorem asked_iff (sound : Pool.Sound v.concurrency (v.jobs fleet r) events s)
    (here : r.names[j]? = some name) :
    name ∈ (Pool.queriesMade (v.jobs fleet r) events).map Prod.fst ↔
      j < (Pool.begun events).length := by
  have names : (Pool.queriesMade (v.jobs fleet r) events).map Prod.fst =
      r.names.take (Pool.begun events).length := by
    rw [queries_of_names sound, List.map_map]
    exact List.map_id _
  rw [names, mem_take_iff here]

/-- An outcome is that of the check of its service, or nobody began that check. -/
theorem told_of_final (sound : Pool.Sound v.concurrency (v.jobs fleet r) events s)
    (ended : s.final) {o : Outcome} (there : (s.outcomes (v.jobs fleet r))[j]? = some o) :
    ∃ name, r.names[j]? = some name ∧ o.name = name ∧
      (j < (Pool.begun events).length ∧ o = (v.check fleet name).report name ∨
        (Pool.begun events).length ≤ j ∧ o = .aborted name) := by
  obtain ⟨inside, _⟩ := List.getElem?_eq_some_iff.mp there
  rw [Pool.length_outcomes sound, jobs_length] at inside
  have here := List.getElem?_eq_getElem inside
  refine ⟨r.names[j], here, ?_⟩
  by_cases before : j < (Pool.begun events).length
  · have told := Pool.outcome_of_begun sound ended (job_of_name here) before
    obtain rfl := Option.some.inj (there.symm.trans told)
    exact ⟨v.report_name fleet _, Or.inl ⟨before, rfl⟩⟩
  · have behind := Nat.le_of_not_lt before
    have told := Pool.outcome_of_unbegun sound ended (job_of_name here) behind
    obtain rfl := Option.some.inj (there.symm.trans told)
    exact ⟨rfl, Or.inr ⟨behind, rfl⟩⟩

theorem evident_of_final (sound : Pool.Sound v.concurrency (v.jobs fleet r) events s)
    (ended : s.final) {o : Outcome} (there : (s.outcomes (v.jobs fleet r))[j]? = some o) :
    ∃ name, r.names[j]? = some name ∧ o.name = name ∧
      o.Evident v.scan v.limit (fleet name)
        (name ∈ (Pool.queriesMade (v.jobs fleet r) events).map Prod.fst) := by
  obtain ⟨name, here, named, told⟩ := told_of_final sound ended there
  refine ⟨name, here, named, ?_⟩
  rw [asked_iff sound here]
  rcases told with ⟨before, rfl⟩ | ⟨behind, rfl⟩
  · have course := Check.run_course v.scan (some v.limit) name (fleet name)
    exact (eq_true before).symm ▸ course.evident
  · exact (eq_false (Nat.not_lt.mpr behind)).symm ▸ Outcome.evident_aborted _ _ _ _

end Verifier

theorem evidence_consistent (v : Verifier) (fleet : Fleet) (r : Registry) :
    (∀ events s, Pool.History v.concurrency (v.jobs fleet r) events s → s.final →
      ∀ (j : Nat) (o : Outcome), (s.outcomes (v.jobs fleet r))[j]? = some o →
        ∃ name, r.names[j]? = some name ∧ o.name = name ∧
          o.Evident v.scan v.limit (fleet name)
            (name ∈ (Pool.queriesMade (v.jobs fleet r) events).map Prod.fst)) ∧
    ∀ ping (j : Nat) (o : Outcome), (v.run ping fleet r).outcomes[j]? = some o →
      ∃ name, r.names[j]? = some name ∧ o.name = name ∧
        o.Evident v.scan v.limit (fleet name)
          (name ∈ (v.run ping fleet r).queries.map Prod.fst) := by
  constructor
  · intro events s h ended j o there
    exact Verifier.evident_of_final h.sound ended there
  · intro ping j o there
    rcases v.answered_or_closed ping with ⟨answered, inTime⟩ | ⟨ending, closed, ends⟩
    · obtain ⟨events, s, h, ended, outcomes, queries, _⟩ :=
        v.history_of_clock answered inTime fleet r
      rw [outcomes] at there
      rw [queries]
      exact Verifier.evident_of_final h.sound ended there
    · have refused : v.run ping fleet r = ending := ends v.concurrency fleet r
      rw [refused, Run.outcomes_of_closed closed] at there
      simp at there

end FleetHealth
