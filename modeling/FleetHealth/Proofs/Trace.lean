import FleetHealth.Proofs.Evidence

/- What the backend is asked. The queries for a service follow each other in one order, each only
   after an answer in time to the one before that goes on, and none is made twice. A service for
   which nobody asks is one that no worker lived to begin. -/
namespace FleetHealth

/-- The queries that were begun for a service, in their order. -/
def askedOf (queries : List (ServiceName × List Stage)) (name : ServiceName) : List Stage :=
  (queries.filter fun q => q.1 == name).flatMap Prod.snd

namespace Verifier

structure Disciplined (v : Verifier) (fleet : Fleet) (r : Registry)
    (queries : List (ServiceName × List Stage)) : Prop where
  registered : ∀ name, askedOf queries name ≠ [] → name ∈ r.names
  inOrder : ∀ name, askedOf queries name <+: [.resolve, .exitCode, .logs]
  noneTwice : ∀ name, (askedOf queries name).Nodup
  exitCode : ∀ name, .exitCode ∈ askedOf queries name ↔
    .resolve ∈ askedOf queries name ∧ (fleet name).resolve.answer = .value true ∧
      (fleet name).resolve.delay ≤ v.limit
  logs : ∀ name, .logs ∈ askedOf queries name ↔
    .exitCode ∈ askedOf queries name ∧ (∃ code, (fleet name).exitCode.answer = .value code) ∧
      (fleet name).resolve.delay + (fleet name).exitCode.delay ≤ v.limit

/-- What the outcomes of a run say of the queries made in it, if so many workers died. -/
structure Accounted (v : Verifier) (fleet : Fleet) (r : Registry)
    (queries : List (ServiceName × List Stage)) (outcomes : List Outcome) (dead : Nat) :
    Prop where
  forgotten : ∀ name ∈ r.names, askedOf queries name = [] →
    name ∉ queries.map Prod.fst ∧ dead = v.workers r
  told : ∀ o ∈ outcomes, o ≠ .aborted o.name →
    (.logs ∈ askedOf queries o.name ↔ ∃ code, o.exitCode = some code)
  spared : dead < v.workers r → ∀ (i : Nat) (name : ServiceName), r.names[i]? = some name →
    .resolve ∈ askedOf queries name ∧ outcomes[i]? = some ((v.check fleet name).report name)

variable {v : Verifier} {fleet : Fleet} {r : Registry} {events : List Pool.Event}
  {s : Pool.State} {name : ServiceName}

theorem askedOf_names {names : List ServiceName} (distinct : names.Nodup)
    (queries : ServiceName → List Stage) (name : ServiceName) :
    askedOf (names.map fun name => (name, queries name)) name =
      if name ∈ names then queries name else [] := by
  have own : names.filter (· == name) = List.replicate (names.count name) name :=
    List.filter_beq name
  unfold askedOf
  rw [List.filter_map, List.flatMap_map, Function.comp_def, own, distinct.count]
  split <;> simp

/-- The services that were taken are the first ones. -/
theorem askedOf_queriesMade (sound : Pool.Sound v.concurrency (v.jobs fleet r) events s)
    (name : ServiceName) :
    askedOf (Pool.queriesMade (v.jobs fleet r) events) name =
      if name ∈ r.names.take (Pool.begun events).length then (v.check fleet name).queries
      else [] := by
  rw [queries_of_names sound]
  exact askedOf_names (r.names_nodup.sublist (List.take_sublist _ _)) _ name

theorem check_course (v : Verifier) (fleet : Fleet) (name : ServiceName) :
    Check.Course v.scan (some v.limit) name (fleet name) (v.check fleet name) :=
  Check.run_course v.scan (some v.limit) name (fleet name)

/-- A service was asked for as its check does it, or not at all. -/
theorem asked_or_untaken (sound : Pool.Sound v.concurrency (v.jobs fleet r) events s)
    (name : ServiceName) :
    (name ∈ r.names ∧ askedOf (Pool.queriesMade (v.jobs fleet r) events) name =
      (v.check fleet name).queries) ∨
    askedOf (Pool.queriesMade (v.jobs fleet r) events) name = [] := by
  rw [askedOf_queriesMade sound]
  split
  · exact Or.inl ⟨List.mem_of_mem_take ‹_›, rfl⟩
  · exact Or.inr rfl

theorem disciplined_of_sound (sound : Pool.Sound v.concurrency (v.jobs fleet r) events s) :
    v.Disciplined fleet r (Pool.queriesMade (v.jobs fleet r) events) where
  registered name some_ := by
    rcases asked_or_untaken sound name with ⟨known, _⟩ | none_
    · exact known
    · exact absurd none_ some_
  inOrder name := by
    rcases asked_or_untaken sound name with ⟨_, asked⟩ | none_
    · exact asked ▸ (check_course v fleet name).queries_ordered
    · exact none_ ▸ List.nil_prefix
  noneTwice name := by
    rcases asked_or_untaken sound name with ⟨_, asked⟩ | none_
    · exact asked ▸ (check_course v fleet name).queries_ordered.sublist.nodup (by decide)
    · exact none_ ▸ List.nodup_nil
  exitCode name := by
    rcases asked_or_untaken sound name with ⟨_, asked⟩ | none_
    · have begun := (check_course v fleet name).mem_queries_iff
      rw [asked, begun, begun, Instance.reached_exitCode_iff, inTime_some_iff]
      simp [Instance.reached_resolve]
    · simp [none_]
  logs name := by
    rcases asked_or_untaken sound name with ⟨_, asked⟩ | none_
    · have begun := (check_course v fleet name).mem_queries_iff
      rw [asked, begun, begun, Instance.reached_logs_iff, Instance.reached_exitCode_iff,
        inTime_some_iff, inTime_some_iff]
      constructor
      · rintro ⟨there, exits, inTime⟩
        exact ⟨⟨there, by omega⟩, exits, inTime⟩
      · rintro ⟨⟨there, _⟩, exits, inTime⟩
        exact ⟨there, exits, inTime⟩
    · simp [none_]

theorem resolve_asked_iff (sound : Pool.Sound v.concurrency (v.jobs fleet r) events s) {j : Nat}
    (here : r.names[j]? = some name) :
    .resolve ∈ askedOf (Pool.queriesMade (v.jobs fleet r) events) name ↔
      j < (Pool.begun events).length := by
  have begun := (check_course v fleet name).mem_queries_iff .resolve
  rw [askedOf_queriesMade sound, ← mem_take_iff here]
  split
  · simp [*, Instance.reached_resolve]
  · simp [*]

/-- As long as a worker lives in the end, every service was asked for. -/
theorem all_begun_of_spared (sound : Pool.Sound v.concurrency (v.jobs fleet r) events s)
    (ended : s.final) (few : (Pool.casualties events).length < v.workers r) :
    (Pool.begun events).length = r.names.length := by
  rw [← v.jobs_length fleet r]
  refine Nat.le_antisymm sound.ordered.within (Nat.le_of_not_lt fun inside => ?_)
  have all := (Pool.unbegun_of_final sound ended inside (Nat.le_refl _)).2.2
  rw [← Pool.casualties_of_final sound ended, workers_eq] at all
  omega

theorem accounted_of_final (sound : Pool.Sound v.concurrency (v.jobs fleet r) events s)
    (ended : s.final) :
    v.Accounted fleet r (Pool.queriesMade (v.jobs fleet r) events)
      (s.outcomes (v.jobs fleet r)) (Pool.casualties events).length where
  forgotten name registered none_ := by
    obtain ⟨j, here⟩ := List.mem_iff_getElem?.mp registered
    have behind : ¬ j < (Pool.begun events).length := by
      rw [← resolve_asked_iff sound here, none_]
      simp
    refine ⟨mt (asked_iff sound here).mp behind, ?_⟩
    by_contra few
    have most := Pool.casualties_eq_min sound ended
    obtain ⟨inside, _⟩ := List.getElem?_eq_some_iff.mp here
    rw [workers_eq] at most
    rw [all_begun_of_spared sound ended (by omega)] at behind
    exact behind inside
  told o mem own := by
    obtain ⟨j, there⟩ := List.mem_iff_getElem?.mp mem
    obtain ⟨name, here, named, ⟨before, rfl⟩ | ⟨_, aborted⟩⟩ := told_of_final sound ended there
    · rw [named] at own ⊢
      rw [askedOf_queriesMade sound, if_pos ((mem_take_iff here _).mpr before)]
      exact (check_course v fleet name).logs_mem_queries_iff own
    · exact absurd (named ▸ aborted) own
  spared few i name here := by
    obtain ⟨inside, _⟩ := List.getElem?_eq_some_iff.mp here
    have before : i < (Pool.begun events).length := by
      rwa [all_begun_of_spared sound ended few]
    exact ⟨(resolve_asked_iff sound here).mpr before,
      Pool.outcome_of_begun sound ended (job_of_name here) before⟩

theorem queries_of_unanswered {ping : Step Unit}
    (unanswered : ping.answer ≠ .value () ∨ v.limit < ping.delay) :
    (v.run ping fleet r).queries = [] := by
  rcases v.answered_or_closed ping with ⟨answered, inTime⟩ | ⟨ending, closed, ends⟩
  · rcases unanswered with silent | late
    · exact absurd answered silent
    · omega
  · have refused : v.run ping fleet r = ending := ends v.concurrency fleet r
    rw [refused, Run.queries_of_closed closed]

end Verifier

theorem queries_disciplined (v : Verifier) (fleet : Fleet) (r : Registry) :
    (∀ events s, Pool.History v.concurrency (v.jobs fleet r) events s →
      let queries := Pool.queriesMade (v.jobs fleet r) events
      v.Disciplined fleet r queries ∧
      ((∃ w ∈ s.workers, w ≠ .dead) →
        ∀ j, s.answers[j]? = some .dropped → j ∈ Pool.casualties events) ∧
      (s.final → v.Accounted fleet r queries (s.outcomes (v.jobs fleet r))
        (Pool.casualties events).length)) ∧
    ∀ ping,
      let run := v.run ping fleet r
      (ping.answer = .value () → ping.delay ≤ v.limit →
        v.Disciplined fleet r run.queries ∧
          v.Accounted fleet r run.queries run.outcomes run.losses) ∧
      (ping.answer ≠ .value () ∨ v.limit < ping.delay → run.queries = []) := by
  constructor
  · intro events s h
    refine ⟨Verifier.disciplined_of_sound h.sound, ?_,
      fun ended => Verifier.accounted_of_final h.sound ended⟩
    rintro ⟨w, mem, lives⟩ j dropped
    rcases h.sound.truthful.drops j dropped with crashed | ⟨_, dead⟩
    · exact crashed
    · exact absurd (dead w mem) lives
  · intro ping run
    refine ⟨fun answered inTime => ?_, Verifier.queries_of_unanswered⟩
    obtain ⟨events, s, h, ended, outcomes, queries, losses⟩ :=
      v.history_of_clock answered inTime fleet r
    rw [outcomes, queries, losses]
    exact ⟨Verifier.disciplined_of_sound h.sound, Verifier.accounted_of_final h.sound ended⟩

end FleetHealth
