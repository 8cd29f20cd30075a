import FleetHealth.Proofs.Containment
import FleetHealth.Report

/- Without crashes a run finds what its services show when they are checked one at a time. How many
   workers there were, and in which order they came to their jobs, shows in the time alone. -/
namespace FleetHealth

namespace Run

/-- What is printed about a run, with so many lines of each log. -/
def report? (lines : Option Nat) (run : Run) : Option Text :=
  run.verdict?.map (Report.render lines run.outcomes)

/-- Why a run came to no verdict. -/
def refusal? : Run → Option Text
  | .unavailable reason _ => some reason
  | .crashed _ | .completed _ _ => none

/-- Nothing tells two runs apart but the time that they took. -/
structure SameFindings (a b : Run) : Prop where
  outcomes : a.outcomes = b.outcomes
  queries : a.queries = b.queries
  verdict : a.verdict? = b.verdict?
  report : ∀ lines, a.report? lines = b.report? lines
  refusal : a.refusal? = b.refusal?

theorem verdict?_completed (placed : List Pool.Placement) (elapsed : Nat) :
    (completed placed elapsed).verdict? = some (.ofOutcomes (completed placed elapsed).outcomes) :=
  rfl

theorem SameFindings.refl (run : Run) : run.SameFindings run := ⟨rfl, rfl, rfl, fun _ => rfl, rfl⟩

/-- Verdict and report are made of the outcomes. -/
theorem sameFindings_of_completed {placed others : List Pool.Placement} {t u : Nat}
    (outcomes : (completed placed t).outcomes = (completed others u).outcomes)
    (queries : (completed placed t).queries = (completed others u).queries) :
    (completed placed t).SameFindings (completed others u) where
  outcomes := outcomes
  queries := queries
  verdict := by rw [verdict?_completed, verdict?_completed, outcomes]
  report lines := by
    unfold report?
    rw [verdict?_completed, verdict?_completed, outcomes]
  refusal := rfl

end Run

namespace Verifier

def withWorkers (v : Verifier) (concurrency : Nat) : Verifier := { v with concurrency }

/-- No check of a registered service crashes before its time is up. -/
def Calm (v : Verifier) (fleet : Fleet) (r : Registry) : Prop :=
  ∀ name ∈ r.names, (v.check fleet name).crashed = false

/-- What was found out is what each service shows when it is checked on its own, in the order of
the registry. -/
structure OneByOne (v : Verifier) (fleet : Fleet) (r : Registry) (outcomes : List Outcome)
    (queries : List (ServiceName × List Stage)) : Prop where
  outcomes : outcomes.map some = r.names.map fun name => (v.check fleet name).outcome
  queries : queries = r.names.map fun name => (name, (v.check fleet name).queries)

section
variable {v : Verifier} {fleet : Fleet} {r : Registry}

theorem Calm.crashing_eq_nil (calm : v.Calm fleet r) : v.crashing fleet r = [] := by
  refine List.filter_eq_nil_iff.mpr fun name registered => ?_
  simp [calm name registered]

theorem Calm.few (calm : v.Calm fleet r) : (v.crashing fleet r).length < v.workers r := by
  rw [calm.crashing_eq_nil]
  exact v.workers_pos r

theorem OneByOne.outcome_at {outcomes : List Outcome} {queries : List (ServiceName × List Stage)}
    (alone : v.OneByOne fleet r outcomes queries) {i : Nat} {name : ServiceName}
    (here : r.names[i]? = some name) : outcomes[i]? = (v.check fleet name).outcome := by
  have entry := congrArg (fun l => l[i]?) alone.outcomes
  simp only [List.getElem?_map, here, Option.map_some] at entry
  cases there : outcomes[i]? with
  | none => simp [there] at entry
  | some o => simpa [there] using entry

theorem OneByOne.query_at {outcomes : List Outcome} {queries : List (ServiceName × List Stage)}
    (alone : v.OneByOne fleet r outcomes queries) {i : Nat} {name : ServiceName}
    (here : r.names[i]? = some name) :
    queries[i]? = some (name, (v.check fleet name).queries) := by
  rw [alone.queries, List.getElem?_map, here]
  rfl

theorem OneByOne.unique {outcomes others : List Outcome}
    {queries asked : List (ServiceName × List Stage)} (a : v.OneByOne fleet r outcomes queries)
    (b : v.OneByOne fleet r others asked) : outcomes = others ∧ queries = asked := by
  constructor
  · exact (List.map_inj_right fun _ _ => Option.some.inj).mp (a.outcomes.trans b.outcomes.symm)
  · exact a.queries.trans b.queries.symm

/-- What a service shows on its own has nothing to do with the workers. -/
theorem OneByOne.ofWorkers {outcomes : List Outcome} {queries : List (ServiceName × List Stage)}
    {concurrency : Nat} (alone : (v.withWorkers concurrency).OneByOne fleet r outcomes queries) :
    v.OneByOne fleet r outcomes queries :=
  ⟨alone.outcomes, alone.queries⟩

/-- In whichever order things happen, every check is begun and comes to its own outcome. -/
theorem oneByOne_of_final {events : List Pool.Event} {s : Pool.State} (calm : v.Calm fleet r)
    (sound : Pool.Sound v.concurrency (v.jobs fleet r) events s) (ended : s.final) :
    v.OneByOne fleet r (s.outcomes (v.jobs fleet r))
      (Pool.queriesMade (v.jobs fleet r) events) where
  outcomes := by
    refine List.ext_getElem? fun i => ?_
    rw [List.getElem?_map, List.getElem?_map]
    cases here : r.names[i]? with
    | none =>
      have outside : (s.outcomes (v.jobs fleet r))[i]? = none := by
        rw [List.getElem?_eq_none_iff, Pool.length_outcomes sound, jobs_length]
        exact List.getElem?_eq_none_iff.mp here
      simp [outside]
    | some name =>
      have spared : name ∉ v.crashing fleet r := by simp [calm.crashing_eq_nil]
      rw [outcome_of_few sound ended calm.few here, Option.map_some, Option.map_some,
        outcome_of_spared here spared]
  queries := by
    have all : (Pool.begun events).length = (v.jobs fleet r).length := by
      refine Pool.all_begun_of_final sound ended ?_
      rw [crashCount_jobs, workers_eq]
      exact calm.few
    rw [queries_of_names sound, all, jobs_length, List.take_length]

theorem oneByOne_of_run (calm : v.Calm fleet r) {ping : Step Unit}
    (answered : ping.answer = .value ()) (inTime : ping.delay ≤ v.limit) :
    v.OneByOne fleet r (v.run ping fleet r).outcomes (v.run ping fleet r).queries := by
  obtain ⟨events, s, h, ended, outcomes, queries, _⟩ :=
    history_of_clock v answered inTime fleet r
  rw [outcomes, queries]
  exact oneByOne_of_final calm h.sound ended

/-- Without an answer in time nobody comes to the fleet, let alone the workers. -/
theorem answered_or_closed (v : Verifier) (ping : Step Unit) :
    (ping.answer = .value () ∧ ping.delay ≤ v.limit) ∨
      ∃ ending : Run, ending.verdict? = none ∧ ∀ concurrency fleet r,
        (v.withWorkers concurrency).run ping fleet r = ending := by
  by_cases late : v.limit < ping.delay
  · exact Or.inr ⟨.unavailable (BackendError.timeout (.ofMillis v.limit)).message v.limit, rfl,
      fun concurrency fleet r => run_late (v.withWorkers concurrency) ping fleet r late⟩
  · have inTime : ping.delay ≤ v.limit := Nat.le_of_not_lt late
    cases answer : ping.answer with
    | value a => exact Or.inl ⟨rfl, inTime⟩
    | failure e =>
      exact Or.inr ⟨.unavailable e.message ping.delay, rfl, fun concurrency fleet r =>
        run_refused (v.withWorkers concurrency) ping fleet r answer inTime⟩
    | crash =>
      exact Or.inr ⟨.crashed ping.delay, rfl, fun concurrency fleet r =>
        run_crashed (v.withWorkers concurrency) ping fleet r answer inTime⟩

theorem verdict?_of_answered (v : Verifier) {ping : Step Unit} (answered : ping.answer = .value ())
    (inTime : ping.delay ≤ v.limit) (fleet : Fleet) (r : Registry) :
    (v.run ping fleet r).verdict? = some (.ofOutcomes (v.run ping fleet r).outcomes) := by
  rw [run_answered v ping fleet r answered inTime]
  exact Run.verdict?_completed _ _

theorem sameFindings_withWorkers (calm : v.Calm fleet r) (ping : Step Unit) (few many : Nat) :
    ((v.withWorkers few).run ping fleet r).SameFindings
      ((v.withWorkers many).run ping fleet r) := by
  rcases v.answered_or_closed ping with ⟨answered, inTime⟩ | ⟨ending, closed, ends⟩
  · have alone := fun concurrency =>
      (oneByOne_of_run (v := v.withWorkers concurrency) calm answered inTime).ofWorkers
    have same := (alone few).unique (alone many)
    rw [run_answered (v.withWorkers few) ping fleet r answered inTime,
      run_answered (v.withWorkers many) ping fleet r answered inTime] at same ⊢
    exact Run.sameFindings_of_completed same.1 same.2
  · rw [ends, ends]
    exact Run.SameFindings.refl ending

/-- A service with the same instance in two fleets is found the same in both. -/
theorem same_at_service {other : Fleet} (calm : v.Calm fleet r) (still : v.Calm other r)
    (few many : Nat) (ping : Step Unit) {i : Nat} {name : ServiceName}
    (here : r.names[i]? = some name) (same : other name = fleet name) :
    ((v.withWorkers few).run ping other r).outcomes[i]? =
      ((v.withWorkers many).run ping fleet r).outcomes[i]? ∧
    ((v.withWorkers few).run ping other r).queries[i]? =
      ((v.withWorkers many).run ping fleet r).queries[i]? := by
  have check : v.check other name = v.check fleet name := by
    unfold check
    rw [same]
  rcases v.answered_or_closed ping with ⟨answered, inTime⟩ | ⟨ending, closed, ends⟩
  · have left := (oneByOne_of_run (v := v.withWorkers few) still answered inTime).ofWorkers
    have right := (oneByOne_of_run (v := v.withWorkers many) calm answered inTime).ofWorkers
    constructor
    · rw [left.outcome_at here, right.outcome_at here, check]
    · rw [left.query_at here, right.query_at here, check]
  · rw [ends, ends]
    exact ⟨rfl, rfl⟩

end

end Verifier

theorem workers_show_in_time_only (v : Verifier) (fleet : Fleet) (r : Registry)
    (calm : v.Calm fleet r) :
    (∀ concurrency events s, Pool.History concurrency (v.jobs fleet r) events s → s.final →
      v.OneByOne fleet r (s.outcomes (v.jobs fleet r))
        (Pool.queriesMade (v.jobs fleet r) events)) ∧
    (∀ concurrency ping, ping.answer = .value () → ping.delay ≤ v.limit →
      v.OneByOne fleet r ((v.withWorkers concurrency).run ping fleet r).outcomes
        ((v.withWorkers concurrency).run ping fleet r).queries) ∧
    (∀ few many ping, ((v.withWorkers few).run ping fleet r).SameFindings
      ((v.withWorkers many).run ping fleet r)) ∧
    ∀ other, v.Calm other r → ∀ few many ping (i : Nat) (name : ServiceName),
      r.names[i]? = some name → other name = fleet name →
      ((v.withWorkers few).run ping other r).outcomes[i]? =
        ((v.withWorkers many).run ping fleet r).outcomes[i]? ∧
      ((v.withWorkers few).run ping other r).queries[i]? =
        ((v.withWorkers many).run ping fleet r).queries[i]? := by
  refine ⟨fun concurrency events s h ended => ?_, fun concurrency ping answered inTime => ?_,
    fun few many ping => Verifier.sameFindings_withWorkers calm ping few many,
    fun other still few many ping i name here same =>
      Verifier.same_at_service calm still few many ping here same⟩
  · have alone := Verifier.oneByOne_of_final (v := v.withWorkers concurrency) calm h.sound ended
    exact alone.ofWorkers
  · have alone := Verifier.oneByOne_of_run (v := v.withWorkers concurrency) calm answered inTime
    exact alone.ofWorkers

/-- An instance without fault that is found after some time. -/
def Instance.slow (delay : Nat) : Instance := ⟨⟨delay, .value true⟩, ⟨0, .value 0⟩, ⟨0, .value []⟩⟩

def Registry.pair : Registry := ⟨[['a'], ['b']], rfl⟩

/-- A second worker halves the time and changes nothing else. -/
theorem workers_show_in_time_only_pair :
    let v : Verifier := ⟨fun _ => [], 10, 1⟩
    let run := fun workers => (v.withWorkers workers).run ⟨0, .value ()⟩ (fun _ => .slow 3) .pair
    v.Calm (fun _ => .slow 3) .pair ∧ (run 1).SameFindings (run 2) ∧
      (run 1).elapsed = 6 ∧ (run 2).elapsed = 3 := by
  intro v run
  have calm : v.Calm (fun _ => .slow 3) .pair := fun _ _ => rfl
  have found := (workers_show_in_time_only v (fun _ => .slow 3) .pair calm).2.2.1
  exact ⟨calm, found 1 2 _, rfl, rfl⟩

end FleetHealth
