import FleetHealth.Proofs.Runs
import FleetHealth.Proofs.Pool.Agreement

/- What a check that crashes does to the run. It takes a worker, and the others go on; only when
   there are enough crashes for all the workers are services left out, and then the last ones. -/
namespace FleetHealth

theorem Check.report_aborted_iff {c : Check} {name : ServiceName}
    (own : ∀ o ∈ c.outcome, Check.Own name o) :
    c.report name = .aborted name ↔ c.crashed = true := by
  cases ends : c.outcome with
  | none => simp [report, crashed, ends]
  | some o => simpa [report, crashed, ends] using (own o ends).2

namespace Verifier

/-- The registered services whose checks crash. -/
def crashing (v : Verifier) (fleet : Fleet) (r : Registry) : List ServiceName :=
  r.names.filter fun name => (v.check fleet name).crashed

/-- With fewer crashes than workers the other services do not notice. Otherwise every worker dies
of one, and the services behind those that were begun are never asked for. -/
structure Contained (v : Verifier) (fleet : Fleet) (r : Registry) (events : List Pool.Event)
    (s : Pool.State) : Prop where
  few : (v.crashing fleet r).length < v.workers r →
    ∀ (i : Nat) (name : ServiceName), r.names[i]? = some name →
      ((s.outcomes (v.jobs fleet r))[i]? = some (.aborted name) ↔
        name ∈ v.crashing fleet r) ∧
      (name ∉ v.crashing fleet r →
        (s.outcomes (v.jobs fleet r))[i]? = (v.check fleet name).outcome ∧
        ∀ calm, v.crashing calm r = [] → calm name = fleet name →
          ∀ others t, Pool.History v.concurrency (v.jobs calm r) others t → t.final →
            (s.outcomes (v.jobs fleet r))[i]? = (t.outcomes (v.jobs calm r))[i]?)
  many : v.workers r ≤ (v.crashing fleet r).length →
    (Pool.casualties events).length = v.workers r ∧
    (∀ w ∈ s.workers, w = .dead) ∧
    ∃ k ≤ r.names.length, Pool.begun events = List.range k ∧
      ((r.names.take k).filter fun name => (v.check fleet name).crashed).length = v.workers r ∧
      Pool.queriesMade (v.jobs fleet r) events =
        (r.names.take k).map (fun name => (name, (v.check fleet name).queries)) ∧
      ∀ (i : Nat) (name : ServiceName), r.names[i]? = some name →
        (k ≤ i → (s.outcomes (v.jobs fleet r))[i]? = some (.aborted name) ∧
          name ∉ (Pool.queriesMade (v.jobs fleet r) events).map Prod.fst) ∧
        (i < k → name ∉ v.crashing fleet r →
          (s.outcomes (v.jobs fleet r))[i]? = (v.check fleet name).outcome)

section
variable {v : Verifier} {fleet : Fleet} {r : Registry} {events : List Pool.Event}
  {s : Pool.State} {i : Nat} {name : ServiceName}

theorem job_of_name (here : r.names[i]? = some name) :
    (v.jobs fleet r)[i]? = some (v.job fleet name) := by
  simp [jobs, here]

theorem crashCount_names (v : Verifier) (fleet : Fleet) (names : List ServiceName) :
    Pool.crashCount (names.map (v.job fleet)) =
      (names.filter fun name => (v.check fleet name).crashed).length := by
  rw [Pool.crashCount, List.countP_map, List.countP_eq_length_filter]
  rfl

theorem crashCount_jobs (v : Verifier) (fleet : Fleet) (r : Registry) :
    Pool.crashCount (v.jobs fleet r) = (v.crashing fleet r).length :=
  crashCount_names v fleet r.names

theorem mem_crashing (here : r.names[i]? = some name) :
    name ∈ v.crashing fleet r ↔ (v.check fleet name).crashed = true := by
  simp [crashing, List.mem_of_getElem? here]

theorem outcome_of_spared (here : r.names[i]? = some name)
    (spared : name ∉ v.crashing fleet r) :
    (v.check fleet name).outcome = some ((v.check fleet name).report name) := by
  rw [mem_crashing here] at spared
  unfold Check.report
  cases ends : (v.check fleet name).outcome with
  | none => simp [Check.crashed, ends] at spared
  | some o => rfl

theorem outcome_of_few (sound : Pool.Sound v.concurrency (v.jobs fleet r) events s)
    (ended : s.final) (few : (v.crashing fleet r).length < v.workers r)
    (here : r.names[i]? = some name) :
    (s.outcomes (v.jobs fleet r))[i]? = some ((v.check fleet name).report name) := by
  rw [← crashCount_jobs, ← v.workers_eq fleet r] at few
  obtain ⟨inside, _⟩ := List.getElem?_eq_some_iff.mp here
  refine Pool.outcome_of_begun sound ended (job_of_name here) ?_
  rwa [Pool.all_begun_of_final sound ended few, jobs_length]

/-- A fleet without crashes that has the same instance of a service has the same outcome of it. -/
theorem outcome_of_calm {calm : Fleet} (quiet : v.crashing calm r = [])
    (same : calm name = fleet name) (sound : Pool.Sound v.concurrency (v.jobs calm r) events s)
    (ended : s.final) (here : r.names[i]? = some name) :
    (s.outcomes (v.jobs calm r))[i]? = some ((v.check fleet name).report name) := by
  have few : (v.crashing calm r).length < v.workers r := by
    rw [quiet]
    exact v.workers_pos r
  have check : v.check calm name = v.check fleet name := by
    unfold check
    rw [same]
  rw [outcome_of_few sound ended few here, check]

/-- What comes behind the first `k` names is not among them. -/
theorem not_mem_take (here : r.names[i]? = some name) {k : Nat} (behind : k ≤ i) :
    name ∉ r.names.take k := by
  have later : name ∈ r.names.drop i := by
    refine List.mem_iff_getElem?.mpr ⟨0, ?_⟩
    rw [List.getElem?_drop, Nat.add_zero, here]
  exact fun mem => List.disjoint_take_drop r.names_nodup behind mem later

theorem queries_of_names (sound : Pool.Sound v.concurrency (v.jobs fleet r) events s) :
    Pool.queriesMade (v.jobs fleet r) events =
      (r.names.take (Pool.begun events).length).map
        fun name => (name, (v.check fleet name).queries) := by
  rw [Pool.queriesMade_eq sound, jobs, ← List.map_take, List.map_map]
  rfl

theorem contained_of_final (sound : Pool.Sound v.concurrency (v.jobs fleet r) events s)
    (ended : s.final) : v.Contained fleet r events s where
  few few i name here := by
    have crashed : (v.check fleet name).report name = .aborted name ↔
        (v.check fleet name).crashed = true := Check.report_aborted_iff (v.job fleet name).own
    rw [outcome_of_few sound ended few here]
    refine ⟨?_, fun spared => ⟨?_, fun calm quiet same others t h final => ?_⟩⟩
    · rw [Option.some.injEq, crashed, mem_crashing here]
    · exact (outcome_of_spared here spared).symm
    · exact (outcome_of_calm quiet same h.sound final here).symm
  many many := by
    have deaths : (Pool.casualties events).length = v.workers r := by
      rw [Pool.casualties_eq_min sound ended, workers_eq, crashCount_jobs]
      omega
    have within := v.jobs_length fleet r ▸ sound.ordered.within
    refine ⟨deaths, ?_, (Pool.begun events).length, within, sound.first, ?_,
      queries_of_names sound,
      fun i name here => ⟨fun behind => ⟨?_, ?_⟩, fun before spared => ?_⟩⟩
    · intro w mem
      have all : s.workers.countP (· == .dead) = s.workers.length := by
        rw [sound.tallied.deaths, sound.tallied.width, workers_eq, deaths]
      simpa using List.countP_eq_length.mp all w mem
    · rw [← deaths, Pool.casualties_of_final sound ended, jobs, ← List.map_take, crashCount_names]
    · exact Pool.outcome_of_unbegun sound ended (job_of_name here) behind
    · rw [queries_of_names sound, List.map_map]
      simpa [Function.comp_def] using not_mem_take here behind
    · rw [outcome_of_spared here spared]
      exact Pool.outcome_of_begun sound ended (job_of_name here) before

/-- What happens on the clock happens in a history as well. -/
theorem history_of_clock (v : Verifier) {ping : Step Unit} (answered : ping.answer = .value ())
    (inTime : ping.delay ≤ v.limit) (fleet : Fleet) (r : Registry) :
    ∃ events s, Pool.History v.concurrency (v.jobs fleet r) events s ∧ s.final ∧
      (v.run ping fleet r).outcomes = s.outcomes (v.jobs fleet r) ∧
      (v.run ping fleet r).queries = Pool.queriesMade (v.jobs fleet r) events ∧
      (v.run ping fleet r).losses = (Pool.casualties events).length := by
  obtain ⟨events, s, h, ended⟩ :=
    Pool.History.ends (Pool.History.start : Pool.History v.concurrency (v.jobs fleet r) [] _)
  refine ⟨events, s, h, ended, ?_⟩
  rw [run_answered v ping fleet r answered inTime, Pool.outcomes_agree h.sound ended,
    Pool.queries_agree h.sound ended, Pool.losses_agree h.sound ended]
  exact ⟨rfl, rfl, rfl⟩

end

end Verifier

theorem crashes_contained (v : Verifier) (fleet : Fleet) (r : Registry) :
    (∀ events s, Pool.History v.concurrency (v.jobs fleet r) events s → s.final →
      v.Contained fleet r events s) ∧
    ∀ ping, ping.answer = .value () → ping.delay ≤ v.limit →
      ∃ events s, Pool.History v.concurrency (v.jobs fleet r) events s ∧ s.final ∧
        (v.run ping fleet r).outcomes = s.outcomes (v.jobs fleet r) ∧
        (v.run ping fleet r).queries = Pool.queriesMade (v.jobs fleet r) events ∧
        (v.run ping fleet r).losses = (Pool.casualties events).length :=
  ⟨fun _ _ h ended => Verifier.contained_of_final h.sound ended,
    fun _ answered inTime => v.history_of_clock answered inTime fleet r⟩

end FleetHealth
