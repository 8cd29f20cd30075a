import FleetHealth.Proofs.Health
import FleetHealth.Proofs.Runs

/- The verdict on a fleet: nothing failed exactly when every registered service is healthy. A
   service that is healthy can only fail when nobody was left to check it. -/
namespace FleetHealth

namespace Verdict

theorem exitCode_eq_zero_iff (v : Verdict) : v.exitCode = 0 ↔ v.anyFailed = false := by
  unfold exitCode
  cases v.anyFailed <;> simp

theorem exitCode_of_failed {v : Verdict} (failed : v.anyFailed = true) : v.exitCode = 1 := by
  simp [exitCode, failed]

theorem anyFailed_ofOutcomes (outcomes : List Outcome) :
    (ofOutcomes outcomes).anyFailed = false ↔ ∀ o ∈ outcomes, o.failed = false := by
  simp [ofOutcomes]

theorem mem_failedServices {outcomes : List Outcome} {name : ServiceName} :
    name ∈ (ofOutcomes outcomes).failedServices ↔
      ∃ o ∈ outcomes, o.failed = true ∧ o.name = name := by
  simp [ofOutcomes, and_assoc]

end Verdict

theorem Pool.Placement.outcome_failed_iff (p : Pool.Placement) :
    p.outcome.failed = false ↔ p.start.isSome = true ∧ p.job.check.Passed := by
  unfold Pool.Placement.outcome
  cases p.start with
  | none => simp [Outcome.aborted, Outcome.unprobed, Outcome.failed]
  | some t => simp [Check.report_failed_iff]

theorem Check.Passed.not_crashed {c : Check} (passed : c.Passed) : c.crashed = false := by
  obtain ⟨o, ends, _⟩ := passed
  simp [Check.crashed, Option.mem_def.mp ends]

section
variable {d : Detector} {limit concurrency : Nat} {fleet : Fleet} {r : Registry}

theorem placed_failed_iff {p : Pool.Placement}
    (mem : p ∈ Verifier.placed ⟨d.scan, limit, concurrency⟩ fleet r) :
    p.outcome.failed = false ↔
      p.start.isSome = true ∧ (fleet p.job.name).Healthy d limit := by
  obtain ⟨_, same⟩ := Verifier.job_of_placed mem
  rw [Pool.Placement.outcome_failed_iff, ← Check.run_passed_iff d limit p.job.name]
  have check : p.job.check = Check.run d.scan (some limit) p.job.name (fleet p.job.name) :=
    congrArg Pool.Job.check same
  rw [check]

/-- Healthy services crash no worker, so none of them is left out. -/
theorem started_of_all_healthy (healthy : ∀ name ∈ r.names, (fleet name).Healthy d limit)
    {p : Pool.Placement} (mem : p ∈ Verifier.placed ⟨d.scan, limit, concurrency⟩ fleet r) :
    p.start.isSome = true := by
  by_contra never
  have losses := Verifier.losses_of_unstarted mem (by simpa using never)
  have workers := Verifier.workers_pos ⟨d.scan, limit, concurrency⟩ r
  rw [← losses, List.countP_pos_iff] at workers
  obtain ⟨q, memQ, lost⟩ := workers
  obtain ⟨registered, same⟩ := Verifier.job_of_placed memQ
  have passed : q.job.check.Passed := by
    rw [same]
    exact (Check.run_passed_iff d limit _ _).mpr (healthy _ registered)
  simp [Pool.Placement.lost, passed.not_crashed] at lost

theorem outcomes_healthy_iff :
    (∀ o ∈ (Verifier.placed ⟨d.scan, limit, concurrency⟩ fleet r).map Pool.Placement.outcome,
      o.failed = false) ↔ ∀ name ∈ r.names, (fleet name).Healthy d limit := by
  constructor
  · intro clean name registered
    obtain ⟨p, mem, same⟩ :=
      Verifier.placed_of_name ⟨d.scan, limit, concurrency⟩ fleet r registered
    have healthy := ((placed_failed_iff mem).mp (clean _ (List.mem_map_of_mem mem))).2
    rwa [same] at healthy
  · intro healthy o mem
    obtain ⟨p, memP, rfl⟩ := List.mem_map.mp mem
    have registered := (Verifier.job_of_placed memP).1
    exact (placed_failed_iff memP).mpr
      ⟨started_of_all_healthy healthy memP, healthy _ registered⟩

/-- A service fails by a fault of its own, or because no worker lived to check it. -/
theorem failed_of_unhealthy {name : ServiceName} (registered : name ∈ r.names)
    (unhealthy : ¬ (fleet name).Healthy d limit) :
    ∃ p ∈ Verifier.placed ⟨d.scan, limit, concurrency⟩ fleet r,
      p.outcome.failed = true ∧ p.outcome.name = name := by
  obtain ⟨p, mem, same⟩ :=
    Verifier.placed_of_name ⟨d.scan, limit, concurrency⟩ fleet r registered
  have named : p.job.name = name := congrArg Pool.Job.name same
  refine ⟨p, mem, ?_, by rw [p.outcome_name, named]⟩
  cases failed : p.outcome.failed with
  | true => rfl
  | false => exact absurd (named ▸ ((placed_failed_iff mem).mp failed).2) unhealthy

theorem unstarted_of_healthy_failed {p : Pool.Placement}
    (mem : p ∈ Verifier.placed ⟨d.scan, limit, concurrency⟩ fleet r)
    (failed : p.outcome.failed = true) (healthy : (fleet p.job.name).Healthy d limit) :
    p.start = none := by
  cases begun : p.start with
  | none => rfl
  | some t =>
    have passed := (placed_failed_iff mem).mpr ⟨by simp [begun], healthy⟩
    simp [failed] at passed

end

theorem verdict_exact (d : Detector) (limit concurrency : Nat) (ping : Step Unit) (fleet : Fleet)
    (r : Registry) :
    let v : Verifier := ⟨d.scan, limit, concurrency⟩
    let run := v.run ping fleet r
    (ping.answer = .value () → ping.delay ≤ limit →
      ∃ verdict, run.verdict? = some verdict ∧
        (verdict.exitCode = 0 ↔ ∀ name ∈ r.names, (fleet name).Healthy d limit) ∧
        (verdict.anyFailed = false ↔ ∀ name ∈ r.names, (fleet name).Healthy d limit) ∧
        (verdict.exitCode = 0 ∨ verdict.exitCode = 1) ∧
        (∀ name ∈ r.names, ¬ (fleet name).Healthy d limit → name ∈ verdict.failedServices) ∧
        ∀ name ∈ verdict.failedServices, (fleet name).Healthy d limit →
          name ∉ run.queries.map Prod.fst ∧ run.losses = v.workers r) ∧
    (∀ e, ping.answer = .failure e → ping.delay ≤ limit →
      run = .unavailable e.message ping.delay ∧ run.verdict? = none) ∧
    (limit < ping.delay →
      run = .unavailable (BackendError.timeout (.ofMillis limit)).message limit ∧
        run.verdict? = none) := by
  intro v run
  refine ⟨fun answered inTime => ?_, fun e refused inTime => ?_, fun late => ?_⟩
  · have completed : run = .completed (v.placed fleet r) _ :=
      v.run_answered ping fleet r answered inTime
    have clean : (Verdict.ofOutcomes ((v.placed fleet r).map Pool.Placement.outcome)).anyFailed =
        false ↔ ∀ name ∈ r.names, (fleet name).Healthy d limit :=
      (Verdict.anyFailed_ofOutcomes _).trans outcomes_healthy_iff
    refine ⟨_, by rw [completed]; rfl, ?_, clean, ?_, ?_, ?_⟩
    · rw [Verdict.exitCode_eq_zero_iff, clean]
    · rw [Verdict.exitCode_eq_zero_iff]
      cases failed : (Verdict.ofOutcomes _).anyFailed with
      | false => exact Or.inl rfl
      | true => exact Or.inr (Verdict.exitCode_of_failed failed)
    · intro name registered unhealthy
      obtain ⟨p, mem, failed, named⟩ := failed_of_unhealthy registered unhealthy
      exact Verdict.mem_failedServices.mpr ⟨_, List.mem_map_of_mem mem, failed, named⟩
    · intro name listed healthy
      obtain ⟨o, memO, failed, named⟩ := Verdict.mem_failedServices.mp listed
      obtain ⟨p, mem, rfl⟩ := List.mem_map.mp memO
      rw [p.outcome_name] at named
      subst name
      have never := unstarted_of_healthy_failed mem failed healthy
      rw [completed]
      exact ⟨Verifier.unstarted_of_not_asked mem never _, Verifier.losses_of_unstarted mem never⟩
  · have unavailable : run = .unavailable _ _ := v.run_refused ping fleet r refused inTime
    exact ⟨unavailable, by rw [unavailable]; rfl⟩
  · have unavailable : run = .unavailable _ _ := v.run_late ping fleet r late
    exact ⟨unavailable, by rw [unavailable]; rfl⟩

end FleetHealth
