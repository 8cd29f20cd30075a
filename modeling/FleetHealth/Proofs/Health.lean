import FleetHealth.Check
import FleetHealth.Proofs.Signature.Silence

/- A check is passed exactly by a healthy instance: it is found, every query is answered, all in
   time, it ended well and its log is silent. Each query is passed by an answer in time alone. -/
namespace FleetHealth

structure Instance.Healthy (d : Detector) (limit : Nat) (i : Instance) : Prop where
  found : i.resolve.answer = .value true
  ended : i.exitCode.answer = .value 0
  silent : ∃ log, i.logs.answer = .value log ∧ d.Silent log
  inTime : i.resolve.delay + i.exitCode.delay + i.logs.delay ≤ limit

namespace Check

def Passed (c : Check) : Prop := ∃ o ∈ c.outcome, o.failed = false

theorem interrupted_failed (o : Outcome) (reason : Text) :
    (interrupted o reason).failed = true := by
  simp [interrupted, Outcome.failed]

theorem report_failed_iff (c : Check) (name : ServiceName) :
    (c.report name).failed = false ↔ c.Passed := by
  unfold report Passed
  cases ends : c.outcome with
  | none => simp [Outcome.aborted, Outcome.unprobed, Outcome.failed]
  | some o => simp

theorem passed_of_outcome {c : Check} {o : Outcome} (ends : c.outcome = some o) :
    c.Passed ↔ o.failed = false := by
  simp [Passed, ends]

theorem query_passed_iff {α : Type} (limit : Nat) (o : Outcome) (past : Nat) (before : List Stage)
    (stage : Stage) (step : Step α) (go : α → Check) :
    (query (some limit) o past before stage step go).Passed ↔
      past + step.delay ≤ limit ∧ ∃ a, step.answer = .value a ∧ (go a).Passed := by
  unfold query
  rw [overrun_some]
  by_cases late : limit < past + step.delay
  · rw [if_pos late]
    have failed := interrupted_failed o (BackendError.timeout (.ofMillis limit)).message
    have onTime : ¬ past + step.delay ≤ limit := by omega
    simp [passed_of_outcome, timedOut, failed, onTime]
  · rw [if_neg late]
    have onTime : past + step.delay ≤ limit := by omega
    cases answered : step.answer with
    | value a => simp [onTime]
    | failure e => simp [passed_of_outcome, failedAt, interrupted_failed]
    | crash => simp [Passed]

theorem readLog_failed_iff (d : Detector) (o : Outcome) (found : o.found = true) {code : Int}
    (exits : o.exitCode = some code) (log : Text) :
    (readLog d.scan o log).failed = false ↔ code = 0 ∧ d.Silent log := by
  rw [← scan_eq_nil_iff]
  simp [readLog, Outcome.failed, Outcome.abnormalExit, found, exits]

theorem run_passed_iff (d : Detector) (limit : Nat) (name : ServiceName) (i : Instance) :
    (run d.scan (some limit) name i).Passed ↔ i.Healthy d limit := by
  unfold run
  rw [query_passed_iff]
  constructor
  · rintro ⟨_, found, there, passed⟩
    cases found with
    | false => simp [passed_of_outcome, Outcome.unprobed, Outcome.failed] at passed
    | true =>
      simp only [Bool.not_true, Bool.false_eq_true, if_false, query_passed_iff] at passed
      obtain ⟨_, code, exits, inTime, log, logged, passed⟩ := passed
      rw [passed_of_outcome rfl, readLog_failed_iff d _ rfl rfl] at passed
      obtain ⟨zero, silent⟩ := passed
      exact ⟨there, zero ▸ exits, ⟨log, logged, silent⟩, inTime⟩
  · rintro ⟨there, exits, ⟨log, logged, silent⟩, inTime⟩
    refine ⟨by omega, true, there, ?_⟩
    simp only [Bool.not_true, Bool.false_eq_true, if_false, query_passed_iff]
    refine ⟨by omega, 0, exits, inTime, log, logged, ?_⟩
    rw [passed_of_outcome rfl, readLog_failed_iff d _ rfl rfl]
    exact ⟨rfl, silent⟩

end Check
end FleetHealth
