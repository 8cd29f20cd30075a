import FleetHealth.Proofs.Check.Course
import FleetHealth.Proofs.Reordering

/- What a limit does. A check that is over in time does not notice it; any other ends at the limit,
   with the evidence that it has by then. So a longer limit spoils nothing: services that are healthy
   stay so, and no other ones fail. -/
namespace FleetHealth

namespace Check

/-- A check that the limit cut off. -/
structure CutOff (limit : Nat) (name : ServiceName) (i : Instance) (c : Check) : Prop where
  duration : c.duration = limit
  outcome : ∃ o, c.outcome = some o ∧ o.name = name ∧ o.found = false ∧
    o.probeError = some (BackendError.timeout (.ofMillis limit)).message ∧
    o.logText = [] ∧ o.matched = [] ∧
    ∀ code, o.exitCode = some code ↔ i.resolve.answer = .value true ∧
      i.exitCode.answer = .value code ∧ i.resolve.delay + i.exitCode.delay ≤ limit
  queries : ∀ s, s ∈ c.queries ↔ i.Reached (some limit) s
  inOrder : c.queries <+: [.resolve, .exitCode, .logs]

section
variable {scan : Text → List LineMatch} {limit : Nat} {name : ServiceName} {i : Instance}

theorem run_of_soon (soon : (run scan none name i).duration ≤ limit) :
    run scan (some limit) name i = run scan none name i :=
  ((run_course scan none name i).limited soon).run_eq

theorem cutOff_of_late (late : limit < (run scan none name i).duration) :
    CutOff limit name i (run scan (some limit) name i) := by
  have course := run_course scan (some limit) name i
  have begun := course.mem_queries_iff
  rcases course.unlimited with ⟨s, _, _, cut⟩ | free
  · obtain ⟨named, log, matched, _⟩ := i.known_blank name s
    rw [cut] at begun ⊢
    exact ⟨rfl,
      ⟨_, rfl, named, rfl, rfl, log, matched, fun _ => Instance.exitCode_known_iff begun⟩,
      begun, s.upTo_prefix⟩
  · rw [free.run_eq] at late
    exact absurd course.duration_le (Nat.not_le_of_lt late)

/-- Only a check that is over in time is passed. -/
theorem soon_of_passed (passed : (run scan (some limit) name i).Passed) :
    (run scan none name i).duration ≤ limit := by
  by_contra late
  obtain ⟨o, ends, sound⟩ := passed
  obtain ⟨cut, endsToo, _, lost, _⟩ := (cutOff_of_late (Nat.lt_of_not_le late)).outcome
  obtain rfl := Option.some.inj (endsToo.symm.trans ends)
  simp [Outcome.failed, lost] at sound

/-- A longer limit does not show in a check that was passed. -/
theorem run_of_passed {patience : Nat} (longer : limit ≤ patience)
    (passed : (run scan (some limit) name i).Passed) :
    run scan (some patience) name i = run scan (some limit) name i := by
  have soon := soon_of_passed passed
  rw [run_of_soon soon, run_of_soon (Nat.le_trans soon longer)]

theorem crash_of_crashed {limit : Option Nat} {c : Check} (course : Course scan limit name i c)
    (lost : c.crashed = true) : ∃ s, i.turn s = .crashed := by
  cases course with
  | crashed _ _ crashes => exact ⟨_, crashes⟩
  | cut | failed | absent | complete => simp [crashed] at lost

end

end Check

/-- No query to the instance would crash, whether or not there is time to make it. -/
def Instance.Steady (i : Instance) : Prop := ∀ s, i.turn s ≠ .crashed

/-- What was healthy is found the same later on, and nothing fails that had not failed. -/
structure NoWorse (outcomes later : List Outcome) : Prop where
  healthy : ∀ (j : Nat) (o : Outcome), outcomes[j]? = some o → o.failed = false →
    later[j]? = some o
  failed : (Verdict.ofOutcomes later).failedServices.Sublist
    (Verdict.ofOutcomes outcomes).failedServices

namespace Verifier
variable {scan : Text → List LineMatch} {limit patience few many : Nat} {fleet : Fleet}
  {r : Registry}

theorem calm_of_steady (v : Verifier) (steady : ∀ name ∈ r.names, (fleet name).Steady) :
    v.Calm fleet r := by
  intro name registered
  by_contra lost
  have course := Check.run_course v.scan (some v.limit) name (fleet name)
  obtain ⟨s, crashes⟩ := Check.crash_of_crashed course (by simpa [check] using lost)
  exact steady name registered s crashes

theorem check_of_passed (longer : limit ≤ patience) {name : ServiceName}
    (passed : (check ⟨scan, limit, few⟩ fleet name).Passed) :
    check ⟨scan, patience, many⟩ fleet name = check ⟨scan, limit, few⟩ fleet name :=
  Check.run_of_passed longer passed

/-- Who fails although there is more time has failed with less of it. -/
theorem failed_of_failed (longer : limit ≤ patience) {name : ServiceName}
    (failed : ((check ⟨scan, patience, many⟩ fleet name).report name).failed = true) :
    ((check ⟨scan, limit, few⟩ fleet name).report name).failed = true := by
  by_contra sound
  rw [Bool.not_eq_true, Check.report_failed_iff] at sound
  have stays := (Check.report_failed_iff _ name).mpr sound
  rw [check_of_passed longer sound, stays] at failed
  simp at failed

theorem OneByOne.name_at {v : Verifier} {outcomes : List Outcome}
    {queries : List (ServiceName × List Stage)} (alone : v.OneByOne fleet r outcomes queries)
    {j : Nat} {o : Outcome} (here : outcomes[j]? = some o) :
    ∃ name, r.names[j]? = some name ∧ (v.check fleet name).outcome = some o := by
  have entry := congrArg (fun l => l[j]?) alone.outcomes
  simp only [List.getElem?_map, here, Option.map_some] at entry
  obtain ⟨name, there, ends⟩ := Option.map_eq_some_iff.mp entry.symm
  exact ⟨name, there, ends⟩

theorem noWorse_of_longer (longer : limit ≤ patience)
    (steady : ∀ name ∈ r.names, (fleet name).Steady) {outcomes later : List Outcome}
    {queries asked : List (ServiceName × List Stage)}
    (alone : OneByOne ⟨scan, limit, few⟩ fleet r outcomes queries)
    (again : OneByOne ⟨scan, patience, many⟩ fleet r later asked) : NoWorse outcomes later where
  healthy j o there sound := by
    obtain ⟨name, registered, ends⟩ := alone.name_at there
    rw [again.outcome_at registered, check_of_passed longer ⟨o, ends, sound⟩, ends]
  failed := by
    rw [alone.outcomes_eq (calm_of_steady _ steady), again.outcomes_eq (calm_of_steady _ steady),
      failedServices_of_reports, failedServices_of_reports]
    exact List.monotone_filter_right _ fun name failed => failed_of_failed longer failed

end Verifier

theorem limit_cuts_off (scan : Text → List LineMatch) :
    (∀ limit name i,
      let free := Check.run scan none name i
      let check := Check.run scan (some limit) name i
      (free.duration ≤ limit → check = free) ∧
        (limit < free.duration → Check.CutOff limit name i check)) ∧
    ∀ limit patience few many fleet (r : Registry), limit ≤ patience →
      (∀ name ∈ r.names, (fleet name).Steady) →
      let v : Verifier := ⟨scan, limit, few⟩
      let w : Verifier := ⟨scan, patience, many⟩
      (∀ ping a, (v.run ping fleet r).verdict? = some a →
        ∃ b, (w.run ping fleet r).verdict? = some b ∧
          b.failedServices.Sublist a.failedServices ∧
          NoWorse (v.run ping fleet r).outcomes (w.run ping fleet r).outcomes) ∧
      ∀ events s others t,
        Pool.History few (v.jobs fleet r) events s → s.final →
        Pool.History many (w.jobs fleet r) others t → t.final →
        NoWorse (s.outcomes (v.jobs fleet r)) (t.outcomes (w.jobs fleet r)) := by
  refine ⟨fun limit name i => ⟨Check.run_of_soon, Check.cutOff_of_late⟩, ?_⟩
  intro limit patience few many fleet r longer steady v w
  have calm : v.Calm fleet r := v.calm_of_steady steady
  have quiet : w.Calm fleet r := w.calm_of_steady steady
  constructor
  · intro ping a here
    rcases v.answered_or_closed ping with ⟨answered, inTime⟩ | ⟨ending, closed, ends⟩
    · have alone := Verifier.oneByOne_of_run calm answered inTime
      have again := Verifier.oneByOne_of_run quiet answered (Nat.le_trans inTime longer)
      have better := Verifier.noWorse_of_longer longer steady alone again
      have failed := better.failed
      rw [← Run.verdict?_eq_some here] at failed
      exact ⟨_, w.verdict?_of_answered answered (Nat.le_trans inTime longer) fleet r, failed, better⟩
    · have refused : v.run ping fleet r = ending := ends few fleet r
      rw [refused, closed] at here
      simp at here
  · intro events s others t happened ended happens ends
    exact Verifier.noWorse_of_longer longer steady
      (Verifier.oneByOne_of_final calm happened.sound ended)
      (Verifier.oneByOne_of_final quiet happens.sound ends)

/-- An answer at the limit is in time, and with less time there is none. -/
theorem limit_cuts_off_slow :
    let check := fun limit => Check.run (fun _ => []) limit ['a'] (.slow 3)
    (check none).duration = 3 ∧ check (some 3) = check none ∧
      Check.CutOff 2 ['a'] (.slow 3) (check (some 2)) := by
  intro check
  have limited := (limit_cuts_off fun _ => []).1
  exact ⟨rfl, (limited 3 ['a'] (.slow 3)).1 (Nat.le_refl 3),
    (limited 2 ['a'] (.slow 3)).2 (Nat.lt_succ_self 2)⟩

end FleetHealth
