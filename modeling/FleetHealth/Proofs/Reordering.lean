import FleetHealth.Proofs.Gate
import FleetHealth.Proofs.Independence

/- What the order of the registry is good for. The verdict does not depend on it: crashes may leave
   other services unchecked in another order, but then a check that crashed has failed in both. As
   long as nothing crashes the order of the services is the order of their outcomes, and that of
   their passages in the report. -/
namespace FleetHealth

namespace Report

/-- What is printed about a service, the blank line behind it included. -/
def passage (limit : Option Nat) (o : Outcome) : Text :=
  (block limit o ++ [[]]).flatMap (· ++ [newline])

def closing (v : Verdict) : Text := summary v ++ [newline]

theorem render_eq (limit : Option Nat) (outcomes : List Outcome) (v : Verdict) :
    render limit outcomes v = outcomes.flatMap (passage limit) ++ closing v := by
  unfold render lines passage closing
  rw [List.flatMap_append, List.flatMap_assoc, List.flatMap_singleton]

end Report

namespace Run

variable {run : Run} {a : Verdict}

theorem verdict?_eq_some (here : run.verdict? = some a) : a = .ofOutcomes run.outcomes := by
  cases run with
  | unavailable reason elapsed => simp [verdict?] at here
  | crashed elapsed => simp [verdict?] at here
  | completed placed elapsed => exact (Option.some.inj here).symm

theorem report?_eq (here : run.verdict? = some a) (lines : Option Nat) :
    run.report? lines =
      some (run.outcomes.flatMap (Report.passage lines) ++ Report.closing a) := by
  unfold report?
  rw [here, Option.map_some, Report.render_eq]

end Run

namespace Verifier

variable {v : Verifier} {fleet : Fleet} {r q : Registry} {outcomes others : List Outcome}
  {queries asked : List (ServiceName × List Stage)}

theorem report_name (v : Verifier) (fleet : Fleet) (name : ServiceName) :
    ((v.check fleet name).report name).name = name := by
  have own := Check.run_own v.scan (some v.limit) name (fleet name)
  unfold Check.report
  cases ends : (v.check fleet name).outcome with
  | none => rfl
  | some o => exact (own o ends).1

theorem Calm.reordered (calm : v.Calm fleet r) (same : q.names.Perm r.names) :
    v.Calm fleet q :=
  fun name registered => calm name (same.mem_iff.mp registered)

theorem OneByOne.outcomes_eq (alone : v.OneByOne fleet r outcomes queries)
    (calm : v.Calm fleet r) :
    outcomes = r.names.map fun name => (v.check fleet name).report name := by
  refine (List.map_inj_right fun _ _ => Option.some.inj).mp (alone.outcomes.trans ?_)
  rw [List.map_map]
  refine List.map_congr_left fun name registered => ?_
  obtain ⟨i, here⟩ := List.mem_iff_getElem?.mp registered
  exact outcome_of_spared here (by simp [calm.crashing_eq_nil])

/-- Places that hold the same service hold the same outcome. -/
theorem OneByOne.outcome_moved (alone : v.OneByOne fleet r outcomes queries)
    (moved : v.OneByOne fleet q others asked) {i j : Nat} (same : q.names[j]? = r.names[i]?) :
    others[j]? = outcomes[i]? := by
  have here := congrArg (fun l => l[i]?) alone.outcomes
  have there := congrArg (fun l => l[j]?) moved.outcomes
  simp only [List.getElem?_map] at here there
  rw [same, ← here] at there
  exact Option.map_injective (fun _ _ => Option.some.inj) there

theorem failedServices_of_reports (v : Verifier) (fleet : Fleet) (names : List ServiceName) :
    (Verdict.ofOutcomes (names.map fun name => (v.check fleet name).report name)).failedServices =
      names.filter fun name => ((v.check fleet name).report name).failed := by
  simp [Verdict.ofOutcomes, List.filter_map, Function.comp_def, report_name]

/-- Those that fail in another order are those that failed, in that order. -/
theorem failedServices_reordered (same : q.names.Perm r.names) :
    let failed := fun names : List ServiceName =>
      (Verdict.ofOutcomes (names.map fun name => (v.check fleet name).report name)).failedServices
    failed q.names = q.names.filter (· ∈ failed r.names) ∧
      (failed q.names).Perm (failed r.names) := by
  intro failed
  simp only [failed, failedServices_of_reports]
  constructor
  · refine List.filter_congr fun name registered => ?_
    simp [same.mem_iff.mp registered]
  · exact same.filter _

/-- The verdict on an answered run, in words that do not mention the order of the registry. -/
theorem verdict_of_answered (d : Detector) (limit concurrency : Nat) (fleet : Fleet)
    (r : Registry) {ping : Step Unit} (answered : ping.answer = .value ())
    (inTime : ping.delay ≤ limit) :
    ∃ verdict, ((⟨d.scan, limit, concurrency⟩ : Verifier).run ping fleet r).verdict? = some verdict ∧
      (verdict.anyFailed = false ↔ ∀ name ∈ r.names, (fleet name).Healthy d limit) ∧
      verdict.total = r.names.length := by
  rw [run_answered ⟨d.scan, limit, concurrency⟩ ping fleet r answered inTime]
  refine ⟨_, rfl, (Verdict.anyFailed_ofOutcomes _).trans outcomes_healthy_iff, ?_⟩
  rw [← placed_names ⟨d.scan, limit, concurrency⟩ fleet r]
  simp [Verdict.ofOutcomes]

theorem verdict_eq_of_perm (d : Detector) (limit concurrency : Nat) (fleet : Fleet)
    {ping : Step Unit} (answered : ping.answer = .value ()) (inTime : ping.delay ≤ limit)
    (same : q.names.Perm r.names) :
    let v : Verifier := ⟨d.scan, limit, concurrency⟩
    ∃ a b, (v.run ping fleet r).verdict? = some a ∧ (v.run ping fleet q).verdict? = some b ∧
      b.anyFailed = a.anyFailed ∧ b.exitCode = a.exitCode ∧ b.total = a.total := by
  obtain ⟨a, hereA, failedA, totalA⟩ :=
    verdict_of_answered d limit concurrency fleet r answered inTime
  obtain ⟨b, hereB, failedB, totalB⟩ :=
    verdict_of_answered d limit concurrency fleet q answered inTime
  have failed : b.anyFailed = a.anyFailed := by
    rw [Bool.eq_iff_iff, ← not_iff_not, Bool.not_eq_true, Bool.not_eq_true, failedA, failedB]
    simp only [same.mem_iff]
  refine ⟨a, b, hereA, hereB, failed, ?_, ?_⟩
  · unfold Verdict.exitCode
    rw [failed]
  · rw [totalA, totalB, same.length_eq]

end Verifier

theorem verdict_ignores_order (d : Detector) (limit concurrency : Nat) (ping : Step Unit)
    (fleet : Fleet) {r q : Registry} (same : q.names.Perm r.names) :
    let v : Verifier := ⟨d.scan, limit, concurrency⟩
    let run := v.run ping fleet r
    let moved := v.run ping fleet q
    ((∃ reason elapsed, run = .unavailable reason elapsed ∧ moved = .unavailable reason elapsed) ∨
      (∃ elapsed, run = .crashed elapsed ∧ moved = .crashed elapsed) ∨
      ∃ a b, run.verdict? = some a ∧ moved.verdict? = some b ∧
        b.anyFailed = a.anyFailed ∧ b.exitCode = a.exitCode ∧ b.total = a.total) ∧
    (v.Calm fleet r → ∀ a b, run.verdict? = some a → moved.verdict? = some b →
      (∀ i j : Nat, q.names[j]? = r.names[i]? → moved.outcomes[j]? = run.outcomes[i]?) ∧
      (b.failedServices = q.names.filter (· ∈ a.failedServices) ∧
        b.failedServices.Perm a.failedServices) ∧
      ∀ lines,
        let passage := fun name => Report.passage lines ((v.check fleet name).report name)
        run.report? lines = some (r.names.flatMap passage ++ Report.closing a) ∧
          moved.report? lines = some (q.names.flatMap passage ++ Report.closing b)) := by
  intro v run moved
  rcases v.answered_or_closed ping with ⟨answered, inTime⟩ | ⟨ending, closed, ends⟩
  · refine ⟨Or.inr (Or.inr (Verifier.verdict_eq_of_perm d limit concurrency fleet answered inTime
      same)), fun calm a b hereA hereB => ?_⟩
    have alone := Verifier.oneByOne_of_run calm answered inTime
    have again := Verifier.oneByOne_of_run (calm.reordered same) answered inTime
    have reports := alone.outcomes_eq calm
    have reportsToo := again.outcomes_eq (calm.reordered same)
    refine ⟨fun i j at_ => alone.outcome_moved again at_, ?_, fun lines => ?_⟩
    · rw [Run.verdict?_eq_some hereA, Run.verdict?_eq_some hereB, reports, reportsToo]
      exact Verifier.failedServices_reordered same
    · rw [Run.report?_eq hereA, Run.report?_eq hereB, reports, reportsToo, List.flatMap_map,
        List.flatMap_map]
      exact ⟨rfl, rfl⟩
  · have refused : run = ending := ends concurrency fleet r
    have refusedToo : moved = ending := ends concurrency fleet q
    refine ⟨?_, fun _ a _ hereA => ?_⟩
    · cases ending with
      | unavailable reason elapsed => exact Or.inl ⟨reason, elapsed, refused, refusedToo⟩
      | crashed elapsed => exact Or.inr (Or.inl ⟨elapsed, refused, refusedToo⟩)
      | completed placed elapsed => simp [Run.verdict?] at closed
    · rw [refused, closed] at hereA
      simp at hereA

def Registry.turned : Registry := ⟨[['b'], ['a']], rfl⟩

/-- The first service runs nowhere, and nobody knows how the second one ended. -/
def troubled : Fleet := fun name =>
  if name = ['a'] then .absent else { Instance.slow 3 with exitCode := ⟨2, .failure (.io [])⟩ }

theorem verdict_ignores_order_pair :
    let v : Verifier := ⟨(⟨[]⟩ : Detector).scan, 10, 1⟩
    let run := v.run ⟨0, .value ()⟩ troubled .pair
    let moved := v.run ⟨0, .value ()⟩ troubled .turned
    Registry.turned.names.Perm Registry.pair.names ∧ v.Calm troubled .pair ∧
      ∃ a b, run.verdict? = some a ∧ moved.verdict? = some b ∧
        a.failedServices = [['a'], ['b']] ∧ b.failedServices = [['b'], ['a']] ∧
        b.failedServices.Perm a.failedServices ∧ moved.outcomes[0]? = run.outcomes[1]? := by
  intro v run moved
  have same : Registry.turned.names.Perm Registry.pair.names := .swap _ _ _
  have calm : v.Calm troubled .pair := by
    intro name registered
    rcases List.mem_pair.mp registered with rfl | rfl <;> rfl
  have arranged := (verdict_ignores_order ⟨[]⟩ 10 1 ⟨0, .value ()⟩ troubled same).2 calm _ _ rfl rfl
  obtain ⟨places, ⟨_, failed⟩, _⟩ := arranged
  exact ⟨same, calm, _, _, rfl, rfl, rfl, rfl, failed, places 1 0 rfl⟩

end FleetHealth
