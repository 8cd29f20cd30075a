import FleetHealth.Proofs.Pool.Headstart
import FleetHealth.Proofs.RunLength

/- More workers do no harm. As the services are checked in a fixed order and do not wait for each
   other, a check that finds more workers begins no later, so the run ends no later. -/
namespace FleetHealth

/-- When the check of a service begins, counted from the answer to the first question. -/
def Run.begins? (run : Run) (name : ServiceName) : Option Nat :=
  (run.placements.find? fun p => p.job.name == name).bind Pool.Placement.start

namespace Verifier
variable {v : Verifier} {fleet : Fleet} {r : Registry} {few many : Nat}

theorem placed_noLater (calm : v.Calm fleet r) (le : few ≤ many) :
    List.Forall₂ Pool.Placement.NoLater ((v.withWorkers many).placed fleet r)
      ((v.withWorkers few).placed fleet r) :=
  Pool.schedule_noLater (calm_jobs calm) le

theorem begins_noLater (calm : v.Calm fleet r) (le : few ≤ many) {ping : Step Unit}
    (answered : ping.answer = .value ()) (inTime : ping.delay ≤ v.limit) {name : ServiceName}
    (registered : name ∈ r.names) :
    ∃ soon late, ((v.withWorkers many).run ping fleet r).begins? name = some soon ∧
      ((v.withWorkers few).run ping fleet r).begins? name = some late ∧ soon ≤ late := by
  have known : name ∈ ((v.withWorkers many).placed fleet r).map fun p => p.job.name :=
    placed_names _ fleet r ▸ registered
  obtain ⟨p, q, here, there, -, s, t, begins, waits, early⟩ :=
    Pool.find?_noLater (placed_noLater calm le) known
  rw [run_answered (v.withWorkers many) ping fleet r answered inTime,
    run_answered (v.withWorkers few) ping fleet r answered inTime]
  refine ⟨s, t, ?_, ?_, early⟩
  · simp [Run.begins?, Run.placements, here, begins]
  · simp [Run.begins?, Run.placements, there, waits]

theorem elapsed_noLater (calm : v.Calm fleet r) (le : few ≤ many) (ping : Step Unit) :
    ((v.withWorkers many).run ping fleet r).elapsed ≤
      ((v.withWorkers few).run ping fleet r).elapsed := by
  rcases v.answered_or_closed ping with ⟨answered, inTime⟩ | ⟨ending, closed, ends⟩
  · rw [run_answered (v.withWorkers many) ping fleet r answered inTime,
      run_answered (v.withWorkers few) ping fleet r answered inTime]
    exact Nat.add_le_add_left (Pool.makespan_le_of_noLater (placed_noLater calm le)) ping.delay
  · rw [ends, ends]

end Verifier

theorem more_workers_never_hurt (v : Verifier) (fleet : Fleet) (r : Registry)
    (calm : v.Calm fleet r) {few many : Nat} (le : few ≤ many) (ping : Step Unit) :
    let slow := (v.withWorkers few).run ping fleet r
    let fast := (v.withWorkers many).run ping fleet r
    fast.elapsed ≤ slow.elapsed ∧
      (ping.answer = .value () → ping.delay ≤ v.limit → ∀ name ∈ r.names,
        ∃ soon late, fast.begins? name = some soon ∧ slow.begins? name = some late ∧
          soon ≤ late) := by
  refine ⟨Verifier.elapsed_noLater calm le ping, ?_⟩
  intro answered inTime name registered
  exact Verifier.begins_noLater calm le answered inTime registered

def Registry.trio : Registry := ⟨[['a'], ['b'], ['c']], rfl⟩

/-- The first of the services takes longer than the other ones. -/
def unevenFleet (name : ServiceName) : Instance := .slow (if name = ['a'] then 4 else 3)

/-- With a second worker the last of three checks need no longer wait for both of the others. -/
theorem more_workers_never_hurt_trio :
    let v : Verifier := ⟨fun _ => [], 10, 1⟩
    let ping : Step Unit := ⟨1, .value ()⟩
    let run := fun workers => (v.withWorkers workers).run ping unevenFleet .trio
    v.Calm unevenFleet .trio ∧ 1 ≤ 2 ∧ ping.answer = .value () ∧ ping.delay ≤ v.limit ∧
      ['c'] ∈ Registry.trio.names ∧ (run 2).elapsed ≤ (run 1).elapsed ∧
      (run 1).elapsed = 11 ∧ (run 2).elapsed = 7 ∧
      (∃ soon late, (run 2).begins? ['c'] = some soon ∧ (run 1).begins? ['c'] = some late ∧
        soon ≤ late) ∧ (run 2).begins? ['c'] = some 3 ∧ (run 1).begins? ['c'] = some 7 := by
  intro v ping run
  have calm : v.Calm unevenFleet .trio := by
    unfold Verifier.Calm
    decide
  have more : 1 ≤ 2 := by decide
  have never := more_workers_never_hurt v unevenFleet .trio calm more ping
  exact ⟨calm, more, rfl, by decide, by decide, never.1, rfl, rfl,
    never.2 rfl (by decide) ['c'] (by decide), rfl, rfl⟩

end FleetHealth
