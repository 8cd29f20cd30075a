import FleetHealth.Docker.Backend
import FleetHealth.Proofs.Cutoff

/- Docker as a fleet. What it is asked about a service, and what it answers, is all that the check
   of the service comes to see. -/
namespace FleetHealth.Docker

/-- An answer of docker as one to the query of a check. -/
def answerOf {α : Type} : Except Trouble α → Answer α
  | .ok a => .value a
  | .error t => .failure t.error

namespace Backend

/-- An instance that answers what docker answers about the service. -/
structure Mirrored (b : Backend) (service : ServiceName) (i : Instance) : Prop where
  resolve : i.resolve.answer = answerOf ((b.resolve service).map Option.isSome)
  exitCode : ∀ h, b.resolve service = .ok (some h) → i.exitCode.answer = answerOf (b.exitCode h)
  logs : ∀ h code, b.resolve service = .ok (some h) → b.exitCode h = .ok code →
    i.logs.answer = answerOf (b.logs h)

/-- What docker is asked about a service. -/
def questions (b : Backend) (service : ServiceName) : List Query :=
  .find service ::
    match b.resolve service with
    | .ok (some h) =>
      .inspect h ::
        match b.exitCode h with
        | .ok _ => [.logs h]
        | .error _ => []
    | _ => []

section
variable {b : Backend} {q : Query} {f : Finished}

theorem ask_launch {f : LaunchFault} (fails : b.program (b.arguments q) = .error f) :
    b.ask q = .error (.launch f) := by
  unfold ask
  rw [fails]

theorem ask_status (answered : b.program (b.arguments q) = .ok f) (failed : f.status ≠ some 0) :
    ∃ t, b.ask q = .error t := by
  unfold ask
  rw [answered]
  dsimp only
  rw [if_neg failed]
  exact ⟨_, rfl⟩

theorem ask_success (answered : b.program (b.arguments q) = .ok f) (succeeds : f.status = some 0) :
    ∃ streams, b.ask q = .ok streams := by
  unfold ask
  rw [answered]
  dsimp only
  rw [if_pos succeeds]
  exact ⟨_, rfl⟩

end

section
variable {b : Backend} {service : ServiceName} {i j : Instance}

theorem step_answer {α : Type} (r : Except Trouble α) : (step r).answer = answerOf r := by
  cases r <;> rfl

theorem step_delay {α : Type} (r : Except Trouble α) : (step r).delay = 0 := by
  cases r <;> rfl

theorem answerOf_value {α : Type} {r : Except Trouble α} {a : α}
    (answered : answerOf r = .value a) : r = .ok a := by
  cases r with
  | ok c => exact congrArg Except.ok (Answer.value.inj answered)
  | error t => simp [answerOf] at answered

theorem Mirrored.found (mirrored : b.Mirrored service i)
    (there : i.resolve.answer = .value true) : ∃ h, b.resolve service = .ok (some h) := by
  have found := answerOf_value (mirrored.resolve.symm.trans there)
  cases resolved : b.resolve service with
  | error t => simp [resolved, Except.map] at found
  | ok handle =>
    cases handle with
    | none => simp [resolved, Except.map] at found
    | some h => exact ⟨h, rfl⟩

theorem Mirrored.alike (mirrored : b.Mirrored service i) (other : b.Mirrored service j) :
    i.Alike j where
  resolve := mirrored.resolve.trans other.resolve.symm
  exitCode there := by
    obtain ⟨h, found⟩ := mirrored.found there
    rw [mirrored.exitCode h found, other.exitCode h found]
  logs there code exits := by
    obtain ⟨h, found⟩ := mirrored.found there
    have ended := answerOf_value ((mirrored.exitCode h found).symm.trans exits)
    rw [mirrored.logs h code found ended, other.logs h code found ended]

theorem instanceOf_found {h : Handle} (found : b.resolve service = .ok (some h)) :
    b.instanceOf service = ⟨step (.ok true), step (b.exitCode h), step (b.logs h)⟩ := by
  unfold instanceOf
  rw [found]

theorem instanceOf_absent (absent : b.resolve service = .ok none) :
    b.instanceOf service = .absent := by
  unfold instanceOf
  rw [absent]

theorem instanceOf_failed {t : Trouble} (failed : b.resolve service = .error t) :
    b.instanceOf service = { Instance.absent with resolve := step (.error t) } := by
  unfold instanceOf
  rw [failed]

theorem mirrored_of_found {h : Handle} (found : b.resolve service = .ok (some h))
    (there : i.resolve.answer = .value true) (exits : i.exitCode.answer = answerOf (b.exitCode h))
    (logged : i.logs.answer = answerOf (b.logs h)) : b.Mirrored service i where
  resolve := by
    rw [found, there]
    rfl
  exitCode g found' := by
    obtain rfl := Option.some.inj (Except.ok.inj (found.symm.trans found'))
    exact exits
  logs g _ found' _ := by
    obtain rfl := Option.some.inj (Except.ok.inj (found.symm.trans found'))
    exact logged

/-- Without a container only the first answer counts. -/
theorem mirrored_of_unfound (unfound : ∀ h, b.resolve service ≠ .ok (some h))
    (answered : i.resolve.answer = answerOf ((b.resolve service).map Option.isSome)) :
    b.Mirrored service i where
  resolve := answered
  exitCode h found := absurd found (unfound h)
  logs h _ found _ := absurd found (unfound h)

theorem mirrored_instanceOf (b : Backend) (service : ServiceName) :
    b.Mirrored service (b.instanceOf service) := by
  rcases resolved : b.resolve service with t | _ | h
  · rw [instanceOf_failed resolved]
    refine mirrored_of_unfound (fun h => by simp [resolved]) ?_
    rw [resolved]
    rfl
  · rw [instanceOf_absent resolved]
    refine mirrored_of_unfound (fun h => by simp [resolved]) ?_
    rw [resolved]
    rfl
  · rw [instanceOf_found resolved]
    exact mirrored_of_found resolved rfl (step_answer _) (step_answer _)

theorem ends_instanceOf (b : Backend) (service : ServiceName) :
    (b.instanceOf service).ends .logs = 0 := by
  unfold instanceOf
  split <;> simp [Instance.ends, Instance.absent, step_delay]

theorem step_turn {α : Type} (r : Except Trouble α) : (step r).answer.turn ≠ .crashed := by
  cases r <;> nofun

theorem steady_instanceOf (b : Backend) (service : ServiceName) :
    (b.instanceOf service).Steady := by
  intro s
  rcases resolved : b.resolve service with t | _ | h
  · rw [instanceOf_failed resolved]
    cases s <;> nofun
  · rw [instanceOf_absent resolved]
    cases s <;> nofun
  · rw [instanceOf_found resolved]
    cases s with
    | resolve => nofun
    | exitCode => exact step_turn (b.exitCode h)
    | logs => exact step_turn (b.logs h)

/-- The queries of a check are the questions put to docker. -/
theorem queries_instanceOf (b : Backend) (scan : Text → List LineMatch) (service : ServiceName) :
    (Check.run scan none service (b.instanceOf service)).queries.filterMap (b.queryOf? service) =
      b.questions service := by
  unfold questions
  rcases resolved : b.resolve service with t | _ | h
  · rw [instanceOf_failed resolved]
    rfl
  · rw [instanceOf_absent resolved]
    rfl
  · dsimp only
    rw [instanceOf_found resolved]
    have looked : b.queryOf? service .resolve = some (.find service) := rfl
    have inspected : b.queryOf? service .exitCode = some (.inspect h) := by simp [queryOf?, resolved]
    have logged : b.queryOf? service .logs = some (.logs h) := by simp [queryOf?, resolved]
    cases ended : b.exitCode h with
    | error t =>
      have asked : (Check.run scan none service ⟨step (.ok true), step (.error t),
          step (b.logs h)⟩).queries = Stage.upTo .exitCode := rfl
      rw [asked]
      simp [Stage.upTo, Stage.earlier, looked, inspected]
    | ok code =>
      have asked : (Check.run scan none service ⟨step (.ok true), step (.ok code),
          step (b.logs h)⟩).queries = Stage.upTo .logs := by
        cases b.logs h <;> rfl
      rw [asked]
      simp [Stage.upTo, Stage.earlier, looked, inspected, logged]

end

end Backend

end FleetHealth.Docker
