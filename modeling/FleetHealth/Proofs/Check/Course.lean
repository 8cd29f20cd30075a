import FleetHealth.Proofs.Check.Stages

/- The courses that a check can take. The last stage that is reached decides how it ends: the query
   is too late, fails or crashes, or its answer completes the evidence. -/
namespace FleetHealth.Check

inductive Course (scan : Text → List LineMatch) (limit : Option Nat) (name : ServiceName)
    (i : Instance) : Check → Prop where
  | cut {s : Stage} {l : Nat} (reached : i.Reached limit s) (limited : limit = some l)
      (late : l < i.ends s) :
      Course scan limit name i ⟨some (timedOut (i.known name s) l), s.upTo, l⟩
  | failed {s : Stage} {e : BackendError} (reached : i.Reached limit s)
      (inTime : InTime limit (i.ends s)) (fails : i.turn s = .failed e) :
      Course scan limit name i ⟨some (failedAt (i.known name s) s e), s.upTo, i.ends s⟩
  | crashed {s : Stage} (reached : i.Reached limit s) (inTime : InTime limit (i.ends s))
      (crashes : i.turn s = .crashed) : Course scan limit name i ⟨none, s.upTo, i.ends s⟩
  | absent (inTime : InTime limit (i.ends .resolve)) (nowhere : i.turn .resolve = .absent) :
      Course scan limit name i ⟨some (.unprobed name), Stage.upTo .resolve, i.ends .resolve⟩
  | complete {log : Text} (reached : i.Reached limit .logs)
      (inTime : InTime limit (i.ends .logs)) (logged : i.logs.answer = .value log) :
      Course scan limit name i
        ⟨some (readLog scan (i.known name .logs) log), Stage.upTo .logs, i.ends .logs⟩

section
variable {α : Type} {limit : Option Nat} {o : Outcome} {past : Nat} {before : List Stage}
  {stage : Stage} {step : Step α} {go : α → Check}

theorem query_late {l : Nat} (late : l < past + step.delay) :
    query (some l) o past before stage step go = ⟨some (timedOut o l), before ++ [stage], l⟩ := by
  unfold query
  rw [overrun_some, if_pos late]

theorem query_value {a : α} (inTime : InTime limit (past + step.delay))
    (answered : step.answer = .value a) : query limit o past before stage step go = go a := by
  unfold query
  rw [(inTime_iff _ _).mp inTime, answered]

theorem query_failure {e : BackendError} (inTime : InTime limit (past + step.delay))
    (answered : step.answer = .failure e) :
    query limit o past before stage step go =
      ⟨some (failedAt o stage e), before ++ [stage], past + step.delay⟩ := by
  unfold query
  rw [(inTime_iff _ _).mp inTime, answered]

theorem query_crash (inTime : InTime limit (past + step.delay)) (answered : step.answer = .crash) :
    query limit o past before stage step go = ⟨none, before ++ [stage], past + step.delay⟩ := by
  unfold query
  rw [(inTime_iff _ _).mp inTime, answered]

end

section
variable {scan : Text → List LineMatch} {limit : Option Nat} {name : ServiceName} {i : Instance}
  {c : Check}

theorem known_logs {code : Int} (exits : i.exitCode.answer = .value code) :
    i.known name .logs =
      { Outcome.unprobed name with found := true, exitCode := some code } := by
  simp [Instance.known, exits, Answer.value?]

theorem run_logs (reached : i.Reached limit .logs) :
    run scan limit name i =
      query limit (i.known name .logs) (i.begins .logs) (Stage.earlier .logs) .logs i.logs
        fun log => ⟨some (readLog scan (i.known name .logs) log), Stage.upTo .logs,
          i.ends .logs⟩ := by
  obtain ⟨there, ⟨code, exits⟩, inTime⟩ := Instance.reached_logs_iff.mp reached
  have before := (reached.of_earlier (s := .exitCode) (by simp [Stage.earlier])).inTime
  unfold run
  rw [query_value (by rwa [Nat.zero_add]) there, known_logs exits]
  exact query_value inTime exits

/-- A stage that is reached is begun, with the evidence there is by then. -/
theorem run_reached (scan : Text → List LineMatch) (name : ServiceName) {s : Stage}
    (reached : i.Reached limit s) :
    ∃ (α : Type) (step : Step α) (go : α → Check),
      run scan limit name i = query limit (i.known name s) (i.begins s) s.earlier s step go ∧
      i.ends s = i.begins s + step.delay ∧
      (∀ e, i.turn s = .failed e → step.answer = .failure e) ∧
      (i.turn s = .crashed → step.answer = .crash) := by
  cases s with
  | resolve =>
    exact ⟨Bool, i.resolve, _, rfl, (Nat.zero_add _).symm,
      fun e => Instance.turn_resolve_failed.mp, Instance.turn_resolve_crashed.mp⟩
  | exitCode =>
    obtain ⟨there, inTime⟩ := Instance.reached_exitCode_iff.mp reached
    exact ⟨Int, i.exitCode, _, query_value (by rwa [Nat.zero_add]) there, rfl,
      fun e => Answer.turn_failed.mp, Answer.turn_crashed.mp⟩
  | logs =>
    exact ⟨Text, i.logs, _, run_logs reached, rfl,
      fun e => Answer.turn_failed.mp, Answer.turn_crashed.mp⟩

namespace Course

theorem run_eq (course : Course scan limit name i c) : run scan limit name i = c := by
  -- What is reached is begun; how its query ends is what tells the courses apart.
  cases course with
  | cut reached limited late =>
    subst limited
    obtain ⟨α, step, go, here, ends, _⟩ := run_reached scan name reached
    rw [here, query_late (ends ▸ late)]
    rfl
  | failed reached inTime fails =>
    obtain ⟨α, step, go, here, ends, failure, _⟩ := run_reached scan name reached
    rw [here, query_failure (ends ▸ inTime) (failure _ fails), ends]
    rfl
  | crashed reached inTime crashes =>
    obtain ⟨α, step, go, here, ends, _, crash⟩ := run_reached scan name reached
    rw [here, query_crash (ends ▸ inTime) (crash crashes), ends]
    rfl
  | absent inTime nowhere =>
    unfold run
    rw [query_value (by rwa [Nat.zero_add]) (Instance.turn_resolve_absent.mp nowhere)]
    rfl
  | complete reached inTime logged =>
    rw [run_logs reached]
    exact query_value inTime logged

theorem unique {d : Check} (course : Course scan limit name i c)
    (other : Course scan limit name i d) : c = d :=
  course.run_eq.symm.trans other.run_eq

end Course

/-- A stage that is reached ends the check, unless its query is answered in time and the check goes
on behind it. -/
theorem query_course {α : Type} {s : Stage} {step : Step α} {go : α → Check}
    (reached : i.Reached limit s) (ends : i.ends s = i.begins s + step.delay)
    (fails : ∀ e, step.answer = .failure e → i.turn s = .failed e)
    (crashes : step.answer = .crash → i.turn s = .crashed)
    (goes : ∀ a, step.answer = .value a → InTime limit (i.ends s) →
      Course scan limit name i (go a)) :
    Course scan limit name i
      (query limit (i.known name s) (i.begins s) s.earlier s step go) := by
  by_cases inTime : InTime limit (i.ends s)
  · cases answered : step.answer with
    | value a =>
      rw [query_value (ends ▸ inTime) answered]
      exact goes a answered inTime
    | failure e =>
      rw [query_failure (ends ▸ inTime) answered, ← ends]
      exact .failed reached inTime (fails e answered)
    | crash =>
      rw [query_crash (ends ▸ inTime) answered, ← ends]
      exact .crashed reached inTime (crashes answered)
  · cases limit with
    | none => exact absurd (inTime_none _) inTime
    | some l =>
      have late : l < i.ends s := Nat.lt_of_not_le (mt inTime_some_iff.mpr inTime)
      rw [query_late (ends ▸ late)]
      exact .cut reached rfl late

theorem run_course (scan : Text → List LineMatch) (limit : Option Nat) (name : ServiceName)
    (i : Instance) : Course scan limit name i (run scan limit name i) := by
  unfold run
  refine query_course (s := .resolve) (i.reached_resolve limit) (Nat.zero_add _).symm
    (fun e => Instance.turn_resolve_failed.mpr) Instance.turn_resolve_crashed.mpr ?_
  intro found resolved inTime
  cases found with
  | false => exact .absent inTime (Instance.turn_resolve_absent.mpr resolved)
  | true =>
    have reached := Instance.reached_exitCode_iff.mpr ⟨resolved, inTime⟩
    refine query_course (s := .exitCode) reached rfl (fun e => Answer.turn_failed.mpr)
      Answer.turn_crashed.mpr ?_
    intro code answered inTime
    have reached := Instance.reached_logs_iff.mpr ⟨resolved, ⟨code, answered⟩, inTime⟩
    dsimp only
    rw [← known_logs answered]
    exact query_course (s := .logs) reached rfl (fun e => Answer.turn_failed.mpr)
      Answer.turn_crashed.mpr fun log logged inTime => .complete reached inTime logged

namespace Course

/-- The queries made are those of the stages that were reached. -/
theorem mem_queries_iff (course : Course scan limit name i c) (s : Stage) :
    s ∈ c.queries ↔ i.Reached limit s := by
  cases course with
  | cut reached limited late =>
    subst limited
    exact Instance.mem_upTo_iff reached fun u => Instance.not_reached_of_late late
  | failed reached inTime fails =>
    exact Instance.mem_upTo_iff reached fun u => Instance.not_reached_of_turn (by simp [fails])
  | crashed reached inTime crashes =>
    exact Instance.mem_upTo_iff reached fun u => Instance.not_reached_of_turn (by simp [crashes])
  | absent inTime nowhere =>
    refine Instance.mem_upTo_iff (i.reached_resolve limit) fun u => ?_
    exact Instance.not_reached_of_turn (by simp [nowhere])
  | complete reached inTime logged =>
    refine Instance.mem_upTo_iff reached fun u behind => ?_
    cases u <;> simp [Stage.earlier] at behind

theorem queries_upTo (course : Course scan limit name i c) : ∃ s : Stage, c.queries = s.upTo := by
  cases course <;> exact ⟨_, rfl⟩

theorem queries_ordered (course : Course scan limit name i c) :
    c.queries <+: [.resolve, .exitCode, .logs] := by
  obtain ⟨s, upTo⟩ := course.queries_upTo
  rw [upTo]
  exact s.upTo_prefix

/-- A check that does not crash tells an exit code if and only if it went on to the log. -/
theorem logs_mem_queries_iff (course : Course scan limit name i c)
    (ended : c.report name ≠ .aborted name) :
    .logs ∈ c.queries ↔ ∃ code, (c.report name).exitCode = some code := by
  have last {s : Stage} (reached : i.Reached limit s) :
      .logs ∈ s.upTo ↔ ∃ code, (i.known name s).exitCode = some code := by
    simp only [Stage.logs_mem_upTo, Instance.known_exitCode_iff, exists_and_left, iff_self_and]
    rintro rfl
    exact (Instance.reached_logs_iff.mp reached).2.1
  cases course with
  | cut reached limited late => exact last reached
  | failed reached inTime fails => exact last reached
  | crashed reached inTime crashes => exact absurd rfl ended
  | absent inTime nowhere => simp [Stage.logs_mem_upTo, report, Outcome.unprobed]
  | complete reached inTime logged => exact last reached

theorem duration_le {l : Nat} (course : Course scan (some l) name i c) : c.duration ≤ l := by
  cases course with
  | cut reached limited late => exact Nat.le_of_eq (Option.some.inj limited).symm
  | failed reached inTime fails => exact inTime_some_iff.mp inTime
  | crashed reached inTime crashes => exact inTime_some_iff.mp inTime
  | absent inTime nowhere => exact inTime_some_iff.mp inTime
  | complete reached inTime logged => exact inTime_some_iff.mp inTime

/-- A limit that is not exceeded changes nothing. -/
theorem limited {l : Nat} (free : Course scan none name i c) (soon : c.duration ≤ l) :
    Course scan (some l) name i c := by
  have inTime {s : Stage} (ends : i.ends s ≤ l) : i.begins s ≤ l :=
    Nat.le_trans (i.begins_le_ends s) ends
  cases free with
  | cut reached limited late => simp at limited
  | failed reached _ fails =>
    exact .failed (reached.limited (inTime soon)) (inTime_some_iff.mpr soon) fails
  | crashed reached _ crashes =>
    exact .crashed (reached.limited (inTime soon)) (inTime_some_iff.mpr soon) crashes
  | absent _ nowhere => exact .absent (inTime_some_iff.mpr soon) nowhere
  | complete reached _ logged =>
    exact .complete (reached.limited (inTime soon)) (inTime_some_iff.mpr soon) logged

/-- Nor is a limit noticed by a check that it does not cut off. -/
theorem unlimited {l : Nat} (course : Course scan (some l) name i c) :
    (∃ s, i.Reached (some l) s ∧ l < i.ends s ∧
      c = ⟨some (timedOut (i.known name s) l), s.upTo, l⟩) ∨ Course scan none name i c := by
  cases course with
  | cut reached limited late =>
    obtain rfl := Option.some.inj limited
    exact Or.inl ⟨_, reached, late, rfl⟩
  | failed reached _ fails => exact Or.inr (.failed reached.unlimited (inTime_none _) fails)
  | crashed reached _ crashes => exact Or.inr (.crashed reached.unlimited (inTime_none _) crashes)
  | absent _ nowhere => exact Or.inr (.absent (inTime_none _) nowhere)
  | complete reached _ logged => exact Or.inr (.complete reached.unlimited (inTime_none _) logged)

theorem duration_le_ends (course : Course scan none name i c) : c.duration ≤ i.ends .logs := by
  cases course with
  | cut reached limited late => simp at limited
  | failed | crashed => exact i.ends_le_ends_logs _
  | absent => exact i.ends_le_ends_logs .resolve
  | complete => exact Nat.le_refl _

end Course

end

/-- Two checks that differ in nothing but their length. -/
structure SameFinding (a b : Check) : Prop where
  outcome : a.outcome = b.outcome
  queries : a.queries = b.queries

theorem query_same {α : Type} {o : Outcome} {past since : Nat} {before : List Stage}
    {stage : Stage} {step other : Step α} {go goes : α → Check} (same : step.answer = other.answer)
    (onward : ∀ a, step.answer = .value a → (go a).SameFinding (goes a)) :
    (query none o past before stage step go).SameFinding
      (query none o since before stage other goes) := by
  cases answered : step.answer with
  | value a =>
    rw [query_value (inTime_none _) answered, query_value (inTime_none _) (same ▸ answered)]
    exact onward a answered
  | failure e =>
    rw [query_failure (inTime_none _) answered, query_failure (inTime_none _) (same ▸ answered)]
    exact ⟨rfl, rfl⟩
  | crash =>
    rw [query_crash (inTime_none _) answered, query_crash (inTime_none _) (same ▸ answered)]
    exact ⟨rfl, rfl⟩

theorem run_same {i j : Instance} (alike : i.Alike j) (scan : Text → List LineMatch)
    (name : ServiceName) : (run scan none name i).SameFinding (run scan none name j) := by
  unfold run
  refine query_same alike.resolve ?_
  intro found resolved
  cases found with
  | false => exact ⟨rfl, rfl⟩
  | true =>
    refine query_same (alike.exitCode resolved) ?_
    intro code exits
    exact query_same (alike.logs resolved code exits) fun log _ => ⟨rfl, rfl⟩

end FleetHealth.Check
