import FleetHealth.Proofs.Docker.Mirror

/- What docker is started for. Each method of the backend starts it with the arguments of a single
   question: what docker would do with other ones does not show in the method, and where docker does
   not start with these the method fails. The question on record for a stage of a check is the one
   that the method behind the stage puts. -/
namespace FleetHealth.Docker.Backend

/-- The method starts docker for this question and for nothing else. -/
structure Invokes {ε α : Type} (b : Backend) (told : LaunchFault → ε)
    (method : Backend → Except ε α) (q : Query) : Prop where
  only : ∀ p : Program, p (b.arguments q) = b.program (b.arguments q) →
    method { b with program := p } = method b
  needed : ∀ (p : Program) (f : LaunchFault), p (b.arguments q) = .error f →
    method { b with program := p } = .error (told f)

section
variable {b : Backend} {service : ServiceName} {h : Handle} {q : Query}

/-- A method cannot start docker for two different questions. -/
theorem Invokes.unique {ε α : Type} {told : LaunchFault → ε} {method : Backend → Except ε α}
    {other : Query} (apart : told .notFound ≠ told .notAllowed)
    (first : b.Invokes told method q) (second : b.Invokes told method other) :
    b.arguments q = b.arguments other := by
  by_contra differ
  -- Docker is missing for the one question, and not allowed to start for all other ones.
  let p : Program := fun arguments =>
    .error (if arguments = b.arguments q then .notFound else .notAllowed)
  have missing := first.needed p .notFound (by simp [p])
  have forbidden := second.needed p .notAllowed (by simp [p, Ne.symm differ])
  exact apart (Except.error.inj (missing.symm.trans forbidden))

theorem ask_only {p : Program} (same : p (b.arguments q) = b.program (b.arguments q)) :
    ask { b with program := p } q = b.ask q := by
  have arguments : arguments { b with program := p } q = b.arguments q := by cases q <;> rfl
  unfold ask
  dsimp only
  rw [arguments, same]
  rfl

theorem ask_needed {p : Program} {f : LaunchFault} (fails : p (b.arguments q) = .error f) :
    ask { b with program := p } q = .error (.launch f) := by
  refine ask_launch ?_
  rw [← fails]
  cases q <;> rfl

/-- A method that puts one question, and has nothing else to go by, starts docker for it. -/
theorem invokes_of_ask {ε α : Type} {told : LaunchFault → ε} {method : Backend → Except ε α}
    (settled : ∀ c d : Backend, c.ask q = d.ask q → method c = method d)
    (fails : ∀ (c : Backend) (f : LaunchFault), c.ask q = .error (.launch f) →
      method c = .error (told f)) : b.Invokes told method q where
  only _ same := settled _ _ (ask_only same)
  needed _ _ missing := fails _ _ (ask_needed missing)

theorem ping_invokes (b : Backend) :
    b.Invokes (fun f => .unavailable (Trouble.launch f).error.message) ping .version := by
  apply invokes_of_ask
  · intro c d same
    rw [ping, ping, same]
  · intro c f missing
    rw [ping, missing]

theorem resolve_invokes (b : Backend) (service : ServiceName) :
    b.Invokes Trouble.launch (resolve · service) (.find service) := by
  apply invokes_of_ask
  · intro c d same
    rw [resolve, resolve, same]
  · intro c f missing
    rw [resolve, missing]
    rfl

theorem exitCode_invokes (b : Backend) (h : Handle) :
    b.Invokes Trouble.launch (exitCode · h) (.inspect h) := by
  apply invokes_of_ask
  · intro c d same
    rw [exitCode, exitCode, same]
  · intro c f missing
    rw [exitCode, missing]
    rfl

theorem logs_invokes (b : Backend) (h : Handle) :
    b.Invokes Trouble.launch (logs · h) (.logs h) := by
  apply invokes_of_ask
  · intro c d same
    rw [logs, logs, same]
  · intro c f missing
    rw [logs, missing]
    rfl

/-- The questions on record, the first one and those for the stages of a check, are those that the
methods put, and every stage that a check comes to has one. -/
structure Recorded (b : Backend) (service : ServiceName) : Prop where
  first : b.Invokes (fun f => .unavailable (Trouble.launch f).error.message) ping .version
  resolve : ∀ q ∈ b.queryOf? service .resolve,
    b.Invokes Trouble.launch (Backend.resolve · service) q ∧
      (b.instanceOf service).resolve.answer = answerOf ((b.resolve service).map Option.isSome)
  exitCode : ∀ q ∈ b.queryOf? service .exitCode, ∃ h, b.resolve service = .ok (some h) ∧
    b.Invokes Trouble.launch (Backend.exitCode · h) q ∧
      (b.instanceOf service).exitCode.answer = answerOf (b.exitCode h)
  logs : ∀ q ∈ b.queryOf? service .logs, ∃ h, b.resolve service = .ok (some h) ∧
    b.Invokes Trouble.launch (Backend.logs · h) q ∧
      (b.instanceOf service).logs.answer = answerOf (b.logs h)
  complete : ∀ scan, ∀ s ∈ (Check.run scan none service (b.instanceOf service)).queries,
    b.queryOf? service s ≠ none

theorem queryOf?_found (found : b.resolve service = .ok (some h)) :
    b.queryOf? service .exitCode = some (.inspect h) ∧ b.queryOf? service .logs = some (.logs h) := by
  constructor <;> simp [queryOf?, found]

theorem found_of_queryOf? {s : Stage} (later : s ≠ .resolve) (there : q ∈ b.queryOf? service s) :
    ∃ h, b.resolve service = .ok (some h) := by
  rcases resolved : b.resolve service with t | _ | h
  · cases s <;> simp [queryOf?, resolved] at later there
  · cases s <;> simp [queryOf?, resolved] at later there
  · exact ⟨h, rfl⟩

theorem recorded (b : Backend) (service : ServiceName) : b.Recorded service where
  first := b.ping_invokes
  resolve q there := by
    obtain rfl := Option.some.inj there
    exact ⟨b.resolve_invokes service, (b.mirrored_instanceOf service).resolve⟩
  exitCode q there := by
    obtain ⟨h, found⟩ := found_of_queryOf? (s := .exitCode) nofun there
    rw [(queryOf?_found found).1] at there
    obtain rfl := Option.some.inj there
    exact ⟨h, found, b.exitCode_invokes h, by rw [instanceOf_found found, step_answer]⟩
  logs q there := by
    obtain ⟨h, found⟩ := found_of_queryOf? (s := .logs) nofun there
    rw [(queryOf?_found found).2] at there
    obtain rfl := Option.some.inj there
    exact ⟨h, found, b.logs_invokes h, by rw [instanceOf_found found, step_answer]⟩
  complete scan s begun := by
    have course := Check.run_course scan none service (b.instanceOf service)
    have reached := (course.mem_queries_iff s).mp begun
    have asked : s ≠ .resolve → ∃ h, b.resolve service = .ok (some h) := by
      intro later
      refine (b.mirrored_instanceOf service).found ?_
      cases s with
      | resolve => exact absurd rfl later
      | exitCode => exact (Instance.reached_exitCode_iff.mp reached).1
      | logs => exact (Instance.reached_logs_iff.mp reached).1
    cases s with
    | resolve => nofun
    | exitCode =>
      obtain ⟨h, found⟩ := asked nofun
      rw [(queryOf?_found found).1]
      nofun
    | logs =>
      obtain ⟨h, found⟩ := asked nofun
      rw [(queryOf?_found found).2]
      nofun

end

end FleetHealth.Docker.Backend
