import FleetHealth.Command.Run
import FleetHealth.Proofs.Docker.ExitCode
import FleetHealth.Proofs.Docker.Mirror
import FleetHealth.Proofs.Report.Wording
import FleetHealth.Proofs.Settings.Accepted
import FleetHealth.Proofs.Signature.ByLine

/- The command is a run of the verifier over the fleet that docker shows. It prints the report on
   that run and ends with its verdict, and it asks docker what the checks of the run ask for. -/
namespace FleetHealth

def Settings.backend (s : Settings) (docker : Text → Docker.Program) : Docker.Backend :=
  ⟨docker s.dockerBinary, s.dockerBinary, s.containerTemplate⟩

namespace Verifier
variable {v w : Verifier} {fleet other : Fleet} {r : Registry}

/-- The services show the same to both verifiers, each in its own fleet. -/
def Agree (v : Verifier) (fleet : Fleet) (w : Verifier) (other : Fleet) (r : Registry) : Prop :=
  ∀ name ∈ r.names, (v.check fleet name).SameFinding (w.check other name)

theorem Calm.agreeing (calm : v.Calm fleet r) (agree : v.Agree fleet w other r) :
    w.Calm other r := by
  intro name registered
  have quiet := calm name registered
  unfold Check.crashed at quiet ⊢
  rwa [(agree name registered).outcome] at quiet

theorem OneByOne.agreeing {outcomes : List Outcome} {queries : List (ServiceName × List Stage)}
    (alone : v.OneByOne fleet r outcomes queries) (agree : v.Agree fleet w other r) :
    w.OneByOne other r outcomes queries where
  outcomes := by
    rw [alone.outcomes]
    exact List.map_congr_left fun name registered => (agree name registered).outcome
  queries := by
    rw [alone.queries]
    exact List.map_congr_left fun name registered => by rw [(agree name registered).queries]

end Verifier

namespace Docker.Backend
variable {b : Backend} {v : Verifier} {r : Registry} {fleet : Fleet}

/-- A fleet in memory whose services answer what docker answers about them, and all in time. -/
structure Shown (b : Backend) (v : Verifier) (r : Registry) (fleet : Fleet) : Prop where
  mirrored : ∀ name ∈ r.names, b.Mirrored name (fleet name)
  soon : ∀ name ∈ r.names, (Check.run v.scan none name (fleet name)).duration ≤ v.limit

/-- Docker itself takes no time. -/
theorem soon_instanceOf (b : Backend) (v : Verifier) (name : ServiceName) :
    (Check.run v.scan none name (b.instanceOf name)).duration ≤ v.limit := by
  have ends := (Check.run_course v.scan none name (b.instanceOf name)).duration_le_ends
  rw [ends_instanceOf] at ends
  exact Nat.le_trans ends (Nat.zero_le _)

theorem check_instanceOf (b : Backend) (v : Verifier) (name : ServiceName) :
    v.check b.instanceOf name = Check.run v.scan none name (b.instanceOf name) :=
  Check.run_of_soon (b.soon_instanceOf v name)

theorem shown_instanceOf (b : Backend) (v : Verifier) (r : Registry) :
    b.Shown v r b.instanceOf :=
  ⟨fun name _ => b.mirrored_instanceOf name, fun name _ => b.soon_instanceOf v name⟩

theorem calm_instanceOf (b : Backend) (v : Verifier) (r : Registry) : v.Calm b.instanceOf r :=
  v.calm_of_steady fun name _ => b.steady_instanceOf name

theorem Shown.agree (shown : b.Shown v r fleet) (concurrency : Nat) :
    v.Agree b.instanceOf (v.withWorkers concurrency) fleet r := by
  intro name registered
  have check : (v.withWorkers concurrency).check fleet name =
      Check.run v.scan none name (fleet name) := Check.run_of_soon (shown.soon name registered)
  have alike := (b.mirrored_instanceOf name).alike (shown.mirrored name registered)
  rw [check_instanceOf, check]
  exact Check.run_same alike v.scan name

end Docker.Backend

namespace Command

/-- A command that came to no report, after these invocations of docker. -/
structure GivesUp (invocations : List (List Text)) (ending : Ending) : Prop where
  code : ending.code = 1
  stdout : ending.stdout = []
  invocations : ending.invocations = invocations

/-- The command printed the report on these outcomes, and ended with their verdict. -/
def Ending.Tells (ending : Ending) (lines : Option Nat) (outcomes : List Outcome) : Prop :=
  ending.stdout = Report.render lines outcomes (.ofOutcomes outcomes) ∧
    ending.code = (Verdict.ofOutcomes outcomes).exitCode

/-- A command that shows what a run of the verifier finds in any fleet in memory that looks like
docker, whoever has his turn when, and that asked docker about each service what its check asks. -/
structure Refines (s : Settings) (b : Docker.Backend) (d : Detector) (r : Registry)
    (ending : Ending) : Prop where
  shown : b.Shown (s.verifier d) r b.instanceOf
  found : ∀ fleet, b.Shown (s.verifier d) r fleet → ∀ concurrency,
    let v := (s.verifier d).withWorkers concurrency
    (∀ ping, ping.answer = .value () → ping.delay ≤ v.limit →
      let run := v.run ping fleet r
      run.verdict? = some (.ofOutcomes run.outcomes) ∧ ending.Tells s.maxLogLines run.outcomes) ∧
    ∀ events t, Pool.History concurrency (v.jobs fleet r) events t → t.final →
      ending.Tells s.maxLogLines (t.outcomes (v.jobs fleet r))
  invocations : ending.invocations.Perm
    (((Docker.Query.version :: s.services.flatMap b.questions).filter b.starts).map b.arguments)

section
variable {arguments : List Text} {a : Arguments} {stored : Text → Stored}
  {docker : Text → Docker.Program} {s : Settings} {d : Detector} {r : Registry}
  {b : Docker.Backend}

theorem run_of_refused (accepted : read arguments = .run a) {e : ConfigError}
    (refused : Settings.load a.overrides (stored a.configPath) = .error e) :
    GivesUp [] (run arguments stored docker) := by
  unfold run start
  rw [accepted]
  dsimp only
  rw [refused]
  exact ⟨rfl, rfl, rfl⟩

theorem run_of_loaded (docker : Text → Docker.Program) (accepted : read arguments = .run a)
    (loaded : Settings.load a.overrides (stored a.configPath) = .ok s) :
    ∃ d r, s.detector = .ok d ∧ r.names = s.services ∧
      run arguments stored docker = check s d r (s.backend docker) := by
  -- The names and the signatures are looked at once more, but nothing is refused now.
  obtain ⟨_, finished⟩ := Settings.finish_of_load loaded
  obtain ⟨named, d, compiled⟩ :=
    Settings.parts_of_accepted (Settings.accepted_of_finish finished)
  refine ⟨d, ⟨s.services, named⟩, compiled, rfl, ?_⟩
  unfold run start
  rw [accepted]
  dsimp only
  rw [loaded]
  dsimp only
  rw [Registry.ofNames_accepted named, compiled]
  rfl

/-- Without an answer to the first question no other one is put. -/
theorem check_of_refused {t : Docker.Trouble} (refused : b.ask .version = .error t) :
    GivesUp (([Docker.Query.version].filter b.starts).map b.arguments) (check s d r b) := by
  unfold check Docker.Backend.ping
  rw [refused]
  exact ⟨rfl, rfl, rfl⟩

theorem check_of_launch {f : Docker.LaunchFault}
    (fails : b.program (b.arguments .version) = .error f) : GivesUp [] (check s d r b) := by
  have never : b.starts .version = false := by simp [Docker.Backend.starts, fails, Except.toBool]
  have refused := check_of_refused (s := s) (d := d) (r := r) (Docker.Backend.ask_launch fails)
  rwa [List.filter_cons_of_neg (by simp [never])] at refused

theorem check_of_status {f : Docker.Finished}
    (answered : b.program (b.arguments .version) = .ok f) (failed : f.status ≠ some 0) :
    GivesUp [b.arguments .version] (check s d r b) := by
  have begun : b.starts .version = true := by simp [Docker.Backend.starts, answered, Except.toBool]
  obtain ⟨t, refused⟩ := Docker.Backend.ask_status answered failed
  have refused := check_of_refused (s := s) (d := d) (r := r) refused
  rwa [List.filter_cons_of_pos begun] at refused

theorem check_of_answer {f : Docker.Finished}
    (answered : b.program (b.arguments .version) = .ok f) (succeeds : f.status = some 0) :
    let run := (s.verifier d).run ⟨0, .value ()⟩ b.instanceOf r
    (check s d r b).Tells s.maxLogLines run.outcomes ∧
      (check s d r b).invocations = invocationsOf b run := by
  obtain ⟨streams, heard⟩ := Docker.Backend.ask_success answered succeeds
  unfold check Docker.Backend.ping
  rw [heard]
  exact ⟨⟨rfl, rfl⟩, rfl⟩

theorem invocationsOf_alone {v : Verifier} {run : Run}
    (alone : v.OneByOne b.instanceOf r run.outcomes run.queries) :
    invocationsOf b run =
      ((Docker.Query.version :: r.names.flatMap b.questions).filter b.starts).map b.arguments := by
  unfold invocationsOf
  rw [alone.queries, List.flatMap_map]
  refine congrArg (fun asked => ((Docker.Query.version :: asked).filter b.starts).map b.arguments) ?_
  refine List.flatMap_congr fun name _ => ?_
  rw [b.check_instanceOf v name]
  exact b.queries_instanceOf v.scan name

theorem refines_of_answer {f : Docker.Finished}
    (answered : b.program (b.arguments .version) = .ok f) (succeeds : f.status = some 0)
    (named : r.names = s.services) : Refines s b d r (check s d r b) := by
  have quiet := b.calm_instanceOf (s.verifier d) r
  have alone := Verifier.oneByOne_of_run quiet
    (rfl : (⟨0, .value ()⟩ : Step Unit).answer = .value ()) (Nat.zero_le _)
  obtain ⟨tells, invocations⟩ := check_of_answer (r := r) (d := d) (s := s) answered succeeds
  -- Whatever is run over a fleet that agrees with docker has the outcomes of this one run.
  refine ⟨b.shown_instanceOf _ r, fun fleet shown concurrency => ?_, ?_⟩
  · have agree := shown.agree concurrency
    have still := quiet.agreeing agree
    have alone := alone.agreeing agree
    constructor
    · intro ping replied inTime
      have again := Verifier.oneByOne_of_run still replied inTime
      rw [(alone.unique again).1] at tells
      exact ⟨Verifier.verdict?_of_answered _ replied inTime fleet r, tells⟩
    · intro events t happened ended
      have again := Verifier.oneByOne_of_final still happened.sound ended
      rwa [(alone.unique again).1] at tells
  · rw [invocations, invocationsOf_alone alone, named]

end

theorem command_refines_verifier {arguments : List Text} {a : Arguments}
    (accepted : read arguments = .run a) (stored : Text → Stored)
    (docker : Text → Docker.Program) :
    let ending := run arguments stored docker
    let loaded := Settings.load a.overrides (stored a.configPath)
    (∀ e, loaded = .error e → GivesUp [] ending) ∧
    ∀ s, loaded = .ok s →
      let b := s.backend docker
      let version := b.program (b.arguments .version)
      (∀ f, version = .error f → GivesUp [] ending) ∧
      (∀ f, version = .ok f → f.status ≠ some 0 → GivesUp [b.arguments .version] ending) ∧
      ∀ f, version = .ok f → f.status = some 0 →
        ∃ d r, s.detector = .ok d ∧ r.names = s.services ∧ Refines s b d r ending := by
  intro ending loaded
  refine ⟨fun e refused => run_of_refused accepted refused, fun s finished => ?_⟩
  obtain ⟨d, r, compiled, named, checked⟩ := run_of_loaded docker accepted finished
  intro b version
  have ends : ending = check s d r b := checked
  rw [ends]
  refine ⟨fun f fails => check_of_launch fails, fun f answered => check_of_status answered,
    fun f answered succeeds => ?_⟩
  exact ⟨d, r, compiled, named, refines_of_answer answered succeeds named⟩

def answer (stdout : Text) : Docker.Finished :=
  ⟨stdout.flatMap String.utf8EncodeChar, [], some 0⟩

def errorLog : Text := "up\nERROR 7\n".toList

def handle : Docker.Handle := "c0ffee".toList

/-- A docker with one container. It was killed after it had logged an error. -/
def oneKilled : Docker.Script where
  rules := [⟨"version".toList, none, answer []⟩,
    ⟨"ps".toList, some "name=^/a$".toList, answer (handle ++ [newline])⟩,
    ⟨"ps".toList, none, answer []⟩, ⟨"inspect".toList, some handle, answer Docker.killed⟩,
    ⟨"logs".toList, some handle, answer errorLog⟩]

def killedBackend : Docker.Backend :=
  ⟨oneKilled.program Docker.Script.installed, Docker.Script.installed, servicePlaceholder⟩

/-- The same in memory, where it takes some time to find the container and to look at it. -/
def killedFleet : Fleet := fun name =>
  if name = ['a'] then ⟨⟨1, .value true⟩, ⟨2, .value 137⟩, ⟨0, .value errorLog⟩⟩ else .absent

theorem killed_resolved : killedBackend.resolve ['a'] = .ok (some handle) := by
  have found : killedBackend.ask (.find ['a']) = .ok (handle ++ [newline], []) := by decide
  rw [Docker.Backend.resolve, found]
  rfl

theorem killed_absent : killedBackend.resolve ['b'] = .ok none := by
  have nothing : killedBackend.ask (.find ['b']) = .ok ([], []) := by decide
  rw [Docker.Backend.resolve, nothing]
  rfl

theorem killed_exited : killedBackend.exitCode handle = .ok 137 := by
  have shown : killedBackend.ask (.inspect handle) = .ok (Docker.killed, []) := by decide
  have told := Docker.inspect_spelled_iff.mpr ⟨_, Docker.killed_spells, Docker.killed_tells⟩
  exact (Docker.exitCode_ok_iff shown).mpr ⟨_, told, rfl⟩

theorem killed_logged : killedBackend.logs handle = .ok errorLog := by
  have shown : killedBackend.ask (.logs handle) = .ok (errorLog, []) := by decide
  rw [Docker.Backend.logs, shown]
  rfl

theorem killedFleet_shown {v : Verifier} {r : Registry} (named : r.names = [['a'], ['b']])
    (patient : 3 ≤ v.limit) : killedBackend.Shown v r killedFleet where
  mirrored name registered := by
    rw [named] at registered
    rcases List.mem_pair.mp registered with rfl | rfl
    · refine Docker.Backend.mirrored_of_found killed_resolved rfl ?_ ?_
      · rw [killed_exited]
        rfl
      · rw [killed_logged]
        rfl
    · refine Docker.Backend.mirrored_of_unfound (fun h => by simp [killed_absent]) ?_
      rw [killed_absent]
      rfl
  soon name registered := by
    rw [named] at registered
    rcases List.mem_pair.mp registered with rfl | rfl
    · exact patient
    · exact Nat.zero_le _

def pairSettings : Settings := { Settings.defaults with services := [['a'], ['b']] }

/-- Docker starts for each question of the two checks. -/
theorem killed_questions :
    (Docker.Query.version :: pairSettings.services.flatMap killedBackend.questions).filter
      killedBackend.starts =
        [.version, .find ['a'], .inspect handle, .logs handle, .find ['b']] := by
  have first : killedBackend.questions ['a'] = [.find ['a'], .inspect handle, .logs handle] := by
    simp [Docker.Backend.questions, killed_resolved, killed_exited]
  have second : killedBackend.questions ['b'] = [.find ['b']] := by
    simp [Docker.Backend.questions, killed_absent]
  rw [pairSettings, List.flatMap_cons, List.flatMap_singleton, first, second]
  decide

def killedOutcomes : List Outcome :=
  [⟨['a'], true, some 137, errorLog, [⟨"ERROR".toList, "ERROR 7".toList⟩], none⟩, .unprobed ['b']]

def killedReport : List Text :=
  ["=== a ===", "[AbnormalExit] exit code 137", "[LogSignatureMatch] 1 matching line(s)",
    "--------", "ERROR 7", "--------", "----- log for a (may be truncated) -----", "up", "ERROR 7",
    "----- end of log -----", "", "=== b ===", "[InstanceNotFound] container for b not found", "",
    "FAILED: 2 of 2 services failed: a, b"].map String.toList

/-- A worker in memory finds what docker shows. -/
theorem killed_outcomes (fit : Registry.fault? pairSettings.services = none) :
    let d := Detector.plain pairSettings.signatures
    (((pairSettings.verifier d).withWorkers 1).run ⟨5, .value ()⟩ killedFleet
      ⟨pairSettings.services, fit⟩).outcomes = killedOutcomes := by
  intro d
  have scanned : d.scan errorLog = [⟨"ERROR".toList, "ERROR 7".toList⟩] := by
    rw [scan_plain (by decide)]
    decide
  rw [killedOutcomes, ← scanned]
  rfl

theorem command_refines_verifier_killed :
    let arguments := ["-s", "a", "-s", "b"].map String.toList
    let ending := run arguments (fun _ => .missing) oneKilled.program
    ∃ a, read arguments = .run a ∧ Settings.load a.overrides .missing = .ok pairSettings ∧
      (∃ d r, Refines pairSettings killedBackend d r ending) ∧
      ending.stdout = Report.printed killedReport ∧ ending.code = 1 ∧
      ending.invocations.Perm ([Docker.Query.version, .find ['a'], .inspect handle, .logs handle,
        .find ['b']].map killedBackend.arguments) := by
  intro arguments ending
  have accepted : read arguments = .run { Arguments.none with services := [['a'], ['b']] } := by
    rfl
  refine ⟨_, accepted, rfl, ?_⟩
  have refined := (command_refines_verifier accepted (fun _ => .missing) oneKilled.program).2
    pairSettings rfl
  obtain ⟨d, r, compiled, named, refines⟩ := refined.2.2 _ rfl rfl
  obtain ⟨-, rfl⟩ := compile_literal_iff.mp compiled
  obtain ⟨names, fit⟩ := r
  obtain rfl : names = pairSettings.services := named
  refine ⟨⟨_, _, refines⟩, ?_⟩
  -- What the command prints is read off a run over the fleet in memory, with a single worker.
  have found := (refines.found killedFleet (killedFleet_shown rfl (by decide)) 1).1
  obtain ⟨stdout, code⟩ := (found ⟨5, .value ()⟩ rfl (by decide)).2
  have outcomes := killed_outcomes fit
  refine ⟨?_, ?_, ?_⟩
  · refine stdout.trans ?_
    rw [outcomes]
    exact congrArg Report.printed (by decide)
  · refine code.trans ?_
    rw [outcomes]
    decide
  · rw [← killed_questions]
    exact refines.invocations

end Command

end FleetHealth
