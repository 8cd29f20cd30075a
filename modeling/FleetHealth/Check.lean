import FleetHealth.Backend
import FleetHealth.Outcome

/- The check of one service against an instance whose answers, and the time they take, are known.
   Three queries are made in order, each only after an answer to the one before that goes on;
   a limit on their time together cuts the check off. Times are whole milliseconds. -/
namespace FleetHealth

inductive Answer (α : Type) where
  | value (a : α)
  | failure (e : BackendError)
  | crash
  deriving Repr

/-- A query: it takes `delay`, then it is answered. -/
structure Step (α : Type) where
  delay : Nat
  answer : Answer α
  deriving Repr

/-- `resolve` answers whether an instance exists at all. -/
structure Instance where
  resolve : Step Bool
  exitCode : Step Int
  logs : Step Text
  deriving Repr

/-- A service that runs nowhere. -/
def Instance.absent : Instance := ⟨⟨0, .value false⟩, ⟨0, .value 0⟩, ⟨0, .value []⟩⟩

abbrev Fleet := ServiceName → Instance

inductive Stage where
  | resolve
  | exitCode
  | logs
  deriving DecidableEq, Repr

def Stage.name : Stage → Text
  | .resolve => "resolve".toList
  | .exitCode => "exit_code".toList
  | .logs => "logs".toList

def Stage.failureLabel : Stage → Text
  | .resolve => "instance lookup failed".toList
  | .exitCode => "exit code query failed".toList
  | .logs => "log retrieval failed".toList

/-- How a check went: its outcome unless it crashed, the queries begun, and its length. -/
structure Check where
  outcome : Option Outcome
  queries : List Stage
  duration : Nat
  deriving DecidableEq, Repr

namespace Check

def crashed (c : Check) : Bool := c.outcome.isNone

/-- The outcome that is reported when the check has no outcome of its own. -/
def report (c : Check) (name : ServiceName) : Outcome := c.outcome.getD (.aborted name)

def interrupted (o : Outcome) (reason : Text) : Outcome :=
  { o with found := false, probeError := some reason }

/-- The query of `stage` failed, and what earlier queries found out is kept. -/
def failedAt (o : Outcome) (stage : Stage) (e : BackendError) : Outcome :=
  interrupted o (stage.failureLabel ++ ": ".toList ++ e.message)

def timedOut (o : Outcome) (limit : Nat) : Outcome :=
  interrupted o (BackendError.timeout (.ofMillis limit)).message

/-- The limit, if `now` is behind it. -/
def overrun (limit : Option Nat) (now : Nat) : Option Nat := limit.filter (· < now)

/-- One query of a check that began it with evidence `o`, after `past` and the queries `before`. -/
def query {α : Type} (limit : Option Nat) (o : Outcome) (past : Nat) (before : List Stage)
    (stage : Stage) (step : Step α) (go : α → Check) : Check :=
  match overrun limit (past + step.delay), step.answer with
  | some l, _ => ⟨some (timedOut o l), before ++ [stage], l⟩
  | none, .crash => ⟨none, before ++ [stage], past + step.delay⟩
  | none, .failure e => ⟨some (failedAt o stage e), before ++ [stage], past + step.delay⟩
  | none, .value a => go a

/-- The log is there, and with it all the evidence. -/
def readLog (scan : Text → List LineMatch) (o : Outcome) (log : Text) : Outcome :=
  { o with logText := log, matched := scan log }

/-- The check of `name`; without a limit it takes as long as its queries. -/
def run (scan : Text → List LineMatch) (limit : Option Nat) (name : ServiceName)
    (i : Instance) : Check :=
  let blank := Outcome.unprobed name
  let resolved := i.resolve.delay
  let inspected := resolved + i.exitCode.delay
  query limit blank 0 [] .resolve i.resolve fun found =>
    if !found then ⟨some blank, [.resolve], resolved⟩
    else
      let known := { blank with found := true }
      query limit known resolved [.resolve] .exitCode i.exitCode fun code =>
        let ended := { known with exitCode := some code }
        query limit ended inspected [.resolve, .exitCode] .logs i.logs fun log =>
          ⟨some (readLog scan ended log), [.resolve, .exitCode, .logs], inspected + i.logs.delay⟩

/-- A check says nothing of other services, and never that it came to no end. -/
def Own (name : ServiceName) (o : Outcome) : Prop := o.name = name ∧ o ≠ .aborted name

theorem overrun_some (limit now : Nat) :
    overrun (some limit) now = if limit < now then some limit else none := by
  simp [overrun, Option.filter]

theorem own_interrupted {o : Outcome} {name : ServiceName} {reason : Text} (named : o.name = name)
    (other : reason.head? ≠ some 'v') : Own name (interrupted o reason) := by
  refine ⟨named, fun same => other ?_⟩
  have reasons : some reason = some "verification task aborted before completing".toList :=
    congrArg Outcome.probeError same
  rw [Option.some.inj reasons]
  rfl

theorem own_timedOut {o : Outcome} {name : ServiceName} (named : o.name = name) (limit : Nat) :
    Own name (timedOut o limit) :=
  own_interrupted named nofun

theorem own_failedAt {o : Outcome} {name : ServiceName} (named : o.name = name) (stage : Stage)
    (e : BackendError) : Own name (failedAt o stage e) :=
  own_interrupted named (by cases stage <;> nofun)

theorem own_unbroken {o : Outcome} {name : ServiceName} (named : o.name = name)
    (unbroken : o.probeError = none) : Own name o := by
  refine ⟨named, fun same => ?_⟩
  simp [same, Outcome.aborted] at unbroken

theorem query_own {α : Type} {limit : Option Nat} {o : Outcome} {past : Nat} {before : List Stage}
    {stage : Stage} {step : Step α} {go : α → Check} {name : ServiceName} (named : o.name = name)
    (goes : ∀ a, ∀ r ∈ (go a).outcome, Own name r) :
    ∀ r ∈ (query limit o past before stage step go).outcome, Own name r := by
  intro r mem
  unfold query at mem
  split at mem
  · exact Option.some.inj mem ▸ own_timedOut named _
  · simp at mem
  · exact Option.some.inj mem ▸ own_failedAt named _ _
  · exact goes _ r mem

theorem run_own (scan : Text → List LineMatch) (limit : Option Nat) (name : ServiceName)
    (i : Instance) : ∀ r ∈ (run scan limit name i).outcome, Own name r := by
  refine query_own rfl fun found => ?_
  split
  · intro r mem
    exact Option.some.inj mem ▸ own_unbroken rfl rfl
  · refine query_own rfl fun code => query_own rfl fun log r mem => ?_
    exact Option.some.inj mem ▸ own_unbroken rfl rfl

end Check
end FleetHealth
