import FleetHealth.Registry

/- What a check found out about one service, why that counts as a failure, and the verdict on
   a whole fleet. -/
namespace FleetHealth

/-- A signature and the lines, carriage returns removed, that it was found in first. -/
structure LineMatch where
  signature : Text
  line : Text
  deriving DecidableEq, Repr

inductive FailureKind where
  | instanceNotFound
  | abnormalExit
  | logSignatureMatch
  deriving DecidableEq, Repr

def FailureKind.name : FailureKind → Text
  | .instanceNotFound => "InstanceNotFound".toList
  | .abnormalExit => "AbnormalExit".toList
  | .logSignatureMatch => "LogSignatureMatch".toList

structure Outcome where
  name : ServiceName
  found : Bool
  exitCode : Option Int
  logText : Text
  matched : List LineMatch
  probeError : Option Text
  deriving DecidableEq, Repr

namespace Outcome

/-- Nothing is known about the service yet. -/
def unprobed (name : ServiceName) : Outcome := ⟨name, false, none, [], [], none⟩

/-- The check of the service never came to an end. -/
def aborted (name : ServiceName) : Outcome :=
  { unprobed name with
    probeError := some "verification task aborted before completing".toList }

def abnormalExit (o : Outcome) : Bool :=
  match o.exitCode with
  | none => false
  | some code => code != 0

def failed (o : Outcome) : Bool := !o.found || o.abnormalExit || !o.matched.isEmpty

def kinds (o : Outcome) : List FailureKind :=
  (if o.found then [] else [.instanceNotFound]) ++
    (if o.abnormalExit then [.abnormalExit] else []) ++
    (if o.matched.isEmpty then [] else [.logSignatureMatch])

end Outcome

structure Verdict where
  anyFailed : Bool
  failedServices : List ServiceName
  total : Nat
  deriving DecidableEq, Repr

namespace Verdict

def ofOutcomes (outcomes : List Outcome) : Verdict :=
  let failed := (outcomes.filter Outcome.failed).map Outcome.name
  ⟨!failed.isEmpty, failed, outcomes.length⟩

/-- The exit status of the program. -/
def exitCode (v : Verdict) : Nat := if v.anyFailed then 1 else 0

end Verdict
end FleetHealth
