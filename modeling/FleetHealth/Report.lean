import FleetHealth.Outcome
import FleetHealth.Text.Lines

/- The report on a run: a block per service, each followed by a blank line, and one line that
   sums the run up. A block is a list of lines; only the report as a whole is a text. -/
namespace FleetHealth.Report

def separator : Text := "--------".toList

def logHeader (name : ServiceName) : Text :=
  "----- log for ".toList ++ name ++ " (may be truncated) -----".toList

def logFooter : Text := "----- end of log -----".toList

def omission (count : Nat) : Text :=
  "... (".toList ++ natText count ++ " earlier lines omitted)".toList

/-- How many lines a limit leaves out at the front. -/
def skipped (limit : Option Nat) (lines : List Text) : Nat :=
  match limit with
  | some n => lines.length - n
  | none => 0

def logBody (limit : Option Nat) (log : Text) : List Text :=
  let lines := readLines log
  let skip := skipped limit lines
  (if 0 < skip then [omission skip] else []) ++ lines.drop skip

def logSection (limit : Option Nat) (o : Outcome) : List Text :=
  logHeader o.name :: logBody limit o.logText ++ [logFooter]

def diagnostic (o : Outcome) : FailureKind → List Text
  | .instanceNotFound =>
    ("[InstanceNotFound] container for ".toList ++ o.name ++ " not found".toList) ::
      match o.probeError with
      | none => []
      | some reason => ["  reason: ".toList ++ reason]
  | .abnormalExit => ["[AbnormalExit] exit code ".toList ++ intText (o.exitCode.getD 0)]
  | .logSignatureMatch =>
    ("[LogSignatureMatch] ".toList ++ natText o.matched.length ++ " matching line(s)".toList) ::
      o.matched.flatMap fun m => [separator, m.line, separator]

def header (name : ServiceName) : Text := "=== ".toList ++ name ++ " ===".toList

/-- The log is shown when the exit code or the log itself is a reason to fail. -/
def block (limit : Option Nat) (o : Outcome) : List Text :=
  header o.name ::
    if o.kinds.isEmpty then ["OK".toList]
    else
      o.kinds.flatMap (diagnostic o) ++
        if o.abnormalExit || !o.matched.isEmpty then logSection limit o else []

def summary (v : Verdict) : Text :=
  if v.anyFailed then
    "FAILED: ".toList ++ natText v.failedServices.length ++ " of ".toList ++ natText v.total ++
      " services failed: ".toList ++ joinWith ", ".toList v.failedServices
  else "All ".toList ++ natText v.total ++ " services healthy".toList

def lines (limit : Option Nat) (outcomes : List Outcome) (v : Verdict) : List Text :=
  outcomes.flatMap (fun o => block limit o ++ [[]]) ++ [summary v]

def render (limit : Option Nat) (outcomes : List Outcome) (v : Verdict) : Text :=
  (lines limit outcomes v).flatMap (· ++ [newline])

end FleetHealth.Report
