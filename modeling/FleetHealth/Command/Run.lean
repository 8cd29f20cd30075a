import FleetHealth.Command.Arguments
import FleetHealth.Docker.Backend
import FleetHealth.Report
import FleetHealth.Settings.Load

/- What the command does: it reads its settings, asks docker about every service, prints the report
   and ends with the verdict. Everything that it needs from outside is given: what is stored under
   the path of the configuration, and the docker executable of a name. -/
namespace FleetHealth.Command

def name : Text := "fleetcheck".toList

/-- How the command ends. The invocations of docker are in no particular order. -/
structure Ending where
  code : Nat
  stdout : Text
  message : Option Text
  invocations : List (List Text)
  deriving DecidableEq, Repr

def Ending.failed (message : Text) (invocations : List (List Text)) : Ending :=
  ⟨1, [], some (name ++ ": ".toList ++ message), invocations⟩

def versionText : Text := name ++ " 0.1.0\n".toList

/-- An option, the value that it takes, and what it is for. -/
def helpEntries : List (String × String) := [
  ("  -c, --config <CONFIG>", "Path to configuration file [default: config/fleetcheck.toml]"),
  ("  -l, --log-level <LOG_LEVEL>",
    "Log level filter (default: \"fleetcheck=warn\", or RUST_LOG when set)"),
  ("  -s, --service <NAME>", "Service to verify (repeatable, replaces the configured registry)"),
  ("      --signature <PATTERN>", "Failure signature (repeatable, replaces the configured set)"),
  ("      --concurrency <CONCURRENCY>", "Number of services checked concurrently"),
  ("      --timeout <SECS>", "Per-service backend timeout in seconds"),
  ("  -h, --help", "Print help"),
  ("  -V, --version", "Print version")]

def helpText : Text :=
  ("fleetcheck: verify that no service in the fleet failed, crashed, or logged an error\n\n" ++
    "Usage: fleetcheck [OPTIONS]\n\nOptions:\n").toList ++
    helpEntries.flatMap fun (option, purpose) =>
      option.toList ++ List.replicate (35 - option.length) ' ' ++ purpose.toList ++ [newline]

def usageText : Text :=
  "Usage: fleetcheck [OPTIONS]\n\nFor more information, try '--help'.\n".toList

/-- The invocations that a run led to, without those that docker could not be started for. -/
def invocationsOf (b : Docker.Backend) (r : Run) : List (List Text) :=
  let asked := r.queries.flatMap fun (service, stages) => stages.filterMap (b.queryOf? service)
  ((Docker.Query.version :: asked).filter b.starts).map b.arguments

/-- A run with accepted settings. -/
def check (s : Settings) (d : Detector) (r : Registry) (b : Docker.Backend) : Ending :=
  match b.ping with
  | .error e => .failed (unavailableMessage e.message) (invocationsOf b (.unavailable e.message 0))
  | .ok () =>
    let run := (s.verifier d).run ⟨0, .value ()⟩ b.instanceOf r
    let verdict := Verdict.ofOutcomes run.outcomes
    ⟨verdict.exitCode, Report.render s.maxLogLines run.outcomes verdict, none, invocationsOf b run⟩

/-- A run with given arguments. -/
def start (a : Arguments) (stored : Stored) (docker : Text → Docker.Program) : Ending :=
  let refused (e : ConfigError) : Ending :=
    .failed (a.configPath ++ ": ".toList ++ e.message) []
  match Settings.load a.overrides stored with
  | .error e => refused e
  | .ok s =>
    match Registry.ofNames s.services, s.detector with
    | .error f, _ => refused (.refused (.registry f))
    | _, .error (p, f) => refused (.refused (.signature p f))
    | .ok r, .ok d => check s d r ⟨docker s.dockerBinary, s.dockerBinary, s.containerTemplate⟩

def run (arguments : List Text) (stored : Text → Stored) (docker : Text → Docker.Program) :
    Ending :=
  match read arguments with
  | .refused => ⟨2, [], some usageText, []⟩
  | .notice .help => ⟨0, helpText, none, []⟩
  | .notice .version => ⟨0, versionText, none, []⟩
  | .run a => start a (stored a.configPath) docker

/-- The first line of the message of a command that got as far as running. -/
def Ending.diagnostic (e : Ending) : Option Text :=
  if e.code = 2 then none else e.message.map fun m => m.takeWhile (· != newline)

end FleetHealth.Command
