import FleetHealth.Check
import FleetHealth.Docker.Inspect
import FleetHealth.Docker.Program
import FleetHealth.Pattern.Compile
import FleetHealth.Settings.Basic
import FleetHealth.Text.Lines

/- The questions of a check, put to docker: what it is asked, and what its answers mean. -/
namespace FleetHealth.Docker

/-- The identifier of a container. -/
abbrev Handle := Text

inductive Query where
  | version
  | find (service : ServiceName)
  | inspect (h : Handle)
  | logs (h : Handle)
  deriving DecidableEq, Repr

/-- The docker executable, its name, and how containers are named. -/
structure Backend where
  program : Program
  binary : Text
  template : Text

/-- Why a question was not answered. -/
inductive Trouble where
  | launch (f : LaunchFault)
  | status (commandLine : Text) (code : Int) (stderr : Text)
  | output (f : InspectFault) (document : Text)
  deriving DecidableEq, Repr

def Trouble.error : Trouble → BackendError
  | .launch f => .io f.message
  | .status commandLine code stderr => .command commandLine code stderr
  | .output f document => .parse (f.message document)

/-- A filter on container names that only the whole name passes. -/
def nameFilter (container : Text) : Text :=
  "name=^/".toList ++ Pattern.escape container ++ "$".toList

/-- The identifier on the first line that is not blank. -/
def containerId? (stdout : Text) : Option Handle :=
  ((readLines stdout).map trim).find? fun l => !l.isEmpty

/-- The log of a container; what it wrote as errors follows on a line of its own. -/
def joinStreams (stdout stderr : Text) : Text :=
  if stderr.isEmpty then stdout
  else if stdout.isEmpty then stderr
  else if stdout.getLast? = some newline then stdout ++ stderr
  else stdout ++ newline :: stderr

namespace Backend

def format (field : String) : List Text :=
  ["--format".toList, "\x7b\x7b.".toList ++ field.toList ++ "\x7d\x7d".toList]

def arguments (b : Backend) : Query → List Text
  | .version => "version".toList :: format "Server.Version"
  | .find service =>
    ["ps".toList, "-a".toList, "--no-trunc".toList, "--filter".toList,
      nameFilter (Settings.nameFrom b.template service)] ++ format "ID"
  | .inspect h => ["inspect".toList, h]
  | .logs h => ["logs".toList, h]

def commandLine (b : Backend) (arguments : List Text) : Text :=
  b.binary ++ ' ' :: joinWith [' '] arguments

/-- What a question that ends well writes: its output and its errors. -/
def ask (b : Backend) (q : Query) : Except Trouble (Text × Text) :=
  match b.program (b.arguments q) with
  | .error f => .error (.launch f)
  | .ok e =>
    let stderr := Utf8.decodeLossy e.stderr
    if e.status = some 0 then .ok (Utf8.decodeLossy e.stdout, stderr)
    else
      let code : Int := match e.status with
        | some n => n
        | none => -1
      .error (.status (b.commandLine (b.arguments q)) code (trim stderr))

/-- Any trouble with the first question makes the whole backend unavailable. -/
def ping (b : Backend) : Except BackendError Unit :=
  match b.ask .version with
  | .ok _ => .ok ()
  | .error t => .error (.unavailable t.error.message)

def resolve (b : Backend) (service : ServiceName) : Except Trouble (Option Handle) :=
  (b.ask (.find service)).map fun (stdout, _) => containerId? stdout

def exitCode (b : Backend) (h : Handle) : Except Trouble Int := do
  let (stdout, _) ← b.ask (.inspect h)
  match inspect stdout with
  | .ok s => .ok s.exitCode
  | .error f => .error (.output f stdout)

def logs (b : Backend) (h : Handle) : Except Trouble Text :=
  (b.ask (.logs h)).map fun (stdout, stderr) => joinStreams stdout stderr

/-- A step that docker answers at once. -/
def step {α : Type} : Except Trouble α → Step α
  | .ok a => ⟨0, .value a⟩
  | .error t => ⟨0, .failure t.error⟩

/-- The container of a service as an instance. Without a container the later questions are never
asked. -/
def instanceOf (b : Backend) (service : ServiceName) : Instance :=
  match b.resolve service with
  | .ok (some h) => ⟨step (.ok true), step (b.exitCode h), step (b.logs h)⟩
  | .ok none => .absent
  | .error t => { Instance.absent with resolve := step (.error t) }

/-- The question behind a stage of the check of a service. -/
def queryOf? (b : Backend) (service : ServiceName) : Stage → Option Query
  | .resolve => some (.find service)
  | .exitCode =>
    match b.resolve service with
    | .ok (some h) => some (.inspect h)
    | _ => none
  | .logs =>
    match b.resolve service with
    | .ok (some h) => some (.logs h)
    | _ => none

/-- Whether docker starts at all for a question. -/
def starts (b : Backend) (q : Query) : Bool := (b.program (b.arguments q)).toBool

end Backend
end FleetHealth.Docker
