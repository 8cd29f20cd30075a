import FleetHealth.Number.Shortest
import FleetHealth.Settings.Basic
import FleetHealth.Shape
import FleetHealth.Toml.Value

/- Settings from a document. Keys are read in the order of the document, and the first one that
   does not fit is the fault; keys that mean nothing are passed over. A section may also be written
   as the list of its values in their order. -/
namespace FleetHealth.Settings

open Toml (Node Scalar)

/-- Something that does not fit, and where it begins. -/
structure Misfit where
  fault : ShapeFault
  place : Option Toml.Left
  deriving DecidableEq, Repr

def foundIn : Node → Found
  | .scalar _ (.text t) => .text t
  | .scalar _ (.integer n) => .integer n
  | .scalar _ (.float x) => .float x.plainText
  | .scalar _ (.boolean b) => .boolean b
  | .scalar _ .date => .map
  | .array _ _ | .tables _ => .sequence
  | .table _ _ _ => .map

def wrongType {α : Type} (n : Node) (wanted : Text) : Except Misfit α :=
  .error ⟨.wrongType (foundIn n) wanted, n.start?⟩

def readText : Node → Except Misfit Text
  | .scalar _ (.text t) => .ok t
  | n => wrongType n "a string".toList

def readBool : Node → Except Misfit Bool
  | .scalar _ (.boolean b) => .ok b
  | n => wrongType n "a boolean".toList

/-- A whole number that is not negative; `kind` is what the message calls it. -/
def readCount (kind : String) : Node → Except Misfit Nat
  | .scalar start (.integer (.negSucc n)) =>
    .error ⟨.wrongValue (.integer (.negSucc n)) kind.toList, some start⟩
  | .scalar _ (.integer (.ofNat n)) => .ok n
  | n => wrongType n kind.toList

/-- The items of a list. -/
def itemsOf? : Node → Option (List Node)
  | .array _ items => some items
  | .tables items => some items
  | _ => none

def readTexts (n : Node) : Except Misfit (List Text) :=
  match itemsOf? n with
  | some items => items.mapM readText
  | none => wrongType n "a sequence".toList

/-- A named value of a section, and what settings are in which it is not written. In a list of values
one that has a default may be left out at the end. -/
structure Field where
  name : String
  hasDefault : Bool
  unset : Settings → Settings
  read : Node → Settings → Except Misfit Settings

def Field.of {α : Type} (name : String) (hasDefault : Bool) (unwritten : α)
    (read : Node → Except Misfit α) (put : α → Settings → Settings) : Field :=
  ⟨name, hasDefault, put unwritten, fun n s => (read n).map fun v => put v s⟩

/-- `absent` is what settings are in which there is no such section. -/
structure Section where
  name : String
  fields : List Field
  absent : Settings → Settings

namespace Section

/-- Values by name. -/
def readEntries (sec : Section) : Toml.Entries → Settings → Except Misfit Settings
  | [], s => .ok s
  | (k, n) :: rest, s =>
    match sec.fields.find? fun f => f.name.toList == k.name with
    | none => readEntries sec rest s
    | some f =>
      match f.read n s with
      | .ok s => readEntries sec rest s
      | .error m => .error { m with place := some (m.place.getD k.start) }

/-- Values by order; `index` is how many have been read. What is left behind the last field means
nothing. -/
def readItems (sec : Section) (place : Option Toml.Left) (index : Nat) :
    List Field → List Node → Settings → Except Misfit Settings
  | [], _, s => .ok s
  | f :: fs, n :: ns, s => do
    let s ← f.read n s
    readItems sec place (index + 1) fs ns s
  | f :: fs, [], s =>
    if f.hasDefault then readItems sec place (index + 1) fs [] s
    else
      .error ⟨.wrongLength index (recordOfLength sec.name.toList sec.fields.length), place⟩

/-- A section in which nothing is written yet. -/
def reset (sec : Section) (s : Settings) : Settings := sec.fields.foldl (fun s f => f.unset s) s

/-- A date counts as a table in which nothing has a meaning. -/
def read (sec : Section) (n : Node) (s : Settings) : Except Misfit Settings :=
  match n with
  | .table _ _ entries => sec.readEntries entries (sec.reset s)
  | .scalar _ .date => .ok (sec.reset s)
  | n =>
    match itemsOf? n with
    | some items => sec.readItems n.start? 0 sec.fields items (sec.reset s)
    | none => wrongType n (recordName sec.name.toList)

end Section

def registrySection : Section where
  name := "RegistryConfig"
  fields := [.of "services" true [] readTexts fun v s => { s with services := v }]
  absent := fun s => { s with services := defaults.services }

def detectorSection : Section where
  name := "DetectorConfig"
  fields := [
    .of "signatures" true defaultSignatures readTexts fun v s => { s with signatures := v },
    .of "literal" true defaultLiteral readBool fun v s => { s with literal := v }]
  absent := fun s => { s with signatures := defaults.signatures, literal := defaults.literal }

def backendSection : Section where
  name := "BackendConfig"
  fields := [
    .of "docker_binary" true defaultDockerBinary readText fun v s => { s with dockerBinary := v },
    .of "container_name_template" true defaultTemplate readText
      fun v s => { s with containerTemplate := v },
    .of "timeout_seconds" true defaultTimeout (readCount "u64")
      fun v s => { s with timeoutSeconds := v }]
  absent := fun s =>
    { s with
      dockerBinary := defaults.dockerBinary
      containerTemplate := defaults.containerTemplate
      timeoutSeconds := defaults.timeoutSeconds }

def verifierSection : Section where
  name := "VerifierConfig"
  fields := [
    .of "concurrency" true defaultConcurrency (readCount "usize")
      fun v s => { s with concurrency := v }]
  absent := fun s => { s with concurrency := defaults.concurrency }

def reportSection : Section where
  name := "ReportConfig"
  fields := [
    .of "max_log_lines" false none (fun n => (readCount "usize" n).map some)
      fun v s => { s with maxLogLines := v }]
  absent := fun s => { s with maxLogLines := defaults.maxLogLines }

def loggingSection : Section where
  name := "LoggingConfig"
  fields := [.of "format" true defaultLogFormat readText fun v s => { s with logFormat := v }]
  absent := fun s => { s with logFormat := defaults.logFormat }

def registryKey : String := "registry"

def sections : List (String × Section) := [
  (registryKey, registrySection),
  ("detector", detectorSection),
  ("backend", backendSection),
  ("verifier", verifierSection),
  ("report", reportSection),
  ("logging", loggingSection)]

def documentSection : Section where
  name := "AppConfig"
  fields := sections.map fun (key, sec) => ⟨key, key != registryKey, sec.absent, sec.read⟩
  absent := fun _ => defaults

/-- The settings in a document; only the registry must be there. -/
def decode (document : Node) : Except Misfit Settings := do
  let s ← documentSection.read document .defaults
  match document with
  | .table start _ entries =>
    if (Toml.Entries.find? entries registryKey.toList).isNone then
      .error ⟨.missingField registryKey.toList, start⟩
    else .ok s
  | _ => .ok s

end FleetHealth.Settings
