import FleetHealth.Settings.Decode
import FleetHealth.Text.Utf8
import FleetHealth.Toml.Document
import FleetHealth.Toml.Position

/- Settings from the text of a configuration and from a configuration file. -/
namespace FleetHealth

inductive ReadFault where
  | notFound
  | isDirectory
  | notText
  | notDirectory
  deriving DecidableEq, Repr

def ReadFault.message : ReadFault → Text
  | .notFound => "No such file or directory (os error 2)".toList
  | .isDirectory => "Is a directory (os error 21)".toList
  | .notText => "stream did not contain valid UTF-8".toList
  | .notDirectory => "Not a directory (os error 20)".toList

inductive ConfigError where
  | unreadable (f : ReadFault)
  | malformed (p : Toml.Position)
  | misshapen (p : Toml.Position) (f : ShapeFault)
  | refused (f : SettingsFault)
  deriving DecidableEq, Repr

namespace ConfigError

/-- Where a document is at fault; what the fault is follows on a line of its own. -/
def positionText (p : Toml.Position) : Text :=
  "Failed to parse config: TOML parse error at line ".toList ++ natText p.line ++
    ", column ".toList ++ natText p.column

def refusal (reason : Text) : Text := "Configuration error: ".toList ++ reason

def message : ConfigError → Text
  | .unreadable f => "Failed to read config file: ".toList ++ f.message
  | .malformed p => positionText p
  | .misshapen p f => positionText p ++ newline :: f.message
  | .refused f =>
    match f with
    | .registry f => refusal f.message
    | .emptySignature => refusal "Failure signatures must not be empty strings".toList
    | .signature p f => "Invalid failure signature: ".toList ++ f.message p
    | .templateWithoutService =>
      refusal ("backend.container_name_template must contain ".toList ++ servicePlaceholder)
    | .noTimeout => refusal "backend.timeout_seconds must be at least 1".toList
    | .noConcurrency => refusal "verifier.concurrency must be at least 1".toList

end ConfigError

namespace Settings

/-- Settings as a document gives them, before anything replaces them. -/
def read (document : Text) : Except ConfigError Settings :=
  match Toml.parse document with
  | .error f => .error (.malformed (Toml.positionOf document f.place))
  | .ok n =>
    match decode n with
    | .error m => .error (.misshapen (Toml.positionOf document (m.place.getD document.length)) m.fault)
    | .ok s => .ok s

/-- Settings are accepted or refused only after the overrides are applied. -/
def finish (o : Overrides) (s : Settings) : Except ConfigError Settings :=
  match (s.override o).accept with
  | .error f => .error (.refused f)
  | .ok s => .ok s

def ofText (o : Overrides) (document : Text) : Except ConfigError Settings := do
  let s ← read document
  s.finish o

end Settings

/-- What is found under the path of a configuration. -/
inductive Stored where
  | missing
  | directory
  | belowFile
  | bytes (content : List UInt8)
  deriving DecidableEq, Repr

/-- A missing file does no harm when the overrides name the services. -/
def Settings.load (o : Overrides) : Stored → Except ConfigError Settings
  | .missing =>
    if o.services.isEmpty then .error (.unreadable .notFound) else Settings.defaults.finish o
  | .directory => .error (.unreadable .isDirectory)
  | .belowFile => .error (.unreadable .notDirectory)
  | .bytes content =>
    match Utf8.decode? content with
    | none => .error (.unreadable .notText)
    | some document => Settings.ofText o document

end FleetHealth
