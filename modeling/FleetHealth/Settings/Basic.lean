import FleetHealth.Registry
import FleetHealth.Signature.Detector
import FleetHealth.Verifier

/- The settings of a run, what may replace them, and when they are accepted. -/
namespace FleetHealth

/-- The text that stands for the name of a service in a container name template. -/
def servicePlaceholder : Text := "\x7bservice\x7d".toList

structure Settings where
  services : List ServiceName
  signatures : List Text
  literal : Bool
  dockerBinary : Text
  containerTemplate : Text
  timeoutSeconds : Nat
  concurrency : Nat
  maxLogLines : Option Nat
  logFormat : Text
  deriving DecidableEq, Repr

/-- Values that take the place of configured ones; an empty list replaces nothing. -/
structure Overrides where
  services : List ServiceName
  signatures : List Text
  concurrency : Option Nat
  timeoutSeconds : Option Nat
  deriving DecidableEq, Repr

def Overrides.none : Overrides := ⟨[], [], Option.none, Option.none⟩

inductive SettingsFault where
  | registry (f : RegistryFault)
  | emptySignature
  | signature (pattern : Text) (f : Pattern.Fault)
  | templateWithoutService
  | noTimeout
  | noConcurrency
  deriving DecidableEq, Repr

namespace Settings

def defaultSignatures : List Text :=
  ["FileNotFoundError", "Traceback", "ERROR", "Errno"].map String.toList

def defaultLiteral : Bool := true

def defaultDockerBinary : Text := "docker".toList

def defaultTemplate : Text := servicePlaceholder

def defaultTimeout : Nat := 30

def defaultConcurrency : Nat := 8

def defaultLogFormat : Text := "text".toList

/-- The settings of a run for which nothing is written. -/
def defaults : Settings where
  services := []
  signatures := defaultSignatures
  literal := defaultLiteral
  dockerBinary := defaultDockerBinary
  containerTemplate := defaultTemplate
  timeoutSeconds := defaultTimeout
  concurrency := defaultConcurrency
  maxLogLines := none
  logFormat := defaultLogFormat

def override (o : Overrides) (s : Settings) : Settings :=
  { s with
    services := if o.services.isEmpty then s.services else o.services
    signatures := if o.signatures.isEmpty then s.signatures else o.signatures
    concurrency := o.concurrency.getD s.concurrency
    timeoutSeconds := o.timeoutSeconds.getD s.timeoutSeconds }

/-- Each occurrence of the placeholder gives way to the name of the service. -/
def nameFrom (template : Text) (service : ServiceName) : Text :=
  replaceAll servicePlaceholder service template

def containerName (s : Settings) (service : ServiceName) : Text :=
  nameFrom s.containerTemplate service

/-- Whether log output is structured. -/
def isJson (s : Settings) : Bool := sameIgnoringAsciiCase s.logFormat "json".toList

def detector (s : Settings) : Except (Text × Pattern.Fault) Detector :=
  Detector.compile s.literal s.signatures

/-- What the values other than names and signatures are refused for. -/
def valueFault? (s : Settings) : Option SettingsFault :=
  if !Text.contains servicePlaceholder s.containerTemplate then some .templateWithoutService
  else if s.timeoutSeconds = 0 then some .noTimeout
  else if s.concurrency = 0 then some .noConcurrency
  else none

/-- The first reason for which settings are refused. -/
def fault? (s : Settings) : Option SettingsFault :=
  match Registry.fault? s.services with
  | some f => some (.registry f)
  | none =>
    if s.signatures.any List.isEmpty then some .emptySignature
    else
      match s.detector with
      | .error (p, f) => some (.signature p f)
      | .ok _ => s.valueFault?

def accept (s : Settings) : Except SettingsFault Settings :=
  match s.fault? with
  | some f => .error f
  | none => .ok s

/-- The verifier of accepted settings. -/
def verifier (s : Settings) (d : Detector) : Verifier :=
  ⟨d.scan, s.timeoutSeconds * 1000, s.concurrency⟩

end Settings
end FleetHealth
