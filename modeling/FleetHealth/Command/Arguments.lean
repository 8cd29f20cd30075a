import FleetHealth.Settings.Basic

/- The arguments of the command. They are read from left to right, and the first one that asks for
   help, for the version, or for something that does not exist decides. -/
namespace FleetHealth.Command

def defaultConfig : Text := "config/fleetcheck.toml".toList

inductive OptionName where
  | config
  | logLevel
  | service
  | signature
  | concurrency
  | timeout
  deriving DecidableEq, Repr

inductive Notice where
  | help
  | version
  deriving DecidableEq, Repr

/-- What a name on the command line stands for. -/
inductive Meaning where
  | option (o : OptionName)
  | notice (n : Notice)
  deriving DecidableEq, Repr

def longNames : List (String × Meaning) := [
  ("config", .option .config),
  ("log-level", .option .logLevel),
  ("service", .option .service),
  ("signature", .option .signature),
  ("concurrency", .option .concurrency),
  ("timeout", .option .timeout),
  ("help", .notice .help),
  ("version", .notice .version)]

def shortNames : List (Char × Meaning) := [
  ('c', .option .config),
  ('l', .option .logLevel),
  ('s', .option .service),
  ('h', .notice .help),
  ('V', .notice .version)]

def longMeaning? (name : Text) : Option Meaning :=
  (longNames.find? fun p => p.1.toList == name).map Prod.snd

def shortMeaning? (c : Char) : Option Meaning := shortNames.lookup c

structure Arguments where
  config : Option Text
  logLevel : Option Text
  services : List Text
  signatures : List Text
  concurrency : Option Nat
  timeout : Option Nat
  deriving DecidableEq, Repr

def Arguments.none : Arguments := ⟨.none, .none, [], [], .none, .none⟩

def Arguments.configPath (a : Arguments) : Text := a.config.getD defaultConfig

def Arguments.overrides (a : Arguments) : Overrides :=
  ⟨a.services, a.signatures, a.concurrency, a.timeout⟩

/-- A value that may be given only once. -/
def once {α : Type} (earlier : Option α) (value : Option α) : Option (Option α) :=
  if earlier.isSome || value.isNone then none else some value

def Arguments.set (a : Arguments) (o : OptionName) (value : Text) : Option Arguments :=
  match o with
  | .config => (once a.config (some value)).map fun v => { a with config := v }
  | .logLevel => (once a.logLevel (some value)).map fun v => { a with logLevel := v }
  | .service => some { a with services := a.services ++ [value] }
  | .signature => some { a with signatures := a.signatures ++ [value] }
  | .concurrency =>
    (once a.concurrency (parseWord? value)).map fun v => { a with concurrency := v }
  | .timeout => (once a.timeout (parseWord? value)).map fun v => { a with timeout := v }

/-- How an argument list ends: in a run, in a notice, or in a refusal. -/
inductive Reading where
  | run (a : Arguments)
  | notice (n : Notice)
  | refused
  deriving DecidableEq, Repr

/-- One argument: an option with or without its value, a notice, the mark behind which no options
stand, or something that has no meaning here. -/
inductive Word where
  | complete (o : OptionName) (value : Text)
  | awaiting (o : OptionName)
  | notice (n : Notice)
  | endOfOptions
  | unknown
  deriving DecidableEq, Repr

def longWord (name : Text) (value : Option Text) : Word :=
  match longMeaning? name, value with
  | some (.option o), some v => .complete o v
  | some (.option o), none => .awaiting o
  | some (.notice n), none => .notice n
  | _, _ => .unknown

/-- The first letter decides, because an option takes all that follows it as its value. -/
def shortWord (c : Char) (rest : Text) : Word :=
  match shortMeaning? c, rest with
  | some (.option o), [] => .awaiting o
  | some (.option o), '=' :: value => .complete o value
  | some (.option o), value => .complete o value
  | some (.notice n), _ => .notice n
  | none, _ => .unknown

def wordOf (t : Text) : Word :=
  match t with
  | ['-', '-'] => .endOfOptions
  | '-' :: '-' :: r =>
    let name := r.takeWhile (· != '=')
    match r.drop name.length with
    | _ :: value => longWord name (some value)
    | [] => longWord name none
  | '-' :: c :: r => shortWord c r
  | _ => .unknown

/-- An option does not take what looks like another option as its value. -/
def isValue : Text → Bool
  | ['-'] => true
  | '-' :: _ => false
  | _ => true

/-- `pending` is an option whose value comes next. -/
def readFrom (a : Arguments) (pending : Option OptionName) : List Text → Reading
  | [] => if pending.isSome then .refused else .run a
  | t :: rest =>
    match pending with
    | some o =>
      if isValue t then
        match a.set o t with
        | some a => readFrom a none rest
        | none => .refused
      else .refused
    | none =>
      match wordOf t with
      | .complete o value =>
        match a.set o value with
        | some a => readFrom a none rest
        | none => .refused
      | .awaiting o => readFrom a (some o) rest
      | .notice n => .notice n
      | .endOfOptions => if rest.isEmpty then .run a else .refused
      | .unknown => .refused

def read (arguments : List Text) : Reading := readFrom .none none arguments

end FleetHealth.Command
