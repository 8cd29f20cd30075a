import FleetHealth.Text.Utf8

/- The docker executable as seen from outside: given arguments, it does not start, or it ends with
   what it wrote. -/
namespace FleetHealth.Docker

/-- The status is missing when the executable was ended by a signal. -/
structure Finished where
  stdout : List UInt8
  stderr : List UInt8
  status : Option Nat
  deriving DecidableEq, Repr

inductive LaunchFault where
  | notFound
  | notAllowed
  | nulByte
  deriving DecidableEq, Repr

def LaunchFault.message : LaunchFault → Text
  | .notFound => "No such file or directory (os error 2)".toList
  | .notAllowed => "Permission denied (os error 13)".toList
  | .nulByte => "nul byte found in provided data".toList

abbrev Program := List Text → Except LaunchFault Finished

/-- A prepared answer to invocations that begin with `subcommand` and, if it is given, have
`argument` among their arguments. -/
structure Rule where
  subcommand : Text
  argument : Option Text
  answer : Finished
  deriving DecidableEq, Repr

def Rule.fits (r : Rule) (arguments : List Text) : Bool :=
  arguments.head? == some r.subcommand &&
    match r.argument with
    | some a => arguments.contains a
    | none => true

/-- The answer to an invocation for which nothing is prepared. -/
def unprepared : Finished := ⟨[], "no rule".toUTF8.toList, some 125⟩

/-- Rules that answer invocations of `binary`, the first that fits. No other name can be started;
one that names nothing but directories is no executable. -/
structure Script where
  rules : List Rule
  deriving Repr

namespace Script

def installed : Text := "docker".toList

def hasNul (t : Text) : Bool := t.any (· == '\x00')

/-- Whether a path leads nowhere but to directories that are always there. -/
def namesDirectory (path : Text) : Bool :=
  !path.isEmpty && (piecesAt '/' path).all fun n => n.isEmpty || n == ['.'] || n == ['.', '.']

def program (s : Script) (binary : Text) : Program := fun arguments =>
  if hasNul binary || arguments.any hasNul then .error .nulByte
  else if binary != installed then
    .error (if namesDirectory binary then .notAllowed else .notFound)
  else .ok (((s.rules.find? (·.fits arguments)).map Rule.answer).getD unprepared)

end Script
end FleetHealth.Docker
