import FleetHealth.Settings.Load

/- Files under a directory, found by paths relative to it. -/
namespace FleetHealth.Command

/-- A file and the names on the way to it. -/
structure File where
  path : List Text
  content : List UInt8
  deriving DecidableEq, Repr

/-- The names between the slashes of a path. -/
def namesOf (path : Text) : List Text := piecesAt '/' path

/-- Follows names from a directory; none when they lead out of the directory at the root. -/
def follow (reached : List Text) : List Text → Option (List Text)
  | [] => some reached
  | n :: rest =>
    if n.isEmpty || n == ['.'] then follow reached rest
    else if n == ['.', '.'] then
      if reached.isEmpty then none else follow reached.dropLast rest
    else follow (reached ++ [n]) rest

/-- What is found under a path of names that all count. -/
def lookUp (files : List File) (names : List Text) (mustBeDirectory : Bool) : Stored :=
  match files.find? fun f => f.path == names with
  | some f => if mustBeDirectory then .belowFile else .bytes f.content
  | none =>
    if names.isEmpty || files.any (fun f => names.isPrefixOf f.path) then .directory
    else if files.any (fun f => f.path.isPrefixOf names) then .belowFile
    else .missing

/-- What a command that runs in the directory finds; outside there is nothing but the root. -/
def find (files : List File) (path : Text) : Stored :=
  match path with
  | [] => .missing
  | '/' :: r => if (follow [] (namesOf r)) = some [] then .directory else .missing
  | _ =>
    match follow [] (namesOf path) with
    | some names => lookUp files names (path.getLast? == some '/')
    | none => .missing

end FleetHealth.Command
