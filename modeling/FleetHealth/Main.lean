import FleetHealth.Command.Run

/- The command itself. It reads the configuration file and prints; it has no means to start another
   program, so docker is always found missing. -/
namespace FleetHealth

def readStored (path : Text) : IO Stored := do
  let path := String.ofList path
  try
    let content ← IO.FS.readBinFile path
    return .bytes content.toList
  catch _ =>
    try
      let _ ← IO.FS.Handle.mk path .read
      return .directory
    catch _ => return .missing

def noProgram : Docker.Program := fun _ => .error .notFound

end FleetHealth

open FleetHealth in
def main (arguments : List String) : IO UInt32 := do
  let arguments := arguments.map String.toList
  let stored ← match Command.read arguments with
    | .run a => readStored a.configPath
    | _ => pure .missing
  let ending := Command.run arguments (fun _ => stored) fun _ => noProgram
  IO.print (String.ofList ending.stdout)
  match ending.message with
  | some m => IO.eprintln (String.ofList m)
  | none => pure ()
  return ending.code.toUInt32
