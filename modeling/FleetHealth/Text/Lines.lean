import FleetHealth.Text.Basic

/- Two ways to cut a text into lines. Cutting at every line feed keeps all characters and gives
   one piece more than there are line feeds. Reading lines drops the end of each line, which is
   a line feed or a carriage return and a line feed, and gives no piece after the last line feed. -/
namespace FleetHealth

def cutLines (t : Text) : List Text := piecesAt newline t

def joinLines (ls : List Text) : Text := joinWith [newline] ls

/-- Drops one carriage return from the end. -/
def dropReturn (l : Text) : Text :=
  if l.getLast? = some '\r' then l.dropLast else l

/-- The piece after the last line feed is a line only when it is not empty, and no carriage
return is dropped from it. -/
def readLines (t : Text) : List Text :=
  let pieces := cutLines t
  let ended := pieces.dropLast.map dropReturn
  match pieces.getLast? with
  | none | some [] => ended
  | some rest => ended ++ [rest]

end FleetHealth
