import FleetHealth.Text.Quoted

/- Documents that can be read but hold something else than what is wanted. -/
namespace FleetHealth

/-- What stands where something else is wanted; a float is given by its text. -/
inductive Found where
  | null
  | boolean (b : Bool)
  | integer (n : Int)
  | float (written : Text)
  | text (t : Text)
  | sequence
  | map
  deriving DecidableEq, Repr

def Found.describe : Found → Text
  | .null => "null".toList
  | .boolean b => "boolean `".toList ++ boolText b ++ "`".toList
  | .integer n => "integer `".toList ++ intText n ++ "`".toList
  | .float t => "floating point `".toList ++ t ++ "`".toList
  | .text t => "string ".toList ++ quoted t
  | .sequence => "sequence".toList
  | .map => "map".toList

inductive ShapeFault where
  | missingField (name : Text)
  | duplicateField (name : Text)
  | wrongType (found : Found) (wanted : Text)
  | wrongValue (found : Found) (wanted : Text)
  | wrongLength (length : Nat) (wanted : Text)
  deriving DecidableEq, Repr

def ShapeFault.message : ShapeFault → Text
  | .missingField name => "missing field `".toList ++ name ++ "`".toList
  | .duplicateField name => "duplicate field `".toList ++ name ++ "`".toList
  | .wrongType found wanted =>
    "invalid type: ".toList ++ found.describe ++ ", expected ".toList ++ wanted
  | .wrongValue found wanted =>
    "invalid value: ".toList ++ found.describe ++ ", expected ".toList ++ wanted
  | .wrongLength n wanted =>
    "invalid length ".toList ++ natText n ++ ", expected ".toList ++ wanted

/-- A record, for a message. -/
def recordName (name : Text) : Text := "struct ".toList ++ name

/-- A record written as the list of its fields, for a message. -/
def recordOfLength (name : Text) (fields : Nat) : Text :=
  recordName name ++ " with ".toList ++ natText fields ++
    (if fields = 1 then " element".toList else " elements".toList)

end FleetHealth
