import FleetHealth.Json.Number

/- Documents of nested values. A document may break off where it cannot be read on; what was read
   before is kept, because a fault in it counts before the break. Places are given by how many
   characters are left. -/
namespace FleetHealth.Json

abbrev Left := Nat

/-- A text is missing when its escapes name no character. -/
inductive Scalar where
  | null
  | boolean (b : Bool)
  | number (x : Number)
  | text (t : Option Text)
  deriving DecidableEq, Repr

/-- The name of a member, and the place behind it. -/
structure Key where
  name : Option Text
  stop : Left
  deriving DecidableEq, Repr

/-- `stop` is the place behind a value; an array or an object that breaks off has none. -/
inductive Value where
  | scalar (s : Scalar) (stop : Left)
  | array (start : Left) (items : List Value) (stop : Option Left)
  | object (start : Left) (members : List (Key × Value)) (stop : Option Left)
  | broken
  deriving Repr

/-- Whether a value can be read to its end. -/
def Value.isWhole : Value → Bool
  | .scalar _ _ => true
  | .array _ items stop => stop.isSome && allWhole items
  | .object _ members stop => stop.isSome && membersWhole members
  | .broken => false
where
  allWhole : List Value → Bool
    | [] => true
    | v :: rest => v.isWhole && allWhole rest
  membersWhole : List (Key × Value) → Bool
    | [] => true
    | (_, v) :: rest => v.isWhole && membersWhole rest

end FleetHealth.Json
