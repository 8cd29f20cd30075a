import FleetHealth.Number.Binary64
import FleetHealth.Text.Basic

/- Documents of keys and values, as they are read: tables keep the order in which their keys first
   appear, and everything keeps the place where it begins. -/
namespace FleetHealth.Toml

/-- A place in a document is given by how many characters are left there. -/
abbrev Left := Nat

inductive Scalar where
  | text (t : Text)
  | integer (n : Int)
  | float (x : Binary64)
  | boolean (b : Bool)
  | date
  deriving DecidableEq, Repr

/-- What has made a table: a header of its own, the header of a table inside it, a dotted key, or
braces. -/
inductive Origin where
  | header
  | implied
  | dotted
  | inline
  deriving DecidableEq, Repr

structure Key where
  name : Text
  start : Left
  deriving DecidableEq, Repr

/-- `tables` are the tables of one repeated header. A table without text of its own has no start. -/
inductive Node where
  | scalar (start : Left) (value : Scalar)
  | array (start : Left) (items : List Node)
  | table (start : Option Left) (origin : Origin) (entries : List (Key × Node))
  | tables (items : List Node)
  deriving Repr

abbrev Entries := List (Key × Node)

def Node.start? : Node → Option Left
  | .scalar start _ | .array start _ => some start
  | .table start _ _ => start
  | .tables items =>
    match items with
    | .table start _ _ :: _ => start
    | _ => none

namespace Entries

def find? (es : Entries) (name : Text) : Option Node :=
  (List.find? (fun e => e.1.name == name) es).map Prod.snd

/-- Puts another node in the place of the one under a name. -/
def replace (es : Entries) (name : Text) (n : Node) : Entries :=
  es.map fun e => if e.1.name == name then (e.1, n) else e

def erase (es : Entries) (name : Text) : Entries := es.filter fun e => e.1.name != name

end Entries

/-- A table that must not be written to, or a key that is there already. -/
inductive Conflict where
  | conflict
  deriving DecidableEq, Repr

/-- Tables that a path with dots, or the path of a header, may lead through. -/
def Origin.open (dotted : Bool) : Origin → Bool
  | .implied | .dotted => true
  | .header => !dotted
  | .inline => false

/-- Changes the table at the end of a path. Tables that are missing on the way are made; a path
that meets the tables of a repeated header goes on in the last of them. -/
def edit (dotted : Bool) (change : Origin → Entries → Except Conflict Entries) :
    List Key → Origin → Entries → Except Conflict Entries
  | [], origin, es => change origin es
  | k :: path, _, es =>
    match es.find? k.name with
    | none => do
      let origin := if dotted then Origin.dotted else Origin.implied
      let inner ← edit dotted change path origin []
      .ok (es ++ [(k, .table none origin inner)])
    | some (.table start origin inner) =>
      if origin.open dotted then do
        let inner ← edit dotted change path origin inner
        .ok (es.replace k.name (.table start origin inner))
      else .error .conflict
    | some (.tables items) =>
      match items.getLast? with
      | some (.table start origin inner) => do
        let inner ← edit dotted change path origin inner
        .ok (es.replace k.name (.tables (items.dropLast ++ [.table start origin inner])))
      | _ => .error .conflict
    | some _ => .error .conflict

/-- Adds a value under a key. Only a table that dotted keys have made takes more of them. -/
def insert (path : List Key) (k : Key) (n : Node) (origin : Origin) (es : Entries) :
    Except Conflict Entries :=
  edit true
    (fun reached inner =>
      if !path.isEmpty && reached != .dotted then .error .conflict
      else if (inner.find? k.name).isSome then .error .conflict
      else .ok (inner ++ [(k, n)]))
    path origin es

/-- Opens the table of a header. One that is only implied so far moves behind its siblings. -/
def openTable (parents : List Key) (k : Key) (start : Left) (es : Entries) :
    Except Conflict Entries :=
  edit false
    (fun _ inner =>
      match inner.find? k.name with
      | none => .ok (inner ++ [(k, .table (some start) .header [])])
      | some (.table _ .implied content) =>
        .ok (inner.erase k.name ++ [(k, .table (some start) .header content)])
      | some _ => .error .conflict)
    parents .header es

/-- Opens one more table of a repeated header. -/
def openRepeated (parents : List Key) (k : Key) (start : Left) (es : Entries) :
    Except Conflict Entries :=
  edit false
    (fun _ inner =>
      let fresh := Node.table (some start) .header []
      match inner.find? k.name with
      | none => .ok (inner ++ [(k, .tables [fresh])])
      | some (.tables items) => .ok (inner.replace k.name (.tables (items ++ [fresh])))
      | some _ => .error .conflict)
    parents .header es

end FleetHealth.Toml
