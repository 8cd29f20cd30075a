import FleetHealth.Json.Document
import FleetHealth.Shape
import FleetHealth.Text.Utf8

/- What an inspection of a container tells: a list of entries, of which the first one counts, each
   with a state. The document is read in its order, so the first fault in it is the one reported,
   and a document that breaks off is refused only when no fault comes before the break. -/
namespace FleetHealth.Docker

open Json (Value Scalar Key Left)

structure ContainerState where
  status : Text
  exitCode : Int
  oomKilled : Bool
  deriving DecidableEq, Repr

inductive InspectFault where
  | malformed
  | misfit (f : ShapeFault) (place : Left)
  | noEntries
  deriving DecidableEq, Repr

def foundIn? : Value → Option Found
  | .scalar .null _ => some .null
  | .scalar (.boolean b) _ => some (.boolean b)
  | .scalar (.number x) _ =>
    x.read?.map fun
      | .integer n => .integer n
      | .float y => .float y.compactText
  | .scalar (.text t) _ => t.map .text
  | .array _ _ _ => some .sequence
  | .object _ _ _ => some .map
  | .broken => none

/-- A value that does not fit is met behind a scalar and in front of an array or an object. -/
def placeOf : Value → Left
  | .scalar _ stop => stop
  | .array start _ _ | .object start _ _ => start
  | .broken => 0

def wrongType {α : Type} (v : Value) (wanted : Text) : Except InspectFault α :=
  match foundIn? v with
  | some f => .error (.misfit (.wrongType f wanted) (placeOf v))
  | none => .error .malformed

def readStatus : Value → Except InspectFault Text
  | .scalar (.text (some t)) _ => .ok t
  | v => wrongType v "a string".toList

def readFlag : Value → Except InspectFault Bool
  | .scalar (.boolean b) _ => .ok b
  | v => wrongType v "a boolean".toList

/-- A whole number of 64 bits with a sign. -/
def readCode (v : Value) : Except InspectFault Int :=
  let wanted : Text := "i64".toList
  match v with
  | .scalar (.number x) stop =>
    match x.read? with
    | some (.integer n) =>
      if n < signedLimit then .ok n else .error (.misfit (.wrongValue (.integer n) wanted) stop)
    | _ => wrongType v wanted
  | v => wrongType v wanted

def stateName : Text := "ContainerState".toList

def statusKey : Text := "Status".toList

def exitCodeKey : Text := "ExitCode".toList

def oomKilledKey : Text := "OOMKilled".toList

/-- The members of a state that have been read. -/
structure StateDraft where
  status : Option Text
  exitCode : Option Int
  oomKilled : Option Bool
  deriving DecidableEq, Repr

def StateDraft.empty : StateDraft := ⟨none, none, none⟩

/-- Reads a member that must not have been read before. -/
def once {α : Type} (k : Key) (name : Text) (earlier : Option α)
    (value : Except InspectFault α) : Except InspectFault α :=
  if earlier.isSome then .error (.misfit (.duplicateField name) k.stop) else value

/-- A member that means nothing must still be readable. -/
def passOver (v : Value) : Except InspectFault Unit :=
  if v.isWhole then .ok () else .error .malformed

def readStateMembers (d : StateDraft) : List (Key × Value) → Except InspectFault StateDraft
  | [] => .ok d
  | (k, v) :: rest =>
    match k.name with
    | none => .error .malformed
    | some name =>
      if name = statusKey then do
        let s ← once k statusKey d.status (readStatus v)
        readStateMembers { d with status := some s } rest
      else if name = exitCodeKey then do
        let n ← once k exitCodeKey d.exitCode (readCode v)
        readStateMembers { d with exitCode := some n } rest
      else if name = oomKilledKey then do
        let b ← once k oomKilledKey d.oomKilled (readFlag v)
        readStateMembers { d with oomKilled := some b } rest
      else do
        passOver v
        readStateMembers d rest

/-- Whether the container was killed for want of memory may be left out. -/
def StateDraft.finish (d : StateDraft) (stop : Left) : Except InspectFault ContainerState :=
  match d.status, d.exitCode with
  | none, _ => .error (.misfit (.missingField statusKey) stop)
  | some _, none => .error (.misfit (.missingField exitCodeKey) stop)
  | some s, some n => .ok ⟨s, n, d.oomKilled.getD false⟩

/-- A list of values must be closed behind the last one that has a meaning. -/
def closed {α : Type} (stop : Option Left) (left : List Value) (a : Left → Except InspectFault α) :
    Except InspectFault α :=
  match left, stop with
  | [], some stop => a stop
  | _, _ => .error .malformed

def readStateItems (items : List Value) (stop : Option Left) :
    Except InspectFault ContainerState :=
  let short (n : Nat) : Except InspectFault ContainerState :=
    closed stop [] fun stop => .error (.misfit (.wrongLength n (recordOfLength stateName 3)) stop)
  match items with
  | [] => short 0
  | v :: items => do
    let s ← readStatus v
    match items with
    | [] => short 1
    | v :: items => do
      let n ← readCode v
      match items with
      | [] => closed stop [] fun _ => .ok ⟨s, n, false⟩
      | v :: items => do
        let b ← readFlag v
        closed stop items fun _ => .ok ⟨s, n, b⟩

def readState : Value → Except InspectFault ContainerState
  | .object _ members stop => do
    let d ← readStateMembers .empty members
    match stop with
    | some stop => d.finish stop
    | none => .error .malformed
  | .array _ items stop => readStateItems items stop
  | v => wrongType v (recordName stateName)

def entryName : Text := "InspectEntry".toList

def stateKey : Text := "State".toList

def readEntryMembers (state : Option ContainerState) :
    List (Key × Value) → Except InspectFault (Option ContainerState)
  | [] => .ok state
  | (k, v) :: rest =>
    match k.name with
    | none => .error .malformed
    | some name =>
      if name = stateKey then do
        let s ← once k stateKey state (readState v)
        readEntryMembers (some s) rest
      else do
        passOver v
        readEntryMembers state rest

def readEntry : Value → Except InspectFault ContainerState
  | .object _ members stop => do
    let s ← readEntryMembers none members
    match s, stop with
    | _, none => .error .malformed
    | some s, some _ => .ok s
    | none, some stop => .error (.misfit (.missingField stateKey) stop)
  | .array _ items stop =>
    match items with
    | [] => closed stop [] fun stop =>
        .error (.misfit (.wrongLength 0 (recordOfLength entryName 1)) stop)
    | v :: items => do
      let s ← readState v
      closed stop items fun _ => .ok s
  | v => wrongType v (recordName entryName)

def readEntries (d : Json.Document) : Except InspectFault (List ContainerState) :=
  match d.value with
  | .array _ items stop => do
    let states ← items.mapM readEntry
    closed stop [] fun _ => if d.ended then .ok states else .error .malformed
  | v => wrongType v "a sequence".toList

/-- The state of the first entry. -/
def inspect (document : Text) : Except InspectFault ContainerState := do
  match ← readEntries (.ofText document) with
  | s :: _ => .ok s
  | [] => .error .noEntries

namespace InspectFault

/-- The fault without its place; a document that breaks off has no text of its own. -/
def reason? : InspectFault → Option Text
  | .malformed => none
  | .misfit f _ => some f.message
  | .noEntries => some "docker inspect returned no entries".toList

/-- Lines count from one; a column is the number of bytes before the place on its line. -/
def placeText (document : Text) (left : Left) : Text :=
  let before := document.take (document.length - left)
  let onLine := before.reverse.takeWhile (· != newline)
  " at line ".toList ++ natText (before.count newline + 1) ++ " column ".toList ++
    natText (Utf8.size onLine)

def message (document : Text) : InspectFault → Text
  | .malformed => "the document cannot be read".toList
  | .misfit f left => f.message ++ placeText document left
  | .noEntries => "docker inspect returned no entries".toList

end InspectFault
end FleetHealth.Docker
