import FleetHealth.Pattern.Written
import FleetHealth.Text.Utf8
import FleetHealth.Unicode.CharSet

/- Patterns as they are matched: flags are gone, classes are sets, and what can be simplified is.
   The shape of a term decides which of several matches is preferred where a repeated part can
   match nothing, so the simplifications are part of what a pattern means. -/
namespace FleetHealth.Pattern

open Unicode (CharSet)

inductive Look where
  | textStart
  | textEnd
  | lineStart
  | lineEnd
  | lineStartCrlf
  | lineEndCrlf
  | boundary (unicode : Bool)
  | notBoundary (unicode : Bool)
  | wordStart (unicode : Bool)
  | wordEnd (unicode : Bool)
  | wordStartHalf (unicode : Bool)
  | wordEndHalf (unicode : Bool)
  deriving DecidableEq, Repr

inductive Term where
  | empty
  | literal (t : Text)
  | oneOf (s : CharSet)
  | look (l : Look)
  | capture (index : Nat) (body : Term)
  | repetition (count : Count) (greedy : Bool) (body : Term)
  | concat (items : List Term)
  | alternation (branches : List Term)
  deriving BEq, Repr

namespace Term

/-- A set of one character is a literal. -/
def ofSet (s : CharSet) : Term :=
  match s.only? with
  | some c => .literal [c]
  | none => .oneOf s

/-- The least number of bytes of a match; none where nothing matches. -/
def minBytes : Term → Option Nat
  | .empty | .look _ => some 0
  | .literal t => some (Utf8.size t)
  | .oneOf s => s.runs.head?.map fun r => Utf8.width (Unicode.ofRank r.first)
  | .capture _ b => b.minBytes
  | .repetition c _ b => b.minBytes.map (· * c.min)
  | .concat items => sums items
  | .alternation branches => least branches
where
  sums : List Term → Option Nat
    | [] => some 0
    | t :: rest => t.minBytes.bind fun n => (sums rest).map (n + ·)
  least : List Term → Option Nat
    | [] => none
    | [t] => t.minBytes
    | t :: rest => t.minBytes.bind fun n => (least rest).map (min n ·)

/-- The greatest number of bytes of a match, if there is one. -/
def maxBytes : Term → Option Nat
  | .empty | .look _ => some 0
  | .literal t => some (Utf8.size t)
  | .oneOf s => s.runs.getLast?.map fun r => Utf8.width (Unicode.ofRank r.last)
  | .capture _ b => b.maxBytes
  | .repetition c _ b => c.max.bind fun m => b.maxBytes.map (· * m)
  | .concat items => sums items
  | .alternation branches => greatest branches
where
  sums : List Term → Option Nat
    | [] => some 0
    | t :: rest => t.maxBytes.bind fun n => (sums rest).map (n + ·)
  greatest : List Term → Option Nat
    | [] => none
    | [t] => t.maxBytes
    | t :: rest => t.maxBytes.bind fun n => (greatest rest).map (max n ·)

/-- Whether every match takes at least one byte. -/
def consumes (t : Term) : Bool :=
  match t.minBytes with
  | some n => 0 < n
  | none => false

/-- What only matches nothing is repeated once at most. -/
def repeated (count : Count) (greedy : Bool) (body : Term) : Term :=
  let count : Count :=
    if body.maxBytes = some 0 then ⟨min count.min 1, some (min (count.max.getD 1) 1)⟩ else count
  if count = ⟨0, some 0⟩ then .empty
  else if count = ⟨1, some 1⟩ then body
  else .repetition count greedy body

/-- Adds an item in front; neighbouring literals become one, and empty items disappear. -/
def consItem (t : Term) (rest : List Term) : List Term :=
  match t, rest with
  | .empty, rest => rest
  | .literal s, .literal u :: rest => .literal (s ++ u) :: rest
  | t, rest => t :: rest

/-- The items of a term that stands in a concatenation. -/
def itemsOf : Term → List Term
  | .concat items => items
  | t => [t]

def joined (items : List Term) : Term :=
  match (items.flatMap itemsOf).foldr consItem [] with
  | [] => .empty
  | [t] => t
  | ts => .concat ts

def branchesOf : Term → List Term
  | .alternation branches => branches
  | t => [t]

/-- The set of the only character that a term matches. -/
def singleChar? : Term → Option CharSet
  | .literal [c] => some (.single c)
  | _ => none

def setOf? : Term → Option CharSet
  | .oneOf s => some s
  | _ => none

/-- The first items that two concatenations share. -/
def sharedItems : List Term → List Term → List Term
  | a :: as, b :: bs => if a == b then a :: sharedItems as bs else []
  | _, _ => []

/-- The items that all branches, which must be concatenations, begin with. -/
def sharedPrefix : List Term → List Term
  | .concat items :: rest =>
    rest.foldl
      (fun shared t => match t with
        | .concat others => sharedItems shared others
        | _ => [])
      items
  | _ => []

/-- Branches of single characters or of sets become one set, and items that all branches begin
with are taken out in front of the choice. -/
def choice (branches : List Term) : Term :=
  match branches.flatMap branchesOf with
  | [] => .oneOf .empty
  | [t] => t
  | ts =>
    match ts.mapM singleChar? with
    | some sets => ofSet (.ofRuns (sets.flatMap CharSet.runs))
    | none =>
      match ts.mapM setOf? with
      | some sets => ofSet (.ofRuns (sets.flatMap CharSet.runs))
      | none =>
        match sharedPrefix ts with
        | [] => .alternation ts
        | shared =>
          let tails := ts.map fun t => joined ((itemsOf t).drop shared.length)
          joined (shared ++ [choiceOfTails tails])
where
  /-- The tails share no first item any more. -/
  choiceOfTails (tails : List Term) : Term :=
    match tails.flatMap branchesOf with
    | [t] => t
    | ts =>
      match ts.mapM singleChar? with
      | some sets => ofSet (.ofRuns (sets.flatMap CharSet.runs))
      | none =>
        match ts.mapM setOf? with
        | some sets => ofSet (.ofRuns (sets.flatMap CharSet.runs))
        | none => .alternation ts

end Term
end FleetHealth.Pattern
