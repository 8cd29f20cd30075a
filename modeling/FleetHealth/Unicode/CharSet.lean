import FleetHealth.Text.Basic

/- Sets of characters as runs of neighbours. Characters are counted by rank, which leaves no gap
   where code points name no character, so that neighbours have neighbouring ranks. -/
namespace FleetHealth.Unicode

def lastRank : Nat := 0x10f7ff

def rank (c : Char) : Nat := if c.toNat < 0xd800 then c.toNat else c.toNat - 0x800

def ofRank (n : Nat) : Char := Char.ofNat (if n < 0xd800 then n else n + 0x800)

structure CharRun where
  first : Nat
  last : Nat
  deriving DecidableEq, Repr

/-- The runs are in ascending order, and a character that is in no run lies between each two. -/
structure CharSet where
  runs : List CharRun
  deriving DecidableEq, Repr

namespace CharSet

def empty : CharSet := ⟨[]⟩

def all : CharSet := ⟨[⟨0, lastRank⟩]⟩

/-- Membership of a rank in ascending runs. -/
def memberOf (n : Nat) : List CharRun → Bool
  | [] => false
  | r :: rest => if n < r.first then false else n ≤ r.last || memberOf n rest

def contains (s : CharSet) (c : Char) : Bool := memberOf (rank c) s.runs

def isEmpty (s : CharSet) : Bool := s.runs.isEmpty

/-- Joins runs that touch; `r` is the run before them, and they are in the order of their starts. -/
def joinRuns (r : CharRun) : List CharRun → List CharRun
  | [] => [r]
  | s :: rest =>
    if s.first ≤ r.last + 1 then joinRuns ⟨r.first, max r.last s.last⟩ rest
    else r :: joinRuns s rest

def ofRuns (runs : List CharRun) : CharSet :=
  match runs.mergeSort fun r s => r.first ≤ s.first with
  | [] => empty
  | r :: rest => ⟨joinRuns r rest⟩

def single (c : Char) : CharSet := ⟨[⟨rank c, rank c⟩]⟩

/-- The characters from `a` to `b`, ends included. -/
def between (a b : Char) : CharSet := if b < a then empty else ⟨[⟨rank a, rank b⟩]⟩

def union (s t : CharSet) : CharSet := ofRuns (s.runs ++ t.runs)

/-- What ascending runs leave out, from rank `n` on. -/
def gapsFrom (n : Nat) : List CharRun → List CharRun
  | [] => if n ≤ lastRank then [⟨n, lastRank⟩] else []
  | r :: rest =>
    if n < r.first then ⟨n, r.first - 1⟩ :: gapsFrom (r.last + 1) rest
    else gapsFrom (r.last + 1) rest

def complement (s : CharSet) : CharSet := ⟨gapsFrom 0 s.runs⟩

def inter (s t : CharSet) : CharSet := (s.complement.union t.complement).complement

def difference (s t : CharSet) : CharSet := s.inter t.complement

def symmetricDifference (s t : CharSet) : CharSet := (s.union t).difference (s.inter t)

/-- Whether every character is below U+0080. -/
def isAscii (s : CharSet) : Bool := s.runs.all fun r => r.last < 0x80

/-- The only character of the set, if it holds just one. -/
def only? (s : CharSet) : Option Char :=
  match s.runs with
  | [r] => if r.first = r.last then some (ofRank r.first) else none
  | _ => none

end CharSet
end FleetHealth.Unicode
