import FleetHealth.Pattern.Automaton
import FleetHealth.Pattern.Classes
import FleetHealth.Text.Substring

/- Finding the matches of an automaton. All ways through it are followed at once, character by
   character, in the order of preference. A way that comes to a node where a preferred way already
   is ends there, and a way that is accepted ends all ways behind it. -/
namespace FleetHealth.Pattern

/-- The characters on both sides of a place in a text. -/
structure Place where
  before : Option Char
  after : Option Char

def isWordBeside (unicode : Bool) : Option Char → Bool
  | none => false
  | some c => if unicode then wordSet.contains c else (asciiSet .word).contains c

def Look.holds (p : Place) : Look → Bool
  | .textStart => p.before.isNone
  | .textEnd => p.after.isNone
  | .lineStart => p.before.isNone || p.before == some '\n'
  | .lineEnd => p.after.isNone || p.after == some '\n'
  | .lineStartCrlf =>
    p.before.isNone || p.before == some '\n' || (p.before == some '\r' && p.after != some '\n')
  | .lineEndCrlf =>
    p.after.isNone || p.after == some '\r' || (p.after == some '\n' && p.before != some '\r')
  | .boundary u => isWordBeside u p.before != isWordBeside u p.after
  | .notBoundary u => isWordBeside u p.before == isWordBeside u p.after
  | .wordStart u => !isWordBeside u p.before && isWordBeside u p.after
  | .wordEnd u => isWordBeside u p.before && !isWordBeside u p.after
  | .wordStartHalf u => !isWordBeside u p.before
  | .wordEndHalf u => !isWordBeside u p.after

/-- A way that has come to `node`, and where in the text it began. -/
structure Thread where
  node : Nat
  start : Nat
  deriving Repr

/-- Which nodes a way has come to at the present place: those that bear the present number. -/
structure Marks where
  numbers : Array Nat
  present : Nat

namespace Marks

def none (nodes : Nat) : Marks := ⟨Array.replicate nodes 0, 0⟩

/-- Forgets all marks. -/
def clear (m : Marks) : Marks := ⟨m.numbers, m.present + 1⟩

def has (m : Marks) (n : Nat) : Bool := m.numbers[n]? == some m.present

def add (m : Marks) (n : Nat) : Marks := ⟨m.numbers.setIfInBounds n m.present, m.present⟩

end Marks

/-- The ways at one place, the least preferred first. -/
structure Frontier where
  marks : Marks
  threads : List Thread

def Node.branches : Node → List Nat
  | .fork branches => branches
  | _ => []

namespace Automaton

/-- How many nodes can be named as the next one, and one more. -/
def edgeCount (a : Automaton) : Nat :=
  a.nodes.foldl (fun n node => n + 1 + node.branches.length) 1

/-- Follows the nodes that read nothing from the nodes in the list on, and adds the ways that
come to other nodes. Each node names its followers once, so `a.edgeCount` steps are enough. -/
def reach (a : Automaton) (place : Place) (start : Nat) : Nat → List Nat → Frontier → Frontier
  | 0, _, f => f
  | _, [], f => f
  | steps + 1, n :: rest, ⟨marks, threads⟩ =>
    if marks.has n then a.reach place start steps rest ⟨marks, threads⟩
    else
      let marks := marks.add n
      match a.nodes[n]? with
      | some (.jump next) => a.reach place start steps (next :: rest) ⟨marks, threads⟩
      | some (.look l next) =>
        a.reach place start steps (if l.holds place then next :: rest else rest) ⟨marks, threads⟩
      | some (.fork branches) => a.reach place start steps (branches ++ rest) ⟨marks, threads⟩
      | some _ => a.reach place start steps rest ⟨marks, ⟨n, start⟩ :: threads⟩
      | none => a.reach place start steps rest ⟨marks, threads⟩

/-- Where a way goes on over a character; `none` where it ends. -/
def onward? (a : Automaton) (c : Char) (n : Nat) : Option Nat :=
  match a.nodes[n]? with
  | some (.char d next) => if c = d then some next else none
  | some (.oneOf s next) => if s.contains c then some next else none
  | _ => none

def accepts (a : Automaton) (n : Nat) : Bool :=
  match a.nodes[n]? with
  | some .accept => true
  | _ => false

/-- The first way that is accepted, and the ways before it. -/
def cutAtAccept (a : Automaton) : List Thread → List Thread × Option Thread
  | [] => ([], none)
  | t :: rest =>
    if a.accepts t.node then ([], some t)
    else
      let (before, found) := a.cutAtAccept rest
      (t :: before, found)

/-- The ways that go on over `c`, at the place behind it. -/
def advance (a : Automaton) (edges : Nat) (c : Char) (place : Place) (threads : List Thread)
    (marks : Marks) : Frontier :=
  threads.foldl
    (fun f t => match a.onward? c t.node with
      | some next => a.reach place t.start edges [next] f
      | none => f)
    ⟨marks.clear, []⟩

/-- The best match with the ways of `f`, which are at position `at_`, or with ways that begin
there or later, as long as there is no match; `best` is the match found so far. -/
def searchFrom (a : Automaton) (edges at_ : Nat) (before : Option Char) (best : Option Span)
    (f : Frontier) (rest : Text) : Option Span × Marks :=
  let ⟨marks, threads⟩ := if best.isNone then
      a.reach ⟨before, rest.head?⟩ at_ edges [0] f
    else f
  let (going, accepted) := a.cutAtAccept threads.reverse
  let best := match accepted with
    | some t => some ⟨t.start, at_⟩
    | none => best
  match rest with
  | [] => (best, marks)
  | c :: rest =>
    if going.isEmpty && best.isSome then (best, marks)
    else
      a.searchFrom edges (at_ + 1) (some c) best
        (a.advance edges c ⟨some c, rest.head?⟩ going marks) rest

/-- The leftmost match at or behind position `at_`, where `rest` begins; of several matches that
begin there it is the preferred one. -/
def find (a : Automaton) (edges at_ : Nat) (before : Option Char) (marks : Marks) (rest : Text) :
    Option Span × Marks :=
  a.searchFrom edges at_ before none ⟨marks.clear, []⟩ rest

/-- What is left of a text behind its first `n` characters, and the last of them. -/
def skipChars : Nat → Option Char → Text → Option Char × Text
  | 0, before, t => (before, t)
  | _, before, [] => (before, [])
  | n + 1, _, c :: rest => skipChars n (some c) rest

/-- The next match from position `at_` on. An empty match right behind the last match, which ended
at `lastStop`, is passed over: the search goes on one character later. -/
def next (a : Automaton) (edges : Nat) (lastStop : Option Nat) (at_ : Nat) (before : Option Char)
    (marks : Marks) (rest : Text) : Option Span × Marks :=
  let (found, marks) := a.find edges at_ before marks rest
  match found with
  | none => (none, marks)
  | some s =>
    if s.start = s.stop ∧ lastStop = some s.stop then
      match rest with
      | [] => (none, marks)
      | c :: rest => a.find edges (at_ + 1) (some c) marks rest
    else (some s, marks)

/-- The matches from position `at_` on; each takes one of the steps. -/
def matchesFrom (a : Automaton) (edges : Nat) (lastStop : Option Nat) (marks : Marks) :
    Nat → Nat → Option Char → Text → List Span
  | 0, _, _, _ => []
  | steps + 1, at_, before, rest =>
    match a.next edges lastStop at_ before marks rest with
    | (none, _) => []
    | (some s, marks) =>
      let (before, rest) := skipChars (s.stop - at_) before rest
      s :: a.matchesFrom edges (some s.stop) marks steps s.stop before rest

/-- All matches in a text, from left to right; they do not overlap. -/
def matchesIn (a : Automaton) (t : Text) : List Span :=
  a.matchesFrom a.edgeCount none (.none a.nodes.size) (t.length + 1) 0 none t

end Automaton
end FleetHealth.Pattern
