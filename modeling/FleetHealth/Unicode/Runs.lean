import FleetHealth.Unicode.CharSet

/- Tables of character sets in a short written form. A run is written as the number of code points
   skipped since the run before and, after a point, how many code points it holds beyond its
   first; numbers are in base thirty-six, and a blank stands between runs. -/
namespace FleetHealth.Unicode

/-- The names of a set, a blank between each two, and its runs. -/
abbrev Table := List (String × String)

def digit36 (c : Char) : Nat :=
  if '0' ≤ c ∧ c ≤ '9' then c.toNat - '0'.toNat else c.toNat - 'a'.toNat + 10

def number36 (t : Text) : Nat := t.foldl (fun n c => n * 36 + digit36 c) 0

/-- The ranks of a run of code points, which is empty when none of them is a character. -/
def rankRun? (first last : Nat) : Option CharRun :=
  let a := if first < 0xd800 then first else if first < 0xe000 then 0xd800 else first - 0x800
  let b := if last < 0xd800 then last else if last < 0xe000 then 0xd7ff else last - 0x800
  if a ≤ b then some ⟨a, b⟩ else none

def readRuns (cursor : Nat) : List Text → List CharRun
  | [] => []
  | word :: rest =>
    let (skip, more) := match piecesAt '.' word with
      | [skip, more] => (number36 skip, number36 more)
      | [skip] => (number36 skip, 0)
      | _ => (0, 0)
    let first := cursor + skip
    let last := first + more
    match rankRun? first last with
    | some r => r :: readRuns (last + 1) rest
    | none => readRuns (last + 1) rest

/-- Runs on both sides of the code points that name no character touch by rank, and are joined. -/
def decodeRuns (s : String) : CharSet :=
  if s.isEmpty then .empty else .ofRuns (readRuns 0 (piecesAt ' ' s.toList))

def Table.names (row : String × String) : List Text := piecesAt ' ' row.1.toList

def Table.find? (t : Table) (name : Text) : Option CharSet :=
  (List.find? (fun row => (Table.names row).contains name) t).map fun row => decodeRuns row.2

/-- The union of the sets that a table has under the names. -/
def Table.unionOf (t : Table) (names : List Text) : CharSet :=
  .ofRuns (names.flatMap fun n => ((t.find? n).map CharSet.runs).getD [])

end FleetHealth.Unicode
