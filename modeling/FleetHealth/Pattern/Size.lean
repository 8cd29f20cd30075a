import FleetHealth.Pattern.Fault
import FleetHealth.Pattern.Term

/- How many bytes the automaton of a term takes. The automaton reads bytes: a state takes
   thirty-two bytes, a transition of a state with several takes eight more, and a branch of a
   choice four more. Two automata are counted, one for reading forwards and one for backwards,
   which differ in how they share states among the characters of a set. -/
namespace FleetHealth.Pattern

open Unicode (CharSet CharRun)

def stateBytes : Nat := 32

def transitionBytes : Nat := 8

def branchBytes : Nat := 4

/-- A run of bytes. -/
structure ByteRun where
  first : Nat
  last : Nat
  deriving DecidableEq, Repr

/-- The bytes of a code point that takes `width` of them. -/
def utf8Bytes (width n : Nat) : List Nat :=
  match width with
  | 1 => [n]
  | 2 => [0xc0 + n / 64, 0x80 + n % 64]
  | 3 => [0xe0 + n / 4096, 0x80 + n / 64 % 64, 0x80 + n % 64]
  | _ => [0xf0 + n / 262144, 0x80 + n / 4096 % 64, 0x80 + n / 64 % 64, 0x80 + n % 64]

/-- The code points from `first` to `last`, which all take `width` bytes, as sequences of byte
runs. A range is cut where a byte would otherwise depend on the byte before it. -/
def byteSequences (width : Nat) : Nat → Nat → Nat → List (List ByteRun)
  | 0, _, _ => []
  | fuel + 1, first, last =>
    match cut? first last ((List.range (width - 1)).map (· + 1)) with
    | some m => byteSequences width fuel first m ++ byteSequences width fuel (m + 1) last
    | none =>
      [((utf8Bytes width first).zip (utf8Bytes width last)).map fun (a, b) => ⟨a, b⟩]
where
  /-- The last code point of the first part, if the range must be cut. -/
  cut? (first last : Nat) : List Nat → Option Nat
    | [] => none
    | i :: rest =>
      let block := Nat.pow 64 i
      if first / block = last / block then cut? first last rest
      else if first % block ≠ 0 then some (first / block * block + (block - 1))
      else if last % block ≠ block - 1 then some (last / block * block - 1)
      else cut? first last rest

/-- The parts of a range of code points in which all take the same number of bytes. -/
def widthParts (first last : Nat) : List (Nat × Nat × Nat) :=
  [(1, 0, 0x7f), (2, 0x80, 0x7ff), (3, 0x800, 0xd7ff), (3, 0xe000, 0xffff),
    (4, 0x10000, 0x10ffff)].filterMap fun (w, a, b) =>
      if max a first ≤ min b last then some (w, max a first, min b last) else none

def CharRun.sequences (r : CharRun) : List (List ByteRun) :=
  (widthParts (Unicode.ofRank r.first).toNat (Unicode.ofRank r.last).toNat).flatMap
    fun (w, a, b) => byteSequences w 64 a b

/-- The byte sequences of a set as a tree that shares beginnings. -/
inductive ByteTree where
  | node (branches : List (ByteRun × ByteTree))
  deriving BEq, Repr

/-- Adds the sequences, in ascending order, so that neighbours with the same first run share it. -/
def ByteTree.ofSequences : Nat → List (List ByteRun) → ByteTree
  | 0, _ => .node []
  | fuel + 1, seqs =>
    let groups := (seqs.filterMap fun s => s.head?.map fun b => (b, s.tail)).foldr
      (fun (b, tail) (acc : List (ByteRun × List (List ByteRun))) =>
        match acc with
        | (c, tails) :: rest => if b = c then (c, tail :: tails) :: rest else (b, [tail]) :: acc
        | [] => [(b, [tail])])
      []
    .node (groups.map fun (b, tails) => (b, ofSequences fuel tails))

def CharSet.sequences (s : CharSet) : List (List ByteRun) := s.runs.flatMap CharRun.sequences

def CharSet.tree (s : CharSet) : ByteTree := .ofSequences 4 (CharSet.sequences s)

/-- All runs in a tree. -/
def ByteTree.edges : ByteTree → Nat
  | .node branches => count branches
where
  count : List (ByteRun × ByteTree) → Nat
    | [] => 0
    | (_, t) :: rest => t.edges + 1 + count rest

/-- The different subtrees with branches, added to the ones in `seen`. -/
def ByteTree.distinct (seen : List ByteTree) : ByteTree → List ByteTree
  | .node branches =>
    let seen := collect seen branches
    let t := ByteTree.node branches
    if branches.isEmpty || seen.any (· == t) then seen else t :: seen
where
  collect (seen : List ByteTree) : List (ByteRun × ByteTree) → List ByteTree
    | [] => seen
    | (_, t) :: rest => collect (t.distinct seen) rest

def ByteTree.degree : ByteTree → Nat
  | .node branches => branches.length

/-- The states of a set of ASCII characters: one for the characters, one behind them. -/
def asciiSetBytes (s : CharSet) : Nat := 2 * stateBytes + transitionBytes * s.runs.length

/-- Reading forwards, ends of characters share their states. -/
def forwardSetBytes (s : CharSet) : Nat :=
  if s.isAscii then asciiSetBytes s
  else
    stateBytes +
      ((CharSet.tree s).distinct []).foldl
        (fun n t => n + stateBytes + transitionBytes * t.degree) 0

/-- Reading backwards, the first bytes of characters share their states. -/
def backwardSetBytes (s : CharSet) : Nat :=
  if s.isAscii then asciiSetBytes s
  else
    2 * stateBytes + branchBytes * (CharSet.sequences s).length +
      stateBytes * (CharSet.tree s).edges

/-- A choice of two. -/
def forkBytes : Nat := stateBytes + 2 * branchBytes

def copiesBytes (n each : Nat) : Nat := if n = 0 then stateBytes else n * each

def repetitionBytes (count : Count) (consumes : Bool) (each : Nat) : Nat :=
  match count with
  | ⟨0, some 1⟩ => forkBytes + each + stateBytes
  | ⟨0, none⟩ =>
    if consumes then forkBytes + each else each + 2 * forkBytes + stateBytes
  | ⟨n, none⟩ => n * each + forkBytes
  | ⟨n, some m⟩ =>
    if n = m then copiesBytes n each
    else copiesBytes n each + stateBytes + (m - n) * (forkBytes + each)

/-- The bytes of a term, where `setBytes` counts those of sets and `captureBytes` is what marking
the ends of a group takes. -/
def Term.bytes (setBytes : CharSet → Nat) (captureBytes : Nat) : Term → Nat
  | .empty | .look _ => stateBytes
  | .literal t => stateBytes * Utf8.size t
  | .oneOf s => setBytes s
  | .capture _ b => captureBytes + b.bytes setBytes captureBytes
  | .repetition c _ b => repetitionBytes c b.consumes (b.bytes setBytes captureBytes)
  | .concat items => total items
  | .alternation branches =>
    2 * stateBytes + branchBytes * branches.length + total branches
where
  total : List Term → Nat
    | [] => 0
    | t :: rest => t.bytes setBytes captureBytes + total rest

/-- Finding where a match begins takes states of its own, and so does the match as a whole. -/
def overheadBytes : Nat := forkBytes + 2 * stateBytes + transitionBytes

def Term.automatonBytes (t : Term) : Nat :=
  max (overheadBytes + 3 * stateBytes + t.bytes forwardSetBytes (2 * stateBytes))
    (overheadBytes + stateBytes + t.bytes backwardSetBytes 0)

end FleetHealth.Pattern
