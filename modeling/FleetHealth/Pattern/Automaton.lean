import FleetHealth.Pattern.Term

/- The automaton of a term: nodes that follow each other by number. The nodes of a part stand
   together, begin with the node at which the part is entered, and leave it for a node given
   beforehand. The order of the branches of a fork is the order of preference. -/
namespace FleetHealth.Pattern

open Unicode (CharSet)

inductive Node where
  | jump (next : Nat)
  | char (c : Char) (next : Nat)
  | oneOf (s : CharSet) (next : Nat)
  | look (l : Look) (next : Nat)
  | fork (branches : List Nat)
  | accept
  deriving Repr

/-- How many nodes the nodes of `n` copies are, if a copy has `each`. -/
def repetitionNodes (count : Count) (consumes : Bool) (each : Nat) : Nat :=
  match count with
  | ⟨0, none⟩ => if consumes then each + 1 else each + 2
  | ⟨n, none⟩ => n * each + 1
  | ⟨n, some m⟩ => if n = 0 ∧ m = 0 then 1 else n * each + (m - n) * (each + 1)

def Term.nodeCount : Term → Nat
  | .empty | .oneOf _ | .look _ => 1
  | .literal t => max t.length 1
  | .capture _ b => b.nodeCount
  | .repetition c _ b => repetitionNodes c b.consumes b.nodeCount
  | .concat items => max (total items) 1
  | .alternation branches => total branches + 1
where
  total : List Term → Nat
    | [] => 0
    | t :: rest => t.nodeCount + total rest

/-- The branches of a fork in the order of preference. -/
def forkOf (greedy : Bool) (again leave : Nat) : Node :=
  .fork (if greedy then [again, leave] else [leave, again])

def literalNodes (entry next : Nat) : Text → List Node
  | [] => [.jump next]
  | [c] => [.char c next]
  | c :: r => .char c (entry + 1) :: literalNodes (entry + 1) next r

/-- `n` copies of a part of `each` nodes, one after the other. -/
def copies (emit : Nat → Nat → List Node) (each entry next : Nat) : Nat → List Node
  | 0 => []
  | 1 => emit entry next
  | n + 1 => emit entry (entry + each) ++ copies emit each (entry + each) next n

/-- `n` copies, each of which may be left out with all behind it. -/
def optionalCopies (emit : Nat → Nat → List Node) (greedy : Bool) (each entry next : Nat) :
    Nat → List Node
  | 0 => []
  | n + 1 =>
    let after := if n = 0 then next else entry + 1 + each
    forkOf greedy (entry + 1) next :: emit (entry + 1) after ++
      optionalCopies emit greedy each (entry + 1 + each) next n

/-- A part that can match nothing is not entered again by the fork that a match of nothing leads
to, so repeating it without bound takes two forks. -/
def repetitionOf (emit : Nat → Nat → List Node) (count : Count) (greedy consumes : Bool)
    (each entry next : Nat) : List Node :=
  match count with
  | ⟨0, none⟩ =>
    if consumes then forkOf greedy (entry + 1) next :: emit (entry + 1) entry
    else
      let again := entry + 1 + each
      forkOf greedy (entry + 1) next :: emit (entry + 1) again ++
        [forkOf greedy (entry + 1) next]
  | ⟨n, none⟩ =>
    let last := entry + (n - 1) * each
    copies emit each entry (entry + n * each) n ++ [forkOf greedy last next]
  | ⟨n, some m⟩ =>
    if n = 0 ∧ m = 0 then [.jump next]
    else
      let tail := entry + n * each
      copies emit each entry (if n < m then tail else next) n ++
        optionalCopies emit greedy each tail next (m - n)

/-- The nodes of a term that is entered at node `entry` and left for node `next`. -/
def Term.nodes : Term → Nat → Nat → List Node
  | .empty, _, next => [.jump next]
  | .literal t, entry, next => literalNodes entry next t
  | .oneOf s, _, next => [.oneOf s next]
  | .look l, _, next => [.look l next]
  | .capture _ b, entry, next => b.nodes entry next
  | .repetition c greedy b, entry, next =>
    repetitionOf b.nodes c greedy b.consumes b.nodeCount entry next
  | .concat items, entry, next => sequence items entry next
  | .alternation branches, entry, next =>
    .fork (entries branches (entry + 1)) :: choices branches (entry + 1) next
where
  sequence : List Term → Nat → Nat → List Node
    | [], _, next => [.jump next]
    | [t], entry, next => t.nodes entry next
    | t :: rest, entry, next =>
      t.nodes entry (entry + t.nodeCount) ++ sequence rest (entry + t.nodeCount) next
  entries : List Term → Nat → List Nat
    | [], _ => []
    | t :: rest, entry => entry :: entries rest (entry + t.nodeCount)
  choices : List Term → Nat → Nat → List Node
    | [], _, _ => []
    | t :: rest, entry, next => t.nodes entry next ++ choices rest (entry + t.nodeCount) next

/-- The automaton is entered at node zero, and its last node accepts. -/
structure Automaton where
  nodes : Array Node
  deriving Repr

def Term.automaton (t : Term) : Automaton :=
  ⟨(t.nodes 0 t.nodeCount ++ [Node.accept]).toArray⟩

end FleetHealth.Pattern
