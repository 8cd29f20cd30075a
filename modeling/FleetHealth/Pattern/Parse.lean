import FleetHealth.Pattern.Brackets
import FleetHealth.Unicode.Category
import FleetHealth.Unicode.Property

/- Reading a whole pattern. The reader keeps the groups and alternations that are not finished on
   a stack, so that a pattern is read in one pass over its characters. -/
namespace FleetHealth.Pattern

/-- Branches and items are kept in reverse. -/
inductive Frame where
  | group (before : List Ast) (kind : GroupKind) (verbose : Bool)
  | alternation (branches : List Ast)
  deriving Repr

structure ParseState where
  verbose : Bool
  items : List Ast
  stack : List Frame
  names : List Text
  captures : Nat
  deriving Repr

def ParseState.initial : ParseState := ⟨false, [], [], [], 0⟩

def concatOf : List Ast → Ast
  | [] => .empty
  | [a] => a
  | items => .concat items.reverse

def alternationOf (branches : List Ast) : Ast :=
  match branches with
  | [a] => a
  | _ => .alternation branches.reverse

def isNameStart (c : Char) : Bool :=
  c = '_' || ((Unicode.properties.find? "alpha".toList).getD .empty).contains c

def isNamePart (c : Char) : Bool :=
  c = '_' || c = '.' || c = '[' || c = ']' || isNameStart c ||
    (Unicode.categories.unionOf ["nd".toList, "nl".toList, "no".toList]).contains c

/-- The name of a group up to its closing angle bracket. -/
def readGroupName (t : Text) : Except Fault (Text × Text) :=
  go [] t
where
  go (name : Text) : Text → Except Fault (Text × Text)
    | [] => .error .groupNameEnds
    | c :: r =>
      if c = '>' then
        if name.isEmpty then .error .groupNameEmpty else .ok (name.reverse, r)
      else if (if name.isEmpty then isNameStart c else isNamePart c) then go (c :: name) r
      else .error .groupNameInvalid

/-- The text behind `mark`, if it begins with it. -/
def after? (mark t : Text) : Option Text :=
  if mark.isPrefixOf t then some (t.drop mark.length) else none

def isLookAround (t : Text) : Bool :=
  ["?=", "?!", "?<=", "?<!"].any fun m => m.toList.isPrefixOf t

def ParseState.push (s : ParseState) (a : Ast) : ParseState := { s with items := a :: s.items }

def ParseState.openGroup (s : ParseState) (kind : GroupKind) (verbose : Bool) : ParseState :=
  { s with verbose := verbose, items := [], stack := .group s.items kind s.verbose :: s.stack }

/-- What follows an opening parenthesis. -/
def readGroup (s : ParseState) (t : Text) : Except Fault (ParseState × Text) := do
  let u := skipSpace s.verbose t
  if isLookAround u then .error .lookAround
  else
    match (after? "?P<".toList u).orElse fun _ => after? "?<".toList u with
    | some r =>
      let (name, rest) ← readGroupName r
      if s.names.contains name then .error .groupNameDuplicate
      else
        let s := { s with names := name :: s.names, captures := s.captures + 1 }
        .ok (s.openGroup (.capture s.captures) s.verbose, rest)
    | none =>
      match u with
      | ['?'] => .error .groupUnclosed
      | '?' :: r =>
        let (changes, rest) ← readFlags [] false false r
        let verbose := (changedTo changes .verbose).getD s.verbose
        match rest with
        | ')' :: rest =>
          if changes.isEmpty then .error .repetitionMissing
          else .ok ({ s.push (.flags changes) with verbose := verbose }, rest)
        | rest => .ok (s.openGroup (.plain changes) verbose, rest.drop 1)
      | _ =>
        let s := { s with captures := s.captures + 1 }
        .ok (s.openGroup (.capture s.captures) s.verbose, u)

/-- A closing parenthesis. -/
def closeGroup (s : ParseState) : Except Fault ParseState :=
  match s.stack with
  | .group before kind verbose :: rest =>
    .ok { s with
      verbose := verbose, items := .group kind (concatOf s.items) :: before, stack := rest }
  | .alternation branches :: .group before kind verbose :: rest =>
    let body := alternationOf (concatOf s.items :: branches)
    .ok { s with verbose := verbose, items := .group kind body :: before, stack := rest }
  | _ => .error .groupUnopened

/-- A vertical bar. -/
def splitBranch (s : ParseState) : ParseState :=
  match s.stack with
  | .alternation branches :: rest =>
    { s with items := [], stack := .alternation (concatOf s.items :: branches) :: rest }
  | stack => { s with items := [], stack := .alternation [concatOf s.items] :: stack }

/-- The end of the pattern. -/
def finish (s : ParseState) : Except Fault Ast :=
  match s.stack with
  | [] => .ok (concatOf s.items)
  | [.alternation branches] => .ok (alternationOf (concatOf s.items :: branches))
  | _ => .error .groupUnclosed

/-- The item that a repetition repeats, and the items before it. -/
def repeated : List Ast → Except Fault (Ast × List Ast)
  | [] => .error .repetitionMissing
  | .empty :: _ | .flags _ :: _ => .error .repetitionMissing
  | a :: rest => .ok (a, rest)

def takeLazy : Text → Bool × Text
  | '?' :: r => (false, r)
  | t => (true, t)

/-- An opening brace behind an item. -/
def readCount (verbose : Bool) (t : Text) : Except Fault (Count × Bool × Text) := do
  let u ← need (skipSpace verbose t)
  let (least, u) := readDecimal verbose u
  let u ← need u
  let (count, u) ← match u with
    | ',' :: r => do
      let v ← need (skipSpace verbose r)
      match v with
      | '}' :: _ => do
        let n ← least
        .ok ((⟨n, none⟩ : Count), v)
      | _ => do
        let n ← least
        let (most, w) := readDecimal verbose v
        let m ← most
        .ok (⟨n, some m⟩, w)
    | _ => do
      let n ← least
      .ok (⟨n, some n⟩, u)
  match u with
  | '}' :: r =>
    let (greedy, rest) := takeLazy (skipSpace verbose r)
    if (count.max.getD count.min) < count.min then .error .repetitionCountInvalid
    else .ok (count, greedy, rest)
  | _ => .error .repetitionCountUnclosed
where
  need (t : Text) : Except Fault Text :=
    if t.isEmpty then .error .repetitionCountUnclosed else .ok t

def ParseState.repeatLast (s : ParseState) (count : Count) (greedy : Bool) (t : Text) :
    Except Fault (ParseState × Text) :=
  (repeated s.items).map fun (a, before) =>
    ({ s with items := .repetition count greedy a :: before }, t)

def primitiveAst : Primitive → Ast
  | .literal l => .literal l
  | .dot => .dot
  | .anchor a => .anchor a
  | .named neg c => .named neg c

/-- One part of the pattern, which begins with `c`. -/
def readPart (s : ParseState) (c : Char) (r : Text) : Except Fault (ParseState × Text) :=
  let simple (count : Count) :=
    let (greedy, rest) := takeLazy r
    s.repeatLast count greedy rest
  match c with
  | '(' => readGroup s r
  | ')' => (closeGroup s).map fun s => (s, r)
  | '|' => .ok (splitBranch s, r)
  | '[' => (readClass s.verbose r).map fun ((neg, body), rest) => (s.push (.bracketed neg body), rest)
  | '?' => simple ⟨0, some 1⟩
  | '*' => simple ⟨0, none⟩
  | '+' => simple ⟨1, none⟩
  | '{' => do
    let _ ← repeated s.items
    let (count, greedy, rest) ← readCount s.verbose r
    s.repeatLast count greedy rest
  | '\\' => (readEscape s.verbose r).map fun (p, rest) => (s.push (primitiveAst p), rest)
  | '.' => .ok (s.push .dot, r)
  | '^' => .ok (s.push (.anchor .caret), r)
  | '$' => .ok (s.push (.anchor .dollar), r)
  | c => .ok (s.push (.literal ⟨c, false⟩), r)

/-- Every round reads a character at least, which bounds the rounds. -/
def parseRest : Nat → ParseState → Text → Except Fault Ast
  | 0, s, _ => finish s
  | fuel + 1, s, t =>
    match skipSpace s.verbose t with
    | [] => finish s
    | c :: r => do
      let (s, rest) ← readPart s c r
      parseRest fuel s rest

def parse (pattern : Text) : Except Fault Ast := do
  let ast ← parseRest (pattern.length + 1) .initial pattern
  if nestLimit < ast.depth then .error .nestedTooDeep else .ok ast

end FleetHealth.Pattern
