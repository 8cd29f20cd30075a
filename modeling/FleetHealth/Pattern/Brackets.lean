import FleetHealth.Pattern.Scan

/- Reading a class between brackets. The reader keeps a stack of what is not finished yet: classes
   that are open, and set operators that wait for their right side. -/
namespace FleetHealth.Pattern

inductive ClassFrame where
  | opened (items : List ClassBody) (negated : Bool)
  | operator (op : SetOperator) (left : ClassBody)
  deriving Repr

/-- Items are kept in reverse. -/
def bodyOf : List ClassBody → ClassBody
  | [] => .empty
  | [item] => item
  | items => .union items.reverse

/-- Ends the right side of a waiting operator. -/
def closeOperator (stack : List ClassFrame) (right : ClassBody) : ClassBody × List ClassFrame :=
  match stack with
  | .operator op left :: rest => (.combined op left right, rest)
  | _ => (right, stack)

def asciiClassNamed? (name : Text) : Option AsciiClass :=
  let table : List (String × AsciiClass) :=
    [("alnum", .alnum), ("alpha", .alpha), ("ascii", .ascii), ("blank", .blank),
      ("cntrl", .cntrl), ("digit", .digit), ("graph", .graph), ("lower", .lower),
      ("print", .print), ("punct", .punct), ("space", .space), ("upper", .upper),
      ("word", .word), ("xdigit", .xdigit)]
  (table.find? fun p => p.1.toList = name).map Prod.snd

/-- A class such as `[:alpha:]`, behind its bracket; blanks are not ignored inside. -/
def readAsciiClass? : Text → Option (ClassBody × Text)
  | ':' :: r =>
    let (negated, u) := match r with
      | '^' :: v => (true, v)
      | _ => (false, r)
    let name := u.takeWhile (· != ':')
    match u.dropWhile (· != ':') with
    | ':' :: ']' :: rest =>
      (asciiClassNamed? name).map fun c => (.named negated (.ascii c), rest)
    | _ => none
  | _ => none

/-- The beginning of a class behind its bracket: a sign of negation, hyphens that stand for
themselves, and a closing bracket that does so where it comes first. -/
def openClass (verbose : Bool) (t : Text) : Except Fault (Bool × List ClassBody × Text) := do
  let u ← need (skipSpace verbose t)
  let (negated, u) ← match u with
    | '^' :: r => (need (skipSpace verbose r)).map fun v => (true, v)
    | _ => .ok (false, u)
  let (hyphens, u) := takeHyphens [] (significant verbose false u) u
  let u ← need u
  match hyphens, u with
  | [], ']' :: r => (need (skipSpace verbose r)).map fun v => (negated, [literalOf ']'], v)
  | _, _ => .ok (negated, hyphens, u)
where
  need (t : Text) : Except Fault Text := if t.isEmpty then .error .classUnclosed else .ok t
  literalOf (c : Char) : ClassBody := .literal ⟨c, false⟩
  takeHyphens (items : List ClassBody) : List (Char × Text) → Text → List ClassBody × Text
    | ('-', r) :: rest, _ => takeHyphens (literalOf '-' :: items) rest (skipSpace verbose r)
    | _, u => (items, u)

/-- One character or one escape. -/
def readClassPrimitive (verbose : Bool) : Text → Except Fault (Primitive × Text)
  | [] => .error .classUnclosed
  | '\\' :: r => readEscape verbose r
  | c :: r => .ok (.literal ⟨c, false⟩, r)

def itemOf : Primitive → Except Fault ClassBody
  | .literal l => .ok (.literal l)
  | .named neg c => .ok (.named neg c)
  | .anchor _ | .dot => .error .classEscapeInvalid

def boundaryOf : Primitive → Except Fault Literal
  | .literal l => .ok l
  | _ => .error .classRangeLiteral

/-- A single item, or two with a hyphen between them. A hyphen before a closing bracket or before
another hyphen is none of a range. -/
def readClassItem (verbose : Bool) (t : Text) : Except Fault (ClassBody × Text) := do
  let (first, u) ← readClassPrimitive verbose t
  match skipSpace verbose u with
  | [] => .error .classUnclosed
  | '-' :: r =>
    if peekPast verbose r = some ']' ∨ peekPast verbose r = some '-' then
      (itemOf first).map fun item => (item, '-' :: r)
    else
      match skipSpace verbose r with
      | [] => .error .classUnclosed
      | v =>
        let (second, rest) ← readClassPrimitive verbose v
        let a ← boundaryOf first
        let b ← boundaryOf second
        if a.char ≤ b.char then .ok (.range a b, rest) else .error .classRangeInvalid
  | v => (itemOf first).map fun item => (item, v)

def readOperator? : Text → Option (SetOperator × Text)
  | '&' :: '&' :: r => some (.intersection, r)
  | '-' :: '-' :: r => some (.difference, r)
  | '~' :: '~' :: r => some (.symmetricDifference, r)
  | _ => none

/-- The rest of a class. Every round reads a character at least, which bounds the rounds. -/
def readClassRest (verbose : Bool) :
    Nat → List ClassFrame → List ClassBody → Text → Except Fault ((Bool × ClassBody) × Text)
  | 0, _, _, _ => .error .classUnclosed
  | fuel + 1, stack, items, t =>
    match skipSpace verbose t with
    | [] => .error .classUnclosed
    | '[' :: r =>
      match readAsciiClass? r with
      | some (item, rest) => readClassRest verbose fuel stack (item :: items) rest
      | none => do
        let (negated, inner, rest) ← openClass verbose r
        readClassRest verbose fuel (.opened items negated :: stack) inner rest
    | ']' :: r =>
      match closeOperator stack (bodyOf items) with
      | (body, [.opened _ negated]) => .ok ((negated, body), r)
      | (body, .opened outer negated :: rest) =>
        readClassRest verbose fuel rest (.bracketed negated body :: outer) r
      | (_, _) => .error .classUnclosed
    | u =>
      match readOperator? u with
      | some (op, r) =>
        let (left, rest) := closeOperator stack (bodyOf items)
        readClassRest verbose fuel (.operator op left :: rest) [] r
      | none => do
        let (item, rest) ← readClassItem verbose u
        readClassRest verbose fuel stack (item :: items) rest

/-- A class behind its bracket: whether it is negated, and its body. -/
def readClass (verbose : Bool) (t : Text) : Except Fault ((Bool × ClassBody) × Text) := do
  let (negated, items, rest) ← openClass verbose t
  readClassRest verbose (t.length + 1) [.opened [] negated] items rest

end FleetHealth.Pattern
