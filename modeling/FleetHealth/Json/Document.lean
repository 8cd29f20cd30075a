import FleetHealth.Json.Value

/- Reading documents. -/
namespace FleetHealth.Json

def isSpace (c : Char) : Bool := c == ' ' || c == '\n' || c == '\t' || c == '\r'

def skipSpaces (t : Text) : Text := t.dropWhile isSpace

/-- The four digits of an escape, as a number. -/
def readUnit (t : Text) : Option (Nat × Text) :=
  let ds := t.take 4
  if ds.length = 4 ∧ ds.all isHexDigit then some (digitsValue 16 ds, t.drop 4) else none

def escapedChar? : Char → Option Char
  | '"' => some '"'
  | '\\' => some '\\'
  | '/' => some '/'
  | 'b' => some '\x08'
  | 'f' => some '\x0c'
  | 'n' => some '\n'
  | 'r' => some '\r'
  | 't' => some '\t'
  | _ => none

/-- A part of a text between quotes: a character, or a unit of sixteen bits. -/
inductive Piece where
  | char (c : Char)
  | unit (n : Nat)

/-- The parts up to the closing quote. -/
def readPieces : Nat → Text → Option (List Piece × Text)
  | 0, _ => none
  | fuel + 1, t =>
    match t with
    | '"' :: r => some ([], r)
    | '\\' :: 'u' :: r => do
      let (n, r) ← readUnit r
      let (ps, r) ← readPieces fuel r
      some (.unit n :: ps, r)
    | '\\' :: c :: r => do
      let c ← escapedChar? c
      let (ps, r) ← readPieces fuel r
      some (.char c :: ps, r)
    | c :: r =>
      if c.toNat < 0x20 || c == '\\' then none
      else do
        let (ps, r) ← readPieces fuel r
        some (.char c :: ps, r)
    | [] => none

/-- The characters of the parts. Two units may make up one character; a unit that is half of one
must not stand alone. -/
def joinPieces : List Piece → Option Text
  | [] => some []
  | .char c :: rest => (joinPieces rest).map (c :: ·)
  | .unit n :: .unit m :: rest =>
    if 0xd800 ≤ n ∧ n < 0xdc00 ∧ 0xdc00 ≤ m ∧ m < 0xe000 then
      (joinPieces rest).map (Char.ofNat (0x10000 + (n - 0xd800) * 0x400 + (m - 0xdc00)) :: ·)
    else
      match charAt? n with
      | some c => (joinPieces (.unit m :: rest)).map (c :: ·)
      | none => none
  | .unit n :: rest =>
    match charAt? n with
    | some c => (joinPieces rest).map (c :: ·)
    | none => none

/-- A text behind its opening quote. -/
def readText (t : Text) : Option (Option Text × Text) :=
  (readPieces (t.length + 1) t).map fun (ps, r) => (joinPieces ps, r)

/-- At least one digit. -/
def readDigits (t : Text) : Option (Text × Text) :=
  let ds := t.takeWhile isDigit
  if ds.isEmpty then none else some (ds, t.drop ds.length)

def readFraction : Text → Option (Option Text × Text)
  | '.' :: r => (readDigits r).map fun (ds, r) => (some ds, r)
  | t => some (none, t)

def readExponent (t : Text) : Option (Option Int × Text) :=
  match t with
  | c :: r =>
    if c == 'e' || c == 'E' then
      let (negative, r) := match r with
        | '-' :: s => (true, s)
        | '+' :: s => (false, s)
        | _ => (false, r)
      (readDigits r).map fun (ds, r) =>
        let n : Int := digitsValue 10 ds
        (some (if negative then -n else n), r)
    else some (none, t)
  | [] => some (none, [])

/-- A number behind its sign; only a single zero begins with zero. -/
def readNumber (negative : Bool) (t : Text) : Option (Number × Text) := do
  let (whole, r) ← readDigits t
  if whole.length ≠ 1 ∧ whole.head? = some '0' then none
  else
    let (fraction, r) ← readFraction r
    let (exponent, r) ← readExponent r
    some (⟨negative, whole, fraction, exponent⟩, r)

/-- A value that holds no others. -/
def readScalar (t : Text) : Option (Scalar × Text) :=
  match t with
  | 'n' :: 'u' :: 'l' :: 'l' :: r => some (.null, r)
  | 't' :: 'r' :: 'u' :: 'e' :: r => some (.boolean true, r)
  | 'f' :: 'a' :: 'l' :: 's' :: 'e' :: r => some (.boolean false, r)
  | '"' :: r => (readText r).map fun (s, r) => (.text s, r)
  | '-' :: r => (readNumber true r).map fun (x, r) => (.number x, r)
  | _ => (readNumber false t).map fun (x, r) => (.number x, r)

mutual

/-- A value and what is left behind it, unless the document breaks off. -/
def readValue : Nat → Text → Value × Option Text
  | 0, _ => (.broken, none)
  | fuel + 1, t =>
    match skipSpaces t with
    | '[' :: r =>
      let (items, rest) := match skipSpaces r with
        | ']' :: r => ([], some r)
        | r => readItems fuel r
      (.array (r.length + 1) items (rest.map List.length), rest)
    | '{' :: r =>
      let (members, rest) := match skipSpaces r with
        | '}' :: r => ([], some r)
        | r => readMembers fuel r
      (.object (r.length + 1) members (rest.map List.length), rest)
    | t =>
      match readScalar t with
      | some (s, r) => (.scalar s r.length, some r)
      | none => (.broken, none)

/-- The items of an array that is not empty, up to its end. -/
def readItems : Nat → Text → List Value × Option Text
  | 0, _ => ([], none)
  | fuel + 1, t =>
    match readValue fuel t with
    | (v, none) => ([v], none)
    | (v, some r) =>
      match skipSpaces r with
      | ']' :: r => ([v], some r)
      | ',' :: r =>
        let (vs, rest) := readItems fuel r
        (v :: vs, rest)
      | _ => ([v], none)

/-- The members of an object that is not empty, up to its end. -/
def readMembers : Nat → Text → List (Key × Value) × Option Text
  | 0, _ => ([], none)
  | fuel + 1, t =>
    match skipSpaces t with
    | '"' :: r =>
      match readText r with
      | none => ([], none)
      | some (name, r) =>
        let r := skipSpaces r
        let key : Key := ⟨name, r.length⟩
        match r with
        | ':' :: r =>
          match readValue fuel r with
          | (v, none) => ([(key, v)], none)
          | (v, some r) =>
            match skipSpaces r with
            | '}' :: r => ([(key, v)], some r)
            | ',' :: r =>
              let (ms, rest) := readMembers fuel r
              ((key, v) :: ms, rest)
            | _ => ([(key, v)], none)
        | _ => ([(key, .broken)], none)
    | _ => ([], none)

end

/-- A document: a value, and whether nothing but blanks stands behind it. -/
structure Document where
  value : Value
  ended : Bool
  deriving Repr

def Document.ofText (t : Text) : Document :=
  let (v, rest) := readValue (2 * t.length + 2) t
  ⟨v, rest.any fun r => (skipSpaces r).isEmpty⟩

end FleetHealth.Json
