import FleetHealth.Toml.Scan

/- Documents: lines that give a key a value, and headers that open the tables they belong to. -/
namespace FleetHealth.Toml

/-- Values may not nest deeper than this, and a key has fewer parts. -/
def nestLimit : Nat := 80

def isBareKey (c : Char) : Bool := c.isAlphanum || c == '-' || c == '_'

def readSimpleKey (t : Text) : Except SyntaxFault (Key × Text) :=
  match t with
  | '"' :: r => (readQuoted (r.length + 1) r).map fun (name, rest) => (⟨name, t.length⟩, rest)
  | '\'' :: r => (readVerbatim r).map fun (name, rest) => (⟨name, t.length⟩, rest)
  | _ =>
    let name := t.takeWhile isBareKey
    if name.isEmpty then refuse t else .ok (⟨name, t.length⟩, t.drop name.length)

def startsKey : Text → Bool
  | c :: _ => isBareKey c || c == '"' || c == '\''
  | [] => false

/-- The parts of a key between points. A point with no part behind it is left where it stands. -/
def readKeyParts : Nat → Reader (List Key)
  | 0, t => refuse t
  | fuel + 1, t => do
    let (k, r) ← readSimpleKey (skipSpaces t)
    match skipSpaces r with
    | '.' :: r =>
      if startsKey (skipSpaces r) then do
        let (ks, r) ← readKeyParts fuel r
        .ok (k :: ks, r)
      else .ok ([k], '.' :: r)
    | r => .ok ([k], r)

/-- A key: the path to a table and the last part. -/
def readKey (t : Text) : Except SyntaxFault ((List Key × Key) × Text) := do
  let (parts, r) ← readKeyParts (t.length + 1) t
  match parts.getLast? with
  | some k => if parts.length < nestLimit then .ok ((parts.dropLast, k), r) else refuse t
  | none => refuse t

def resolve {α : Type} (place : Text) : Except Conflict α → Except SyntaxFault α
  | .ok a => .ok a
  | .error _ => refuse place

mutual

/-- Every call of these readers reads a character or is followed by one that does, which bounds
their depth. -/
def readValue (depth : Nat) : Nat → Reader Node
  | 0, t => refuse t
  | fuel + 1, t =>
    match t with
    | '[' :: r =>
      if depth + 1 < nestLimit then do
        let (items, r) ← readItems (depth + 1) fuel r
        .ok (.array t.length items, r)
      else refuse t
    | '{' :: r =>
      if depth + 1 < nestLimit then do
        let (es, r) ← readPairs (depth + 1) fuel [] r
        .ok (.table (some t.length) .inline es, r)
      else refuse t
    | _ => (readScalar t).map fun (v, r) => (.scalar t.length v, r)

/-- The items of an array; a comma may stand behind the last one. -/
def readItems (depth : Nat) : Nat → Reader (List Node)
  | 0, t => refuse t
  | fuel + 1, t =>
    match skipFiller false t with
    | ']' :: r => .ok ([], r)
    | t => do
      let (n, r) ← readValue depth fuel t
      match skipFiller false r with
      | ',' :: r => do
        let (ns, r) ← readItems depth fuel r
        .ok (n :: ns, r)
      | ']' :: r => .ok ([n], r)
      | r => refuse r

/-- The pairs of a table in braces, which is all on one line; no comma stands behind the last. -/
def readPairs (depth : Nat) : Nat → Entries → Reader Entries
  | 0, _, t => refuse t
  | fuel + 1, es, t =>
    match skipSpaces t, es with
    | '}' :: r, [] => .ok ([], r)
    | t, es => do
      let ((path, k), r) ← readKey t
      match r with
      | '=' :: r => do
        let (n, r) ← readValue depth fuel (skipSpaces r)
        let es ← resolve t (insert path k n .inline es)
        match skipSpaces r with
        | ',' :: r => readPairs depth fuel es r
        | '}' :: r => .ok (es, r)
        | r => refuse r
      | r => refuse r

end

/-- What has been read of a document: its tables, and the path to the one that is open. -/
structure Draft where
  root : Entries
  opened : List Key

def Draft.empty : Draft := ⟨[], []⟩

def Draft.add (d : Draft) (path : List Key) (k : Key) (n : Node) : Except Conflict Draft := do
  let root ← edit false (insert path k n) d.opened .header d.root
  .ok { d with root := root }

/-- A line with a key and a value. -/
def readPair (d : Draft) (t : Text) : Except SyntaxFault (Draft × Text) := do
  let ((path, k), r) ← readKey t
  match r with
  | '=' :: r => do
    let value := skipSpaces r
    let (n, r) ← readValue 0 (2 * value.length + 2) value
    let r ← endLine r
    let d ← resolve t (d.add path k n)
    .ok (d, r)
  | r => refuse r

def expectBrackets : Nat → Text → Except SyntaxFault Text
  | 0, t => .ok t
  | n + 1, ']' :: r => expectBrackets n r
  | _ + 1, t => refuse t

/-- A header, behind its opening brackets. -/
def readHeader (d : Draft) (start : Text) (repeated : Bool) (t : Text) :
    Except SyntaxFault (Draft × Text) := do
  let ((parents, k), r) ← readKey t
  let r ← expectBrackets (if repeated then 2 else 1) r
  let r ← endLine r
  let root ← resolve start
    (if repeated then openRepeated parents k start.length d.root
      else openTable parents k start.length d.root)
  .ok (⟨root, parents ++ [k]⟩, r)

/-- Every statement takes a character at least. -/
def readStatements : Nat → Draft → Text → Except SyntaxFault Draft
  | 0, d, _ => .ok d
  | fuel + 1, d, t => do
    match skipSpaces t with
    | [] => .ok d
    | '[' :: '[' :: r => do
      let (d, r) ← readHeader d ('[' :: '[' :: r) true r
      readStatements fuel d r
    | '[' :: r => do
      let (d, r) ← readHeader d ('[' :: r) false r
      readStatements fuel d r
    | c :: r =>
      if c == '#' || c == '\n' || c == '\r' then do
        let r ← endLine (c :: r)
        readStatements fuel d r
      else do
        let (d, r) ← readPair d (c :: r)
        readStatements fuel d r

/-- A byte order mark may stand in front. -/
def dropMark : Text → Text
  | '\ufeff' :: r => r
  | t => t

/-- The document as one table, which begins where the text does. -/
def parse (t : Text) : Except SyntaxFault Node := do
  let d ← readStatements (t.length + 1) .empty (dropMark t)
  .ok (.table (some t.length) .header d.root)

end FleetHealth.Toml
