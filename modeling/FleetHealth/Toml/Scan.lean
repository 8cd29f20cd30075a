import FleetHealth.Toml.Value

/- The smallest parts of a document: blanks, comments, quoted texts, numbers and dates. -/
namespace FleetHealth.Toml

/-- Where a document could not be read on. -/
structure SyntaxFault where
  place : Left
  deriving DecidableEq, Repr

abbrev Reader (α : Type) := Text → Except SyntaxFault (α × Text)

/-- The document is refused at the text that is left. -/
def refuse {α : Type} (rest : Text) : Except SyntaxFault α := .error ⟨rest.length⟩

def isSpace (c : Char) : Bool := c == ' ' || c == '\t'

def skipSpaces (t : Text) : Text := t.dropWhile isSpace

/-- Characters that may stand in a comment and between quotes on one line. -/
def isPlain (c : Char) : Bool := c == '\t' || (0x20 ≤ c.toNat && c.toNat != 0x7f)

/-- What is left behind a line end, if there is one. -/
def afterNewline? : Text → Option Text
  | '\n' :: r => some r
  | '\r' :: '\n' :: r => some r
  | _ => none

def skipComment : Text → Text
  | '#' :: r => r.dropWhile isPlain
  | t => t

/-- The end of a line, or of the document, after an optional comment. -/
def endLine (t : Text) : Except SyntaxFault Text :=
  let t := skipComment (skipSpaces t)
  match t with
  | [] => .ok []
  | _ => match afterNewline? t with
    | some r => .ok r
    | none => refuse t

/-- Skips blanks, line ends and comments between the items of an array. -/
def skipFiller (inComment : Bool) : Text → Text
  | [] => []
  | '\r' :: '\n' :: r => skipFiller false r
  | '\n' :: r => skipFiller false r
  | c :: r =>
    if inComment then if isPlain c then skipFiller true r else c :: r
    else if isSpace c then skipFiller false r
    else if c == '#' then skipFiller true r
    else c :: r

/-- Skips blanks and line ends. -/
def skipLines : Text → Text
  | [] => []
  | '\r' :: '\n' :: r => skipLines r
  | c :: r => if isSpace c || c == '\n' then skipLines r else c :: r

/-- A character given by exactly `count` hexadecimal digits. -/
def readHex (count : Nat) : Reader Char := fun t =>
  let ds := (t.take count).takeWhile isHexDigit
  match if ds.length = count then charAt? (digitsValue 16 ds) else none with
  | some c => .ok (c, t.drop count)
  | none => refuse t

/-- What follows a backslash. -/
def readEscape : Reader Char
  | 'b' :: r => .ok ('\x08', r)
  | 'f' :: r => .ok ('\x0c', r)
  | 'n' :: r => .ok ('\n', r)
  | 'r' :: r => .ok ('\r', r)
  | 't' :: r => .ok ('\t', r)
  | '"' :: r => .ok ('"', r)
  | '\\' :: r => .ok ('\\', r)
  | 'u' :: r => readHex 4 r
  | 'U' :: r => readHex 8 r
  | t => refuse t

/-- The rest of a quoted text on one line. -/
def readQuoted : Nat → Reader Text
  | 0, t => refuse t
  | fuel + 1, t =>
    match t with
    | '"' :: r => .ok ([], r)
    | '\\' :: r => do
      let (c, r) ← readEscape r
      let (cs, r) ← readQuoted fuel r
      .ok (c :: cs, r)
    | c :: r =>
      if isPlain c then do
        let (cs, r) ← readQuoted fuel r
        .ok (c :: cs, r)
      else refuse t
    | [] => refuse t

/-- The rest of a text between single quotes, in which nothing is escaped. -/
def readVerbatim (t : Text) : Except SyntaxFault (Text × Text) :=
  let content := t.takeWhile fun c => isPlain c && c != '\''
  match t.drop content.length with
  | '\'' :: r => .ok (content, r)
  | rest => refuse rest

/-- How many of `run` quotes in a row belong to a text that three quotes end; none of them ends
it when there are fewer than three. -/
def keptQuotes (run : Nat) : Nat := if run < 3 then run else min (run - 3) 2

/-- The rest of a text over several lines between `quote`s. A backslash at the end of a line, where
it counts, hides the line end and all blanks behind it. -/
def readLong (quote : Char) (escapes : Bool) : Nat → Reader Text
  | 0, t => refuse t
  | fuel + 1, t =>
    match t with
    | [] => refuse t
    | c :: r =>
      if c == quote then
        let run := (t.takeWhile (· == quote)).length
        let kept := List.replicate (keptQuotes run) quote
        if 3 ≤ run then .ok (kept, t.drop (kept.length + 3))
        else do
          let (cs, r) ← readLong quote escapes fuel (t.drop run)
          .ok (kept ++ cs, r)
      else if escapes && c == '\\' then
        match afterNewline? (skipSpaces r) with
        | some r => readLong quote escapes fuel (skipLines r)
        | none => do
          let (c, r) ← readEscape r
          let (cs, r) ← readLong quote escapes fuel r
          .ok (c :: cs, r)
      else
        match afterNewline? t with
        | some r => do
          let (cs, r) ← readLong quote escapes fuel r
          .ok ('\n' :: cs, r)
        | none =>
          if isPlain c then do
            let (cs, r) ← readLong quote escapes fuel r
            .ok (c :: cs, r)
          else refuse t

/-- A line end right behind the opening quotes does not count. -/
def dropFirstNewline (t : Text) : Text := (afterNewline? t).getD t

/-- A text in one of the four kinds of quotes. -/
def readText : Reader Text
  | '"' :: '"' :: '"' :: r => readLong '"' true (r.length + 1) (dropFirstNewline r)
  | '\'' :: '\'' :: '\'' :: r => readLong '\'' false (r.length + 1) (dropFirstNewline r)
  | '"' :: r => readQuoted (r.length + 1) r
  | '\'' :: r => readVerbatim r
  | t => refuse t

/-- Digits after the first one; an underscore may stand between two digits. -/
def moreDigits (isIn : Char → Bool) : Text → Option (Text × Text)
  | [] => some ([], [])
  | [c] => if isIn c then some ([c], []) else if c == '_' then none else some ([], [c])
  | c :: d :: r =>
    if isIn c then (moreDigits isIn (d :: r)).map fun (ds, r) => (c :: ds, r)
    else if c == '_' then
      if isIn d then (moreDigits isIn r).map fun (ds, r) => (d :: ds, r) else none
    else some ([], c :: d :: r)

def readDigits (isIn : Char → Bool) (t : Text) : Option (Text × Text) :=
  match t with
  | c :: r => if isIn c then (moreDigits isIn r).map fun (ds, r) => (c :: ds, r) else none
  | [] => none

/-- Decimal digits without a zero in front. -/
def readWhole (t : Text) : Option (Text × Text) :=
  match t with
  | '0' :: r => some (['0'], r)
  | _ => readDigits isDigit t

def readSign : Text → Bool × Text
  | '-' :: r => (true, r)
  | '+' :: r => (false, r)
  | t => (false, t)

/-- The exponent behind a number; zero where there is none. -/
def readExponent (t : Text) : Option (Int × Text) :=
  match t with
  | c :: r =>
    if c == 'e' || c == 'E' then
      let (negative, r) := readSign r
      (readDigits isDigit r).map fun (ds, r) =>
        let n : Int := digitsValue 10 ds
        (if negative then -n else n, r)
    else some (0, t)
  | [] => some (0, [])

/-- A decimal number. One too large for its kind is refused where it begins; below zero a float
may be infinite. -/
def readDecimal (t : Text) : Except SyntaxFault (Scalar × Text) :=
  let (negative, body) := readSign t
  match readWhole body with
  | none => refuse t
  | some (whole, rest) =>
    let fraction : Option (Option Text × Text) := match rest with
      | '.' :: r => (readDigits isDigit r).map fun (ds, r) => (some ds, r)
      | _ => some (none, rest)
    match fraction with
    | none => refuse rest
    | some (fraction, rest') =>
      match readExponent rest' with
      | none => refuse rest'
      | some (power, rest'') =>
        if fraction.isNone && rest''.length == rest'.length then
          let n : Int := digitsValue 10 whole
          let n := if negative then -n else n
          if -signedLimit ≤ n ∧ n < signedLimit then .ok (.integer n, rest'') else refuse t
        else
          let places := fraction.getD []
          let x := Binary64.ofDecimal negative (digitsValue 10 (whole ++ places))
            (power - places.length)
          if x = .infinite false then refuse t else .ok (.float x, rest'')

def readBased (base : Nat) (isIn : Char → Bool) (t : Text) : Except SyntaxFault (Scalar × Text) :=
  match readDigits isIn t with
  | none => refuse t
  | some (ds, r) =>
    let n := digitsValue base ds
    if n < signedLimit then .ok (.integer n, r) else refuse t

def readNumber : Reader Scalar
  | '0' :: 'x' :: r => readBased 16 isHexDigit r
  | '0' :: 'o' :: r => readBased 8 (fun c => '0' ≤ c && c ≤ '7') r
  | '0' :: 'b' :: r => readBased 2 (fun c => c == '0' || c == '1') r
  | t =>
    let (negative, body) := readSign t
    match body with
    | 'i' :: 'n' :: 'f' :: r => .ok (.float (.infinite negative), r)
    | 'n' :: 'a' :: 'n' :: r => .ok (.float .nan, r)
    | _ => readDecimal t

/-- Exactly `count` digits that write a number from `low` to `high`. -/
def fixedDigits (count low high : Nat) (t : Text) : Option (Nat × Text) :=
  let ds := t.take count
  let n := digitsValue 10 ds
  if ds.length = count ∧ ds.all isDigit ∧ low ≤ n ∧ n ≤ high then some (n, t.drop count) else none

def expectChar (c : Char) : Text → Option Text
  | d :: r => if c == d then some r else none
  | [] => none

def daysIn (year month : Nat) : Nat :=
  if month = 2 then
    if year % 4 = 0 ∧ (year % 100 ≠ 0 ∨ year % 400 = 0) then 29 else 28
  else if month ∈ [4, 6, 9, 11] then 30
  else 31

def afterDay? (t : Text) : Option Text := do
  let (year, t) ← fixedDigits 4 0 9999 t
  let t ← expectChar '-' t
  let (month, t) ← fixedDigits 2 1 12 t
  let t ← expectChar '-' t
  let (_, t) ← fixedDigits 2 1 (daysIn year month) t
  some t

def afterTime? (t : Text) : Option Text := do
  let (_, t) ← fixedDigits 2 0 23 t
  let t ← expectChar ':' t
  let (_, t) ← fixedDigits 2 0 59 t
  let t ← expectChar ':' t
  let (_, t) ← fixedDigits 2 0 60 t
  match t with
  | '.' :: d :: r => some (if isDigit d then r.dropWhile isDigit else t)
  | _ => some t

def afterOffset? (t : Text) : Option Text :=
  match t with
  | 'Z' :: r | 'z' :: r => some r
  | '+' :: r | '-' :: r => do
    let (_, r) ← fixedDigits 2 0 23 r
    let r ← expectChar ':' r
    let (_, r) ← fixedDigits 2 0 59 r
    some r
  | _ => none

/-- What is left behind a date, a time, or both. -/
def afterDate? (t : Text) : Option Text :=
  match afterDay? t with
  | none => afterTime? t
  | some r =>
    match r with
    | c :: s =>
      if c ∈ ['T', 't', ' '] then
        match afterTime? s with
        | some s => some ((afterOffset? s).getD s)
        | none => some r
      else some r
    | [] => some r

def readScalar (t : Text) : Except SyntaxFault (Scalar × Text) :=
  match t with
  | '"' :: _ | '\'' :: _ => (readText t).map fun (s, r) => (.text s, r)
  | 't' :: 'r' :: 'u' :: 'e' :: r => .ok (.boolean true, r)
  | 'f' :: 'a' :: 'l' :: 's' :: 'e' :: r => .ok (.boolean false, r)
  | _ =>
    match afterDate? t with
    | some r => .ok (.date, r)
    | none => readNumber t

end FleetHealth.Toml
