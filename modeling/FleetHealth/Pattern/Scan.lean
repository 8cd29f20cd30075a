import FleetHealth.Pattern.Fault
import FleetHealth.Pattern.Written
import FleetHealth.Text.Blank

/- The small parts of a written pattern: blanks and comments, numbers, escapes, flags and names.
   A reader takes what is left of the pattern and gives what is left behind the part it read.
   In verbose mode blanks, and comments from a number sign to the end of the line, are ignored. -/
namespace FleetHealth.Pattern

abbrev Reader (α : Type) := Text → Except Fault (α × Text)

def skipIgnored (inComment : Bool) : Text → Text
  | [] => []
  | c :: r =>
    if inComment then skipIgnored (c != '\n') r
    else if isBlank c then skipIgnored false r
    else if c == '#' then skipIgnored true r
    else c :: r

def skipSpace (verbose : Bool) (t : Text) : Text := if verbose then skipIgnored false t else t

/-- The characters that are not ignored, each with what is left behind it. -/
def significant (verbose inComment : Bool) : Text → List (Char × Text)
  | [] => []
  | c :: r =>
    if verbose && inComment then significant verbose (c != '\n') r
    else if verbose && isBlank c then significant verbose false r
    else if verbose && c == '#' then significant verbose true r
    else (c, r) :: significant verbose false r

/-- What is left behind characters that were read, with blanks after them skipped too. -/
def leftBehind (verbose : Bool) (start : Text) (read : List (Char × Text)) : Text :=
  match read.getLast? with
  | none => start
  | some (_, r) => skipSpace verbose r

/-- The next character that counts behind a hyphen. A comment is not skipped here, only its
number sign. -/
def peekPast (verbose : Bool) (t : Text) : Option Char :=
  if verbose then (go false t).orElse fun _ => t.head? else t.head?
where
  go (inComment : Bool) : Text → Option Char
    | [] => none
    | c :: r =>
      if isBlank c then go inComment r
      else if !inComment && c == '#' then go true r
      else some c

/-- How often something is repeated is written with 32 bits. -/
def countLimit : Nat := 4294967296

/-- A decimal number that may have blanks around it. What is left does not depend on whether
there was a number. -/
def readDecimal (verbose : Bool) (t : Text) : Except Fault Nat × Text :=
  let start := trimStart t
  let digits := (significant verbose false start).takeWhile fun p => isDigit p.1
  let rest := afterBlanks (leftBehind verbose start digits)
  if digits.isEmpty then (.error .repetitionCountEmpty, rest)
  else
    let n := digitsValue 10 (digits.map Prod.fst)
    (if n < countLimit then .ok n else .error .decimalInvalid, rest)
where
  afterBlanks (t : Text) : Text :=
    let blanks := (significant verbose false t).takeWhile fun p => isBlank p.1
    leftBehind verbose t blanks

/-- The character whose number the hexadecimal digits write. -/
def hexChar (ds : Text) : Except Fault Char :=
  let n := digitsValue 16 ds
  if n.isValidChar then .ok (Char.ofNat n) else .error .hexInvalid

/-- Digits up to a closing brace. -/
def readBracedHex (verbose : Bool) (t : Text) : Except Fault (Char × Text) :=
  go [] (significant verbose false t)
where
  go (ds : Text) : List (Char × Text) → Except Fault (Char × Text)
    | [] => .error .escapeEnds
    | (c, r) :: rest =>
      if c = '}' then
        if ds.isEmpty then .error .hexEmpty
        else (hexChar ds.reverse).map fun x => (x, skipSpace verbose r)
      else if isHexDigit c then go (c :: ds) rest
      else .error .hexDigitInvalid

/-- Exactly `count` digits. -/
def readFixedHex (verbose : Bool) (count : Nat) (t : Text) : Except Fault (Char × Text) :=
  go [] count (significant verbose false t)
where
  go (ds : Text) : Nat → List (Char × Text) → Except Fault (Char × Text)
    | 0, _ => .error .escapeEnds
    | _ + 1, [] => .error .escapeEnds
    | n + 1, (c, r) :: rest =>
      if !isHexDigit c then .error .hexDigitInvalid
      else if n = 0 then (hexChar (c :: ds).reverse).map fun x => (x, skipSpace verbose r)
      else go (c :: ds) n rest

/-- A hexadecimal escape behind its letter. -/
def readHex (verbose : Bool) (letter : Char) (t : Text) : Except Fault (Literal × Text) :=
  match skipSpace verbose t with
  | [] => .error .escapeEnds
  | '{' :: r => (readBracedHex verbose r).map fun (c, rest) => (⟨c, false⟩, rest)
  | u =>
    let count := if letter = 'x' then 2 else if letter = 'u' then 4 else 8
    (readFixedHex verbose count u).map fun (c, rest) => (⟨c, letter = 'x'⟩, rest)

/-- The texts before and behind the first place where `mark` occurs. -/
def splitAtMark (mark : Text) : Text → Option (Text × Text)
  | [] => none
  | c :: r =>
    if mark.isPrefixOf (c :: r) then some ([], (c :: r).drop mark.length)
    else (splitAtMark mark r).map fun (a, b) => (c :: a, b)

/-- The part of a property escape between its braces; the flag says whether it is negated. -/
def propertyQuery (inner : Text) : Bool × PropertyQuery :=
  match splitAtMark "!=".toList inner with
  | some (p, v) => (true, .value p v)
  | none =>
    match splitAtMark ":".toList inner with
    | some (p, v) => (false, .value p v)
    | none =>
      match splitAtMark "=".toList inner with
      | some (p, v) => (false, .value p v)
      | none => (false, .name inner)

/-- A property escape behind its letter. -/
def readProperty (verbose negated : Bool) (t : Text) :
    Except Fault ((Bool × PropertyQuery) × Text) :=
  match skipSpace verbose t with
  | [] => .error .escapeEnds
  | '{' :: r =>
    let inner := (significant verbose false r).takeWhile fun p => p.1 != '}'
    match (significant verbose false r)[inner.length]? with
    | none => .error .escapeEnds
    | some (_, rest) =>
      let (flipped, q) := propertyQuery (inner.map Prod.fst)
      .ok ((negated != flipped, q), rest)
  | c :: r =>
    if c = '\\' then .error .unicodeClassInvalid
    else .ok ((negated, .name [c]), skipSpace verbose r)

def isMeta (c : Char) : Bool :=
  c ∈ ['\\', '.', '+', '*', '?', '(', ')', '|', '[', ']', '{', '}', '^', '$', '#', '&', '-', '~']

/-- A character that a backslash may stand before although it means nothing else. -/
def isEscapable (c : Char) : Bool :=
  isMeta c || (c.toNat < 0x80 && !c.isAlphanum && c != '<' && c != '>')

def isBoundaryLetter (c : Char) : Bool := c.isAlpha || c == '-'

def boundaryNamed? (name : Text) : Option Anchor :=
  if name = "start".toList then some .wordStart
  else if name = "end".toList then some .wordEnd
  else if name = "start-half".toList then some .wordStartHalf
  else if name = "end-half".toList then some .wordEndHalf
  else none

/-- What a word boundary is, behind its letter. A brace that no letter and no hyphen follows
begins a repetition and is left alone. -/
def readBoundary (verbose : Bool) (t : Text) : Except Fault (Anchor × Text) :=
  match t with
  | '{' :: r =>
    match significant verbose false r with
    | [] => .error .wordBoundaryEnds
    | cs@((c, _) :: _) =>
      if !isBoundaryLetter c then .ok (.wordBoundary, t)
      else
        let name := cs.takeWhile fun p => isBoundaryLetter p.1
        match cs[name.length]? with
        | some ('}', rest) =>
          match boundaryNamed? (name.map Prod.fst) with
          | some a => .ok (a, rest)
          | none => .error .wordBoundaryUnknown
        | _ => .error .wordBoundaryUnclosed
  | _ => .ok (.wordBoundary, t)

/-- The smallest parts of a pattern. -/
inductive Primitive where
  | literal (l : Literal)
  | dot
  | anchor (a : Anchor)
  | named (negated : Bool) (c : NamedClass)
  deriving Repr

def escapedControl? : Char → Option Char
  | 'a' => some '\x07'
  | 'f' => some '\x0c'
  | 't' => some '\t'
  | 'n' => some '\n'
  | 'r' => some '\r'
  | 'v' => some '\x0b'
  | _ => none

def escapedAnchor? : Char → Option Anchor
  | 'A' => some .textStart
  | 'z' => some .textEnd
  | 'B' => some .notWordBoundary
  | '<' => some .wordStart
  | '>' => some .wordEnd
  | _ => none

def escapedClass? : Char → Option (Bool × ShortClass)
  | 'd' => some (false, .digit)
  | 's' => some (false, .space)
  | 'w' => some (false, .word)
  | 'D' => some (true, .digit)
  | 'S' => some (true, .space)
  | 'W' => some (true, .word)
  | _ => none

/-- An escape behind its backslash. -/
def readEscape (verbose : Bool) : Text → Except Fault (Primitive × Text)
  | [] => .error .escapeEnds
  | c :: r =>
    if isDigit c then .error .backreference
    else if c = 'x' ∨ c = 'u' ∨ c = 'U' then
      (readHex verbose c r).map fun (l, rest) => (.literal l, rest)
    else if c = 'p' ∨ c = 'P' then
      (readProperty verbose (c = 'P') r).map fun ((neg, q), rest) =>
        (.named neg (.property q), rest)
    else if isEscapable c then .ok (.literal ⟨c, false⟩, r)
    else if c = 'b' then (readBoundary verbose r).map fun (a, rest) => (.anchor a, rest)
    else
      match escapedClass? c, escapedControl? c, escapedAnchor? c with
      | some (neg, k), _, _ => .ok (.named neg (.short k), r)
      | _, some x, _ => .ok (.literal ⟨x, false⟩, r)
      | _, _, some a => .ok (.anchor a, r)
      | _, _, _ => .error .escapeUnknown

def flagNamed? : Char → Option Flag
  | 'i' => some .ignoreCase
  | 'm' => some .multiLine
  | 's' => some .dotAll
  | 'U' => some .swapGreed
  | 'u' => some .unicode
  | 'R' => some .crlf
  | 'x' => some .verbose
  | _ => none

/-- Flags up to a colon or a closing parenthesis, which is left. `dangling` says whether the
last character read was a hyphen. -/
def readFlags (changes : FlagChanges) (negated dangling : Bool) :
    Text → Except Fault (FlagChanges × Text)
  | [] => .error .flagEnds
  | c :: r =>
    if c = ':' ∨ c = ')' then
      if dangling then .error .flagDangling else .ok (changes, c :: r)
    else if c = '-' then
      if negated then .error .flagNegationRepeated else readFlags changes true true r
    else
      match flagNamed? c with
      | none => .error .flagUnknown
      | some f =>
        if changes.any fun p => p.1 = f then .error .flagDuplicate
        else readFlags (changes ++ [(f, !negated)]) negated false r

/-- The value that the changes give a flag, if any. -/
def changedTo (changes : FlagChanges) (f : Flag) : Option Bool :=
  (changes.find? fun p => p.1 = f).map Prod.snd

end FleetHealth.Pattern
