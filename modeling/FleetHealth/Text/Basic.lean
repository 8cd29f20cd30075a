/- Texts are lists of characters, so that every rule about a text is a rule about a list.
   Numbers are written in decimal here and nowhere else. -/
namespace FleetHealth

abbrev Text := List Char

def newline : Char := '\n'

def natText (n : Nat) : Text := Nat.toDigits 10 n

def intText : Int → Text
  | .ofNat n => natText n
  | .negSucc n => '-' :: natText (n + 1)

/-- The texts in order, with `mark` between each two neighbours. -/
def joinWith (mark : Text) : List Text → Text
  | [] => []
  | [t] => t
  | t :: u :: rest => t ++ mark ++ joinWith mark (u :: rest)

/-- Puts a character in front of the first of the pieces, or begins a new one. -/
def consPiece (mark c : Char) : List Text → List Text
  | [] => if c = mark then [[], []] else [[c]]
  | p :: ps => if c = mark then [] :: p :: ps else (c :: p) :: ps

/-- The pieces between the places where `mark` stands, one more than there are marks. -/
def piecesAt (mark : Char) (t : Text) : List Text := t.foldr (consPiece mark) [[]]

def boolText (b : Bool) : Text := if b then "true".toList else "false".toList

/-- Lower-case hexadecimal, without leading zeros. -/
def hexText (n : Nat) : Text := Nat.toDigits 16 n

def isDigit (c : Char) : Bool := '0' ≤ c && c ≤ '9'

/-- The value of a digit in any base up to sixteen. -/
def digitValue? (c : Char) : Option Nat :=
  if '0' ≤ c ∧ c ≤ '9' then some (c.toNat - '0'.toNat)
  else if 'a' ≤ c ∧ c ≤ 'f' then some (c.toNat - 'a'.toNat + 10)
  else if 'A' ≤ c ∧ c ≤ 'F' then some (c.toNat - 'A'.toNat + 10)
  else none

def isHexDigit (c : Char) : Bool := (digitValue? c).isSome

/-- The number written by digits of the given base; characters that are no digits count as zero. -/
def digitsValue (base : Nat) (ds : Text) : Nat :=
  ds.foldl (fun n c => n * base + (digitValue? c).getD 0) 0

/-- The character of a code point, if it has one. -/
def charAt? (n : Nat) : Option Char :=
  if n < 0xd800 ∨ (0xdfff < n ∧ n < 0x110000) then some (Char.ofNat n) else none

/-- Numbers of 64 bits are below this. -/
def wordLimit : Nat := 18446744073709551616

/-- Numbers of 64 bits with a sign are below this, and not below its negative. -/
def signedLimit : Nat := 9223372036854775808

/-- A decimal number of 64 bits with an optional plus sign and at least one digit. -/
def parseWord? (t : Text) : Option Nat :=
  let ds := match t with
    | '+' :: r => r
    | _ => t
  if ds.isEmpty || !ds.all isDigit then none
  else
    let n := digitsValue 10 ds
    if n < wordLimit then some n else none

def lowerAscii (c : Char) : Char :=
  if 'A' ≤ c ∧ c ≤ 'Z' then Char.ofNat (c.toNat + 32) else c

/-- Equality that does not tell the two cases of an ASCII letter apart. -/
def sameIgnoringAsciiCase (s t : Text) : Bool := s.map lowerAscii == t.map lowerAscii

end FleetHealth
