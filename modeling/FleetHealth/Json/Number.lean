import FleetHealth.Number.Shortest

/- Numbers of a document as they are written, and as what they are read. A whole number that fits
   64 bits is read exactly. Any other number is read as a float: the digits that fit 64 bits times
   a power of ten. -/
namespace FleetHealth.Json

structure Number where
  negative : Bool
  whole : Text
  fraction : Option Text
  exponent : Option Int
  deriving DecidableEq, Repr

inductive Reading where
  | integer (n : Int)
  | float (x : Binary64)
  deriving DecidableEq, Repr

/-- Takes digits into `n` as long as it fits; what is left are the digits that did not. -/
def absorb (n : Nat) : Text → Nat × Text
  | [] => (n, [])
  | c :: r =>
    let m := n * 10 + (digitValue? c).getD 0
    if m < wordLimit then absorb m r else (n, c :: r)

/-- The nearest number to the product of a finite number with a power of ten, which is rounded
itself. -/
def timesTen (x : Binary64) (power : Nat) : Binary64 :=
  match x, Binary64.ofDecimal false 1 power with
  | .finite negative m e, .finite _ n f =>
    let (num, den) := Binary64.scaleTwo (m * n) 1 (e + f)
    Binary64.ofRatio negative num den
  | _, _ => .infinite false

/-- The nearest number to the quotient by a power of ten, which is rounded itself. -/
def overTen (x : Binary64) (power : Nat) : Binary64 :=
  match x, Binary64.ofDecimal false 1 power with
  | .finite negative m e, .finite _ n f =>
    let (num, den) := Binary64.scaleTwo m n (e - f)
    Binary64.ofRatio negative num den
  | _, _ => x

def isZero : Binary64 → Bool
  | .finite _ m _ => m == 0
  | _ => false

/-- The greatest power of ten that one multiplication or division takes. -/
def powerLimit : Nat := 308

/-- Divides by more than one power of ten; after a few divisions nothing is left. -/
def overTens (x : Binary64) (power : Nat) : Nat → Binary64
  | 0 => x
  | steps + 1 =>
    if power ≤ powerLimit then overTen x power
    else if isZero x then x
    else overTens (overTen x powerLimit) (power - powerLimit) steps

/-- None where the number is too large. -/
def scaled? (n : Nat) (power : Int) : Option Binary64 :=
  let x := Binary64.ofRatio false n 1
  if power < 0 then some (overTens x (-power).toNat 4)
  else if power.toNat ≤ powerLimit then
    match timesTen x power.toNat with
    | .finite negative m e => some (.finite negative m e)
    | _ => none
  else if n = 0 then some x
  else none

def negated (negative : Bool) : Binary64 → Binary64
  | .finite _ m e => .finite negative m e
  | .infinite _ => .infinite negative
  | .nan => .nan

/-- A number is refused when it is too large to be a float. Zero with a sign is a float, because
no integer keeps the sign. -/
def Number.read? (x : Number) : Option Reading :=
  let (n, dropped) := absorb 0 x.whole
  let float (n : Nat) (power : Int) : Option Reading :=
    (scaled? n power).map fun y => .float (negated x.negative y)
  match x.fraction, x.exponent with
  | none, none =>
    if !dropped.isEmpty then float n dropped.length
    else if !x.negative then some (.integer n)
    else if n = 0 ∨ signedLimit < n then float n 0
    else some (.integer (-n))
  | fraction, exponent =>
    let places := fraction.getD []
    let (n, left) := absorb n places
    float n (dropped.length - (places.length - left.length : Nat) + exponent.getD 0)

end FleetHealth.Json
