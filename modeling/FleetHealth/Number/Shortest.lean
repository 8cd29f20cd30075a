import FleetHealth.Number.Binary64
import FleetHealth.Text.Basic

/- The decimal with the fewest digits that lies nearer to a binary number than to any other, and
   two ways to lay it out. -/
namespace FleetHealth

/-- `0.d₁d₂… * 10 ^ point`, without zeros at the end. -/
structure Decimal where
  digits : Text
  point : Int
  deriving DecidableEq, Repr

namespace Binary64

/-- `num / den` divided by a power of ten, as a quotient again. -/
def divideTen (num den : Nat) (power : Int) : Nat × Nat :=
  if 0 ≤ power then (num, den * Nat.pow 10 power.toNat)
  else (num * Nat.pow 10 (-power).toNat, den)

/-- How often ten must be multiplied into `num` until it is at least `den`. -/
def tensBelow (den : Nat) : Nat → Nat → Nat
  | 0, _ => 0
  | fuel + 1, num => if den ≤ num then 0 else tensBelow den fuel (num * 10) + 1

/-- The exponent of the greatest power of ten that is not above a positive quotient. -/
def log10Ratio (num den : Nat) : Int :=
  if den ≤ num then ((Nat.toDigits 10 (num / den)).length : Int) - 1
  else -(tensBelow den 400 num : Int)

/-- Whether `n * 10 ^ power` is read back as the number: it lies between the midpoints to the two
neighbours, which themselves are read as an even mantissa. -/
def readsBack (mantissa : Nat) (exponent : Int) (n : Nat) (power : Int) : Bool :=
  let lower := if mantissa = leastNormal ∧ leastExponent < exponent then 4 * mantissa - 1
    else 4 * mantissa - 2
  let upper := 4 * mantissa + 2
  -- `n * 10 ^ power` in quarters of the last binary place
  let (a, b) := divideTen n 1 (-power)
  let (num, den) := scaleTwo a b (2 - exponent)
  if mantissa % 2 = 0 then lower * den ≤ num && num ≤ upper * den
  else lower * den < num && num < upper * den

/-- The nearest decimal with `count` digits that is read back. -/
def withDigits? (tie : Tie) (mantissa : Nat) (exponent : Int) (count : Nat) :
    Option (Nat × Int) :=
  let (num, den) := ratio mantissa exponent
  let power := log10Ratio num den - (count - 1 : Nat)
  let (a, b) := divideTen num den power
  let nearest := roundDiv tie a b
  [nearest, a / b, a / b + 1].find? (fun n => readsBack mantissa exponent n power) |>.map
    fun n => (n, power)

/-- Seventeen digits are always enough. -/
def shortest (tie : Tie) (mantissa : Nat) (exponent : Int) : Decimal :=
  if mantissa = 0 then ⟨['0'], 1⟩
  else
    let (n, power) :=
      (((List.range 17).map (· + 1)).findSome? (withDigits? tie mantissa exponent)).getD (0, 0)
    let ds := natText n
    let kept := (ds.reverse.dropWhile (· == '0')).reverse
    ⟨kept, power + ds.length⟩

end Binary64

namespace Decimal

def zeros (n : Int) : Text := List.replicate n.toNat '0'

/-- Without an exponent, and with at least one digit on both sides of the point. -/
def positional (d : Decimal) : Text :=
  if d.point ≤ 0 then "0.".toList ++ zeros (-d.point) ++ d.digits
  else if (d.digits.length : Int) ≤ d.point then
    d.digits ++ zeros (d.point - d.digits.length) ++ ".0".toList
  else d.digits.take d.point.toNat ++ '.' :: d.digits.drop d.point.toNat

/-- One digit before the point, which stands only before more digits, and then the exponent. -/
def scientific (d : Decimal) : Text :=
  let whole := match d.digits with
    | [c] => [c]
    | c :: r => c :: '.' :: r
    | [] => []
  whole ++ 'e' :: intText (d.point - 1)

end Decimal

namespace Binary64

def signText (negative : Bool) : Text := if negative then ['-'] else []

/-- Numbers in a configuration are written without exponents. -/
def plainText : Binary64 → Text
  | .finite negative m e => signText negative ++ (shortest .up m e).positional
  | .infinite negative => signText negative ++ "inf".toList
  | .nan => "NaN".toList

/-- Numbers in a document are written without an exponent when the point stands at most four
zeros before the first digit and at most sixteen places behind it. -/
def compactText : Binary64 → Text
  | .finite negative m e =>
    let d := shortest .toEven m e
    signText negative ++
      if -5 < d.point ∧ d.point ≤ 16 then d.positional else d.scientific
  | .infinite negative => signText negative ++ "inf".toList
  | .nan => "NaN".toList

end Binary64
end FleetHealth
