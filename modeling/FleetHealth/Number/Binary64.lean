/- Numbers of 53 binary digits with an exponent, and the one nearest to a quotient. -/
namespace FleetHealth

/-- A finite one is `mantissa * 2 ^ exponent`, and its mantissa has 53 binary digits unless its
exponent is the least one. -/
inductive Binary64 where
  | finite (negative : Bool) (mantissa : Nat) (exponent : Int)
  | infinite (negative : Bool)
  | nan
  deriving DecidableEq, Repr

/-- What to do with a quotient halfway between two numbers. -/
inductive Tie where
  | toEven
  | up
  deriving DecidableEq, Repr

/-- The quotient rounded to the nearest whole number. -/
def roundDiv (tie : Tie) (num den : Nat) : Nat :=
  let q := num / den
  let r := num % den
  if 2 * r < den then q
  else if den < 2 * r then q + 1
  else match tie with
    | .toEven => if q % 2 = 0 then q else q + 1
    | .up => q + 1

namespace Binary64

/-- The least mantissa with 53 binary digits. -/
def leastNormal : Nat := 4503599627370496

def leastExponent : Int := -1074

def greatestExponent : Int := 971

/-- `num / den` times two to a power, as a quotient again. -/
def scaleTwo (num den : Nat) (power : Int) : Nat × Nat :=
  if 0 ≤ power then (num <<< power.toNat, den) else (num, den <<< (-power).toNat)

/-- The exponent of the greatest power of two that is not above a positive quotient. -/
def log2Ratio (num den : Nat) : Int :=
  let guess := (num.log2 : Int) - den.log2
  let (n, d) := scaleTwo num den (-guess)
  if n < d then guess - 1 else guess

/-- The nearest number to `num / den`; halfway the even mantissa wins. -/
def ofRatio (negative : Bool) (num den : Nat) : Binary64 :=
  if num = 0 then .finite negative 0 leastExponent
  else
    let exponent := max (log2Ratio num den - 52) leastExponent
    let (n, d) := scaleTwo num den (-exponent)
    let m := roundDiv .toEven n d
    let (m, exponent) := if m = 2 * leastNormal then (leastNormal, exponent + 1) else (m, exponent)
    if greatestExponent < exponent then .infinite negative else .finite negative m exponent

/-- The nearest number to `n * 10 ^ power`. Powers far outside the range are not computed. -/
def ofDecimal (negative : Bool) (n : Nat) (power : Int) : Binary64 :=
  let places : Int := (Nat.toDigits 10 n).length
  if n = 0 ∨ places + power < -330 then .finite negative 0 leastExponent
  else if 330 < places + power then .infinite negative
  else if 0 ≤ power then ofRatio negative (n * Nat.pow 10 power.toNat) 1
  else ofRatio negative n (Nat.pow 10 (-power).toNat)

/-- A finite number without its sign, as a quotient. -/
def ratio (mantissa : Nat) (exponent : Int) : Nat × Nat := scaleTwo mantissa 1 exponent

end Binary64
end FleetHealth
