import FleetHealth.Text.Basic

/- Durations in nanoseconds, and their text: the largest unit that is not above the duration,
   from seconds down, and a fraction without zeros at its end. -/
namespace FleetHealth

structure Duration where
  nanos : Nat
  deriving DecidableEq, Repr

namespace Duration

def ofMillis (n : Nat) : Duration := ⟨n * 1000000⟩

def padLeft (width : Nat) (t : Text) : Text := List.replicate (width - t.length) '0' ++ t

def dropZeros (t : Text) : Text := (t.reverse.dropWhile (· == '0')).reverse

/-- `n` in units of `10 ^ places`, then the name of the unit. -/
def inUnit (n places : Nat) (unit : Text) : Text :=
  let fraction := dropZeros (padLeft places (natText (n % Nat.pow 10 places)))
  natText (n / Nat.pow 10 places) ++ (if fraction.isEmpty then [] else '.' :: fraction) ++ unit

def text (d : Duration) : Text :=
  if 1000000000 ≤ d.nanos then inUnit d.nanos 9 "s".toList
  else if 1000000 ≤ d.nanos then inUnit d.nanos 6 "ms".toList
  else if 1000 ≤ d.nanos then inUnit d.nanos 3 "µs".toList
  else natText d.nanos ++ "ns".toList

end Duration
end FleetHealth
