import FleetHealth.Text.Lines
import FleetHealth.Text.Substring

/- The whole lines that a span touches. A line feed belongs to the line that it ends. -/
namespace FleetHealth

/-- Where the last line that begins in the first `n` characters begins; `at_` is the position of
the text, and `start` that of the line it is on. -/
def lineStartFrom (start at_ : Nat) : Nat → Text → Nat
  | 0, _ => start
  | _, [] => start
  | n + 1, c :: r => lineStartFrom (if c = newline then at_ + 1 else start) (at_ + 1) n r

/-- The position of the first character of the line on which position `n` is. -/
def lineStart (t : Text) (n : Nat) : Nat := lineStartFrom 0 0 n t

/-- The position of the first line feed from position `n` on, or the end of the text. -/
def lineStop (t : Text) (n : Nat) : Nat := n + (t.drop n).findIdx (· == newline)

namespace Span

/-- The characters of a text that a span covers. -/
def slice (s : Span) (t : Text) : Text := (t.drop s.start).take (s.stop - s.start)

/-- The smallest run of whole lines around a span, less the line feed at its end. -/
def cover (t : Text) (s : Span) : Span :=
  let start := lineStart t s.start
  let stop := if t[s.stop - 1]? = some newline then s.stop - 1 else lineStop t s.stop
  ⟨start, max stop start⟩

end Span

/-- Lines with the carriage returns at their ends removed. -/
def withoutReturns (t : Text) : Text := joinLines ((cutLines t).map dropReturn)

end FleetHealth
