import FleetHealth.Pattern.Compile
import FleetHealth.Pattern.Search

/- How one failure signature is looked for: as a text of its own or as a pattern. -/
namespace FleetHealth

inductive Matcher where
  | literal (needle : Text)
  | pattern (a : Pattern.Automaton)
  deriving Repr

namespace Matcher

/-- A text too long for the automaton of a pattern is too long for a signature as well. -/
def ofText (needle : Text) : Except Pattern.Fault Matcher :=
  if Pattern.sizeLimit < (Pattern.Term.literal needle).automatonBytes then .error .tooLarge
  else .ok (.literal needle)

def ofPattern (p : Text) : Except Pattern.Fault Matcher := (Pattern.compile p).map .pattern

/-- The matches from left to right, without overlaps; those of nothing count for nothing. -/
def spans (t : Text) : Matcher → List Span
  | .literal needle => occurrences needle t
  | .pattern a => (a.matchesIn t).filter fun s => s.start < s.stop

end Matcher
end FleetHealth
