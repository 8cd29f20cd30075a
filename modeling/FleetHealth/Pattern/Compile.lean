import FleetHealth.Pattern.Automaton
import FleetHealth.Pattern.Meaning
import FleetHealth.Pattern.Parse
import FleetHealth.Pattern.Size

/- From a written pattern to its automaton, and the pattern that means a text as it stands. -/
namespace FleetHealth.Pattern

/-- An automaton that would take too many bytes is refused before it is built. -/
def Term.compile (t : Term) : Except Fault Automaton :=
  if sizeLimit < t.automatonBytes then .error .tooLarge else .ok t.automaton

def compile (pattern : Text) : Except Fault Automaton := do
  let ast ← parse pattern
  let (t, _) ← ast.meaning .initial
  t.compile

/-- Each character that could mean something else has a backslash before it. -/
def escape (t : Text) : Text := t.flatMap fun c => if isMeta c then ['\\', c] else [c]

end FleetHealth.Pattern
