import FleetHealth.Outcome
import FleetHealth.Signature.Cover
import FleetHealth.Signature.Matcher

/- A list of failure signatures, and the lines of a log in which they are found: each line once,
   in the order of the text, with the signature that comes first where several begin alike. -/
namespace FleetHealth

structure Signature where
  text : Text
  matcher : Matcher
  deriving Repr

def Signature.compile (literal : Bool) (t : Text) : Except (Text × Pattern.Fault) Signature :=
  match if literal then Matcher.ofText t else Matcher.ofPattern t with
  | .ok m => .ok ⟨t, m⟩
  | .error f => .error (t, f)

structure Detector where
  signatures : List Signature
  deriving Repr

/-- The lines of a match, and the place of its signature in the list. -/
structure Hit where
  lines : Span
  index : Nat
  deriving DecidableEq, Repr

/-- The order of hits: by where their lines begin, by where they end, by signature. -/
def Hit.before (a b : Hit) : Bool :=
  a.lines.start < b.lines.start ||
    (a.lines.start == b.lines.start &&
      (a.lines.stop < b.lines.stop || (a.lines.stop == b.lines.stop && a.index ≤ b.index)))

/-- Of matches with the same lines only the first stays. -/
def firstOfLines (seen : List Text) : List LineMatch → List LineMatch
  | [] => []
  | m :: rest =>
    if seen.contains m.line then firstOfLines seen rest
    else m :: firstOfLines (m.line :: seen) rest

namespace Detector

/-- The first signature that cannot be compiled is the fault of the list. -/
def compile (literal : Bool) (texts : List Text) : Except (Text × Pattern.Fault) Detector :=
  (texts.mapM (Signature.compile literal)).map .mk

def hitsOf (log : Text) (index : Nat) (s : Signature) : List Hit :=
  (s.matcher.spans log).map fun m => ⟨m.cover log, index⟩

def hits (d : Detector) (log : Text) : List Hit :=
  d.signatures.zipIdx.flatMap fun (s, i) => hitsOf log i s

/-- The line match of a hit; the index is that of a signature of the list. -/
def describe (d : Detector) (log : Text) (h : Hit) : LineMatch :=
  ⟨((d.signatures[h.index]?).map Signature.text).getD [], withoutReturns (h.lines.slice log)⟩

def scan (d : Detector) (log : Text) : List LineMatch :=
  firstOfLines [] (((d.hits log).mergeSort Hit.before).map (d.describe log))

end Detector
end FleetHealth
