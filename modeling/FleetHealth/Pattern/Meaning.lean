import FleetHealth.Pattern.Classes
import FleetHealth.Pattern.Term

/- From a pattern as it is written to the term that is matched. Flags hold from where they are set
   to the end of the group around them. -/
namespace FleetHealth.Pattern

open Unicode (CharSet)

structure Flags where
  ignoreCase : Bool
  multiLine : Bool
  dotAll : Bool
  swapGreed : Bool
  unicode : Bool
  crlf : Bool
  deriving DecidableEq, Repr

namespace Flags

def initial : Flags := ⟨false, false, false, false, true, false⟩

def set (f : Flags) : Flag × Bool → Flags
  | (.ignoreCase, b) => { f with ignoreCase := b }
  | (.multiLine, b) => { f with multiLine := b }
  | (.dotAll, b) => { f with dotAll := b }
  | (.swapGreed, b) => { f with swapGreed := b }
  | (.unicode, b) => { f with unicode := b }
  | (.crlf, b) => { f with crlf := b }
  | (.verbose, _) => f

def change (f : Flags) (changes : FlagChanges) : Flags := changes.foldl set f

def sets (f : Flags) : SetMode := ⟨f.unicode, f.ignoreCase⟩

/-- Any character, or any but the ends of lines. -/
def dot (f : Flags) : Except Fault Term :=
  if !f.unicode then .error .invalidUtf8
  else if f.dotAll then .ok (.oneOf .all)
  else if f.crlf then .ok (.oneOf (runsOf [('\n', '\n'), ('\r', '\r')]).complement)
  else .ok (.oneOf (CharSet.single '\n').complement)

def look (f : Flags) : Anchor → Look
  | .caret => if f.multiLine then (if f.crlf then .lineStartCrlf else .lineStart) else .textStart
  | .dollar => if f.multiLine then (if f.crlf then .lineEndCrlf else .lineEnd) else .textEnd
  | .textStart => .textStart
  | .textEnd => .textEnd
  | .wordBoundary => .boundary f.unicode
  | .notWordBoundary => .notBoundary f.unicode
  | .wordStart => .wordStart f.unicode
  | .wordEnd => .wordEnd f.unicode
  | .wordStartHalf => .wordStartHalf f.unicode
  | .wordEndHalf => .wordEndHalf f.unicode

/-- A character outside a class; with its case ignored it is a set. -/
def literal (f : Flags) (l : Literal) : Except Fault Term :=
  if !f.unicode && l.byte && 0x80 ≤ l.char.toNat then .error .invalidUtf8
  else if f.ignoreCase && (f.unicode || l.char.toNat < 0x80) && Unicode.hasOtherCase l.char then
    .ok (.ofSet (f.sets.fold (.single l.char)))
  else .ok (.literal [l.char])

end Flags

/-- The term of a written pattern under flags, and the flags behind it. -/
def Ast.meaning (f : Flags) : Ast → Except Fault (Term × Flags)
  | .empty => .ok (.empty, f)
  | .flags changes => .ok (.empty, f.change changes)
  | .literal l => (f.literal l).map fun t => (t, f)
  | .dot => f.dot.map fun t => (t, f)
  | .anchor a => .ok (.look (f.look a), f)
  | .named negated c => (f.sets.named negated c).map fun s => (.ofSet s, f)
  | .bracketed negated b => do
    let s ← f.sets.body b
    let s ← f.sets.negate negated (f.sets.fold s)
    .ok (.ofSet s, f)
  | .repetition count greedy a => do
    let (t, g) ← a.meaning f
    .ok (.repeated count (greedy != f.swapGreed) t, g)
  | .group (.capture i) a => do
    let (t, _) ← a.meaning f
    .ok (.capture i t, f)
  | .group (.plain changes) a => do
    let (t, _) ← a.meaning (f.change changes)
    .ok (t, f)
  | .alternation branches => do
    let (ts, g) ← meanings f branches
    .ok (.choice ts, g)
  | .concat items => do
    let (ts, g) ← meanings f items
    .ok (.joined ts, g)
where
  meanings (f : Flags) : List Ast → Except Fault (List Term × Flags)
    | [] => .ok ([], f)
    | a :: rest => do
      let (t, g) ← a.meaning f
      let (ts, h) ← meanings g rest
      .ok (t :: ts, h)

end FleetHealth.Pattern
