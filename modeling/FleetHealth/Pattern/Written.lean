import FleetHealth.Text.Basic

/- Patterns as they are written. -/
namespace FleetHealth.Pattern

inductive Flag where
  | ignoreCase
  | multiLine
  | dotAll
  | swapGreed
  | unicode
  | crlf
  | verbose
  deriving DecidableEq, Repr

/-- A flag with the value it gets. -/
abbrev FlagChanges := List (Flag × Bool)

inductive Anchor where
  | caret
  | dollar
  | textStart
  | textEnd
  | wordBoundary
  | notWordBoundary
  | wordStart
  | wordEnd
  | wordStartHalf
  | wordEndHalf
  deriving DecidableEq, Repr

/-- A character that stands for itself; `byte` marks one written by two hexadecimal digits, which
is a byte where Unicode is switched off. -/
structure Literal where
  char : Char
  byte : Bool
  deriving DecidableEq, Repr

inductive AsciiClass where
  | alnum
  | alpha
  | ascii
  | blank
  | cntrl
  | digit
  | graph
  | lower
  | print
  | punct
  | space
  | upper
  | word
  | xdigit
  deriving DecidableEq, Repr

inductive ShortClass where
  | digit
  | space
  | word
  deriving DecidableEq, Repr

inductive PropertyQuery where
  | name (property : Text)
  | value (property value : Text)
  deriving DecidableEq, Repr

inductive NamedClass where
  | ascii (c : AsciiClass)
  | short (c : ShortClass)
  | property (q : PropertyQuery)
  deriving DecidableEq, Repr

inductive SetOperator where
  | intersection
  | difference
  | symmetricDifference
  deriving DecidableEq, Repr

/-- What stands between brackets. -/
inductive ClassBody where
  | empty
  | literal (l : Literal)
  | range (first last : Literal)
  | named (negated : Bool) (c : NamedClass)
  | bracketed (negated : Bool) (body : ClassBody)
  | union (items : List ClassBody)
  | combined (op : SetOperator) (left right : ClassBody)
  deriving Repr

/-- How often: at least `min` times and at most `max` times, if there is a bound. -/
structure Count where
  min : Nat
  max : Option Nat
  deriving DecidableEq, Repr

inductive GroupKind where
  | capture (index : Nat)
  | plain (changes : FlagChanges)
  deriving DecidableEq, Repr

inductive Ast where
  | empty
  | flags (changes : FlagChanges)
  | literal (l : Literal)
  | dot
  | anchor (a : Anchor)
  | named (negated : Bool) (c : NamedClass)
  | bracketed (negated : Bool) (body : ClassBody)
  | repetition (count : Count) (greedy : Bool) (body : Ast)
  | group (kind : GroupKind) (body : Ast)
  | alternation (branches : List Ast)
  | concat (items : List Ast)
  deriving Repr

/-- How deep classes are nested in a class. -/
def ClassBody.depth : ClassBody → Nat
  | .empty | .literal _ | .range _ _ | .named _ _ => 0
  | .bracketed _ b => b.depth + 1
  | .union items => depths items + 1
  | .combined _ l r => max l.depth r.depth + 1
where
  depths : List ClassBody → Nat
    | [] => 0
    | b :: rest => max b.depth (depths rest)

def Ast.depth : Ast → Nat
  | .empty | .flags _ | .literal _ | .dot | .anchor _ | .named _ _ => 0
  | .bracketed _ b => b.depth + 1
  | .repetition _ _ a => a.depth + 1
  | .group _ a => a.depth + 1
  | .alternation items => depths items + 1
  | .concat items => depths items + 1
where
  depths : List Ast → Nat
    | [] => 0
    | a :: rest => max a.depth (depths rest)

end FleetHealth.Pattern
