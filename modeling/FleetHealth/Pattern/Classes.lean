import FleetHealth.Pattern.Fault
import FleetHealth.Pattern.Written
import FleetHealth.Unicode.Age
import FleetHealth.Unicode.Category
import FleetHealth.Unicode.Folding
import FleetHealth.Unicode.Property
import FleetHealth.Unicode.Script
import FleetHealth.Unicode.ScriptExtension
import FleetHealth.Unicode.Segmentation

/- The sets that named classes and classes between brackets stand for. -/
namespace FleetHealth.Pattern

open Unicode (CharSet)

def runsOf (pairs : List (Char × Char)) : CharSet :=
  .ofRuns (pairs.map fun (a, b) => ⟨Unicode.rank a, Unicode.rank b⟩)

def asciiSet : AsciiClass → CharSet
  | .alnum => runsOf [('0', '9'), ('A', 'Z'), ('a', 'z')]
  | .alpha => runsOf [('A', 'Z'), ('a', 'z')]
  | .ascii => runsOf [('\x00', '\x7f')]
  | .blank => runsOf [('\t', '\t'), (' ', ' ')]
  | .cntrl => runsOf [('\x00', '\x1f'), ('\x7f', '\x7f')]
  | .digit => runsOf [('0', '9')]
  | .graph => runsOf [('!', '~')]
  | .lower => runsOf [('a', 'z')]
  | .print => runsOf [(' ', '~')]
  | .punct => runsOf [('!', '/'), (':', '@'), ('[', '\x60'), ('\x7b', '~')]
  | .space => runsOf [('\t', '\r'), (' ', ' ')]
  | .upper => runsOf [('A', 'Z')]
  | .word => runsOf [('0', '9'), ('A', 'Z'), ('_', '_'), ('a', 'z')]
  | .xdigit => runsOf [('0', '9'), ('A', 'F'), ('a', 'f')]

def asciiShortSet : ShortClass → CharSet
  | .digit => asciiSet .digit
  | .space => asciiSet .space
  | .word => asciiSet .word

def propertySet (name : String) : CharSet := (Unicode.properties.find? name.toList).getD .empty

def categorySet (names : List String) : CharSet :=
  Unicode.categories.unionOf (names.map String.toList)

/-- Letters, marks, decimal digits, connectors and the two joiners. -/
def wordSet : CharSet :=
  ((propertySet "alpha").union (categorySet ["mc", "me", "mn", "nd", "pc"])).union
    (propertySet "joinc")

def digitSet : CharSet := categorySet ["nd"]

def spaceSet : CharSet := propertySet "wspace"

def unicodeShortSet : ShortClass → CharSet
  | .digit => digitSet
  | .space => spaceSet
  | .word => wordSet

/-- Groups of general categories, by their names. -/
def categoryGroups : List (List String × List String) := [
  (["lc", "casedletter"], ["ll", "lt", "lu"]),
  (["l", "letter"], ["ll", "lm", "lo", "lt", "lu"]),
  (["m", "mark", "combiningmark"], ["mc", "me", "mn"]),
  (["n", "number"], ["nd", "nl", "no"]),
  (["p", "punctuation", "punct"], ["pc", "pd", "pe", "pf", "pi", "po", "ps"]),
  (["s", "symbol"], ["sc", "sk", "sm", "so"]),
  (["z", "separator"], ["zl", "zp", "zs"]),
  (["c", "other"], ["cc", "cf", "cn", "co"])]

/-- Names of properties that are not of the kind a character has or has not. -/
def valuedProperties : List String := [
  "age", "bc", "bidiclass", "blk", "block", "bmg", "bidimirroringglyph", "bpb",
  "bidipairedbracket", "bpt", "bidipairedbrackettype", "ccc", "canonicalcombiningclass", "cf",
  "casefolding", "dm", "decompositionmapping", "dt", "decompositiontype", "ea",
  "eastasianwidth", "equideo", "equivalentunifiedideograph", "fcnfkc", "fcnfkcclosure", "gc",
  "generalcategory", "gcb", "graphemeclusterbreak", "hst", "hangulsyllabletype", "inpc",
  "indicpositionalcategory", "insc", "indicsyllabiccategory", "isc", "isocomment", "jg",
  "joininggroup", "jsn", "jamoshortname", "jt", "joiningtype", "lb", "linebreak", "lc",
  "lowercasemapping", "na", "name", "na1", "unicode1name", "namealias", "nfcqc",
  "nfcquickcheck", "nfdqc", "nfdquickcheck", "nfkccf", "nfkccasefold", "nfkcqc",
  "nfkcquickcheck", "nfkdqc", "nfkdquickcheck", "nt", "numerictype", "nv", "numericvalue", "sb",
  "sentencebreak", "sc", "script", "scf", "simplecasefolding", "sfc", "scx",
  "scriptextensions", "slc", "simplelowercasemapping", "stc", "simpletitlecasemapping", "suc",
  "simpleuppercasemapping", "tc", "titlecasemapping", "uc", "uppercasemapping", "vo",
  "verticalorientation", "wb", "wordbreak"]

/-- Names are compared without case, blanks, hyphens and underscores, and without an `is` in
front. -/
def plainName (t : Text) : Text :=
  let (prefixed, rest) := match t with
    | 'i' :: 's' :: r | 'I' :: 's' :: r | 'i' :: 'S' :: r | 'I' :: 'S' :: r => (true, r)
    | _ => (false, t)
  let kept := rest.filter fun c => c.toNat < 0x80 && c != ' ' && c != '_' && c != '-'
  let name := kept.map lowerAscii
  if prefixed && name = ['c'] then "isc".toList else name

def isPropertyName (name : Text) : Bool :=
  (Unicode.properties.any fun row => (Unicode.Table.names row).contains name) ||
    valuedProperties.any fun p => p.toList = name

/-- The general category, or group of categories, of that name. -/
def category? (name : Text) : Option CharSet :=
  if name = "any".toList then some .all
  else if name = "assigned".toList then some (categorySet ["cn"]).complement
  else if name = "ascii".toList then some (asciiSet .ascii)
  else
    match categoryGroups.find? fun g => g.1.any fun n => n.toList = name with
    | some g => some (categorySet g.2)
    | none => Unicode.categories.find? name

/-- Category and script names that exist but have no set of characters. -/
def unlisted (name : Text) : Bool :=
  ["cs", "surrogate", "zzzz", "unknown", "hrkt", "katakanaorhiragana"].any fun n =>
    n.toList = name

def found (s : Option CharSet) : Except Fault CharSet :=
  match s with
  | some s => .ok s
  | none => .error .propertyValueUnknown

/-- All characters that a version of the standard had. -/
def ageSet? (name : Text) : Option CharSet :=
  let older := Unicode.ages.takeWhile fun row => !(Unicode.Table.names row).contains name
  if older.length = Unicode.ages.length then none
  else
    some (.ofRuns ((Unicode.ages.take (older.length + 1)).flatMap fun row =>
      (Unicode.decodeRuns row.2).runs))

/-- The set of a property that is asked for by its name alone: a property that characters have
or have not, a general category, or a script. -/
def namedProperty (name : Text) : Except Fault CharSet :=
  let ambiguous := ["cf", "sc", "lc"].any fun n => n.toList = name
  if !ambiguous && isPropertyName name then
    match Unicode.properties.find? name with
    | some s => .ok s
    | none => .error .propertyUnknown
  else
    match (category? name).orElse fun _ => Unicode.scripts.find? name with
    | some s => .ok s
    | none => .error (if unlisted name then .propertyValueUnknown else .propertyUnknown)

/-- The set of the characters that have a value of a property. -/
def valuedProperty (name value : Text) : Except Fault CharSet :=
  let is (names : List String) := names.any fun n => n.toList = name
  if is ["gc", "generalcategory"] then found (category? value)
  else if is ["sc", "script"] then found (Unicode.scripts.find? value)
  else if is ["scx", "scriptextensions"] then
    found ((Unicode.scriptExtensions.find? value).orElse fun _ => Unicode.scripts.find? value)
  else if is ["age"] then found (ageSet? value)
  else if is ["gcb", "graphemeclusterbreak"] then found (Unicode.graphemeBreaks.find? value)
  else if is ["wb", "wordbreak"] then found (Unicode.wordBreaks.find? value)
  else if is ["sb", "sentencebreak"] then found (Unicode.sentenceBreaks.find? value)
  else if isPropertyName name then .error .propertyValueUnknown
  else .error .propertyUnknown

def queried : PropertyQuery → Except Fault CharSet
  | .name p => namedProperty (plainName p)
  | .value p v => valuedProperty (plainName p) (plainName v)

/-- What the flags say about sets. -/
structure SetMode where
  unicode : Bool
  ignoreCase : Bool
  deriving DecidableEq, Repr

namespace SetMode

/-- Without Unicode only the letters of ASCII have two cases. -/
def fold (m : SetMode) (s : CharSet) : CharSet :=
  if !m.ignoreCase then s
  else if m.unicode then s.foldCase
  else s.foldCase.inter (asciiSet .ascii)

/-- Without Unicode a set that is negated holds bytes that are no text. -/
def negate (m : SetMode) (negated : Bool) (s : CharSet) : Except Fault CharSet :=
  if !negated then .ok s
  else if m.unicode then .ok s.complement
  else .error .invalidUtf8

def named (m : SetMode) (negated : Bool) : NamedClass → Except Fault CharSet
  | .ascii c => m.negate negated (asciiSet c)
  | .short c => m.negate negated (if m.unicode then unicodeShortSet c else asciiShortSet c)
  | .property q => do
    if !m.unicode then .error .unicodeNotAllowed
    let s ← queried q
    m.negate negated (m.fold s)

/-- A character of a class. -/
def member (m : SetMode) (l : Literal) : Except Fault Char :=
  if m.unicode || l.char.toNat < 0x80 then .ok l.char
  else .error (if l.byte then .invalidUtf8 else .unicodeNotAllowed)

def combine : SetOperator → CharSet → CharSet → CharSet
  | .intersection => .inter
  | .difference => .difference
  | .symmetricDifference => .symmetricDifference

/-- The set of a class before it is negated itself. -/
def body (m : SetMode) : ClassBody → Except Fault CharSet
  | .empty => .ok .empty
  | .literal l => (m.member l).map .single
  | .range a b => do
    let x ← m.member a
    let y ← m.member b
    .ok (.between x y)
  | .named negated c => m.named negated c
  | .bracketed negated b => do
    let s ← m.body b
    m.negate negated (m.fold s)
  | .union items => bodies items
  | .combined op l r => do
    let s ← m.body l
    let t ← m.body r
    .ok (combine op (m.fold s) (m.fold t))
where
  bodies : List ClassBody → Except Fault CharSet
    | [] => .ok .empty
    | b :: rest => do
      let s ← m.body b
      let t ← bodies rest
      .ok (s.union t)

end SetMode
end FleetHealth.Pattern
