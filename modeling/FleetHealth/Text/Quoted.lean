import FleetHealth.Text.Basic
import FleetHealth.Unicode.Category
import FleetHealth.Unicode.Property

/- Texts between double quotes, with everything escaped that could not be read on a line. -/
namespace FleetHealth

open Unicode (CharSet)

/-- Blanks other than the space, controls, and code points that stand for no character. -/
def invisible : CharSet :=
  (Unicode.categories.unionOf
    (["cc", "cf", "cn", "co", "cs", "zl", "zp", "zs"].map String.toList)).difference
      (CharSet.single ' ')

/-- Characters that join the character before them. -/
def attaching : CharSet := (Unicode.properties.find? "grext".toList).getD .empty

def escapedChar (c : Char) : Text :=
  match c with
  | '\x00' => ['\\', '0']
  | '\t' => ['\\', 't']
  | '\n' => ['\\', 'n']
  | '\r' => ['\\', 'r']
  | '"' => ['\\', '"']
  | '\\' => ['\\', '\\']
  | _ =>
    if attaching.contains c || invisible.contains c then
      "\\u\x7b".toList ++ hexText c.toNat ++ "\x7d".toList
    else [c]

def quoted (t : Text) : Text := '"' :: t.flatMap escapedChar ++ ['"']

end FleetHealth
