import FleetHealth.Text.Lines
import FleetHealth.Text.Utf8
import FleetHealth.Toml.Value

/- Lines and columns of places in a document, both counted from one. -/
namespace FleetHealth.Toml

structure Position where
  line : Nat
  column : Nat
  deriving DecidableEq, Repr

/-- Columns count characters. In front of a character that is not ASCII they count bytes, and the
end of a document lies on the line of its last character. -/
def positionOf (document : Text) (left : Left) : Position :=
  let offset := document.length - left
  let last := min offset (document.length - 1)
  let before := document.take last
  let onLine := (before.reverse.takeWhile (· != newline)).reverse
  let wide := document[offset]?.any fun c => 0x80 ≤ c.toNat
  let width := if wide then Utf8.size onLine else onLine.length
  ⟨before.count newline + 1, width + (offset - last) + 1⟩

end FleetHealth.Toml
