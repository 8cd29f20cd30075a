import FleetHealth.Text.Basic

/- Reading UTF-8. A byte that begins no character, or the longest beginning of a character that
   the next byte breaks, counts as one broken piece. -/
namespace FleetHealth.Utf8

def isTail (b : UInt8) : Bool := 0x80 ≤ b && b ≤ 0xbf

/-- The bits that a byte of a longer character holds. -/
def tailBits (b : UInt8) : Nat := b.toNat % 64

/-- The second byte of a character, by its first one. -/
def secondFits (first second : UInt8) : Bool :=
  if first == 0xe0 then 0xa0 ≤ second && second ≤ 0xbf
  else if first == 0xed then 0x80 ≤ second && second ≤ 0x9f
  else if first == 0xf0 then 0x90 ≤ second && second ≤ 0xbf
  else if first == 0xf4 then 0x80 ≤ second && second ≤ 0x8f
  else isTail second

/-- The character that begins with byte `b`, if it is whole, and how many of the bytes behind
`b` belong to the piece. -/
def piece (b : UInt8) (rest : List UInt8) : Option Char × Nat :=
  if b < 0x80 then (some (Char.ofNat b.toNat), 0)
  else if 0xc2 ≤ b && b ≤ 0xdf then
    match rest with
    | c :: _ =>
      if isTail c then (some (Char.ofNat ((b.toNat % 32) * 64 + tailBits c)), 1) else (none, 0)
    | [] => (none, 0)
  else if 0xe0 ≤ b && b ≤ 0xef then
    match rest with
    | c :: d :: _ =>
      if !secondFits b c then (none, 0)
      else if isTail d then
        (some (Char.ofNat (((b.toNat % 16) * 64 + tailBits c) * 64 + tailBits d)), 2)
      else (none, 1)
    | [c] => (none, if secondFits b c then 1 else 0)
    | [] => (none, 0)
  else if 0xf0 ≤ b && b ≤ 0xf4 then
    match rest with
    | c :: d :: e :: _ =>
      if !secondFits b c then (none, 0)
      else if !isTail d then (none, 1)
      else if isTail e then
        (some (Char.ofNat
          ((((b.toNat % 8) * 64 + tailBits c) * 64 + tailBits d) * 64 + tailBits e)), 3)
      else (none, 2)
    | [c, d] => (none, if secondFits b c then (if isTail d then 2 else 1) else 0)
    | [c] => (none, if secondFits b c then 1 else 0)
    | [] => (none, 0)
  else (none, 0)

/-- The pieces in order; `skip` counts the bytes that belong to the piece before. -/
def piecesFrom (skip : Nat) : List UInt8 → List (Option Char)
  | [] => []
  | b :: rest =>
    match skip with
    | k + 1 => piecesFrom k rest
    | 0 => (piece b rest).1 :: piecesFrom (piece b rest).2 rest

def pieces (bytes : List UInt8) : List (Option Char) := piecesFrom 0 bytes

/-- The text, if every piece is a character. -/
def decode? (bytes : List UInt8) : Option Text := (pieces bytes).mapM id

/-- Broken pieces are read as the replacement character. -/
def decodeLossy (bytes : List UInt8) : Text := (pieces bytes).map fun p => p.getD '\ufffd'

/-- How many bytes a character takes. -/
def width (c : Char) : Nat :=
  if c.toNat < 0x80 then 1 else if c.toNat < 0x800 then 2 else if c.toNat < 0x10000 then 3 else 4

def size (t : Text) : Nat := t.foldl (fun n c => n + width c) 0

end FleetHealth.Utf8
