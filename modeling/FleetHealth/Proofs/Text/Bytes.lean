import FleetHealth.Proofs.Text.Utf8
import Mathlib.Data.List.Infix

/- A text and its bytes. A line feed is one byte, and that byte is part of no other character, so lines
   can be looked for in the bytes as well. -/
namespace FleetHealth

namespace Utf8

def encode (t : Text) : List UInt8 := t.flatMap String.utf8EncodeChar

def newlineByte : UInt8 := 10

theorem encode_cons (c : Char) (t : Text) : encode (c :: t) = String.utf8EncodeChar c ++ encode t :=
  rfl

theorem encode_append (t u : Text) : encode (t ++ u) = encode t ++ encode u := List.flatMap_append

theorem encode_newline : String.utf8EncodeChar newline = [newlineByte] := rfl

theorem encode_ne_nil {t : Text} (some_ : t ≠ []) : encode t ≠ [] := by
  obtain ⟨c, t, rfl⟩ := List.exists_cons_of_ne_nil some_
  intro nothing
  rw [encode_cons, List.append_eq_nil_iff] at nothing
  exact String.utf8EncodeChar_ne_nil nothing.1

/-- The bytes of a longer character are above those of the short ones. -/
theorem newline_of_whole {a : UInt8} {tail : List UInt8} {v : Nat} (whole : Whole a tail v)
    (mem : newlineByte ∈ a :: tail) : v = newline.toNat := by
  have lineFeed : newlineByte.toNat = 10 := rfl
  have above {b : UInt8} (high : 128 ≤ b.toNat) : newlineByte ≠ b := by
    rintro rfl
    omega
  cases whole with
  | one first =>
    obtain rfl := List.mem_singleton.mp mem
    rfl
  | two first second =>
    rw [isTail_iff] at second
    simp [above (b := a) (by omega), above second.1] at mem
  | three first second third =>
    rw [secondFits_iff] at second
    rw [isTail_iff] at third
    simp [above (b := a) (by omega), above second.1.1, above third.1] at mem
  | four first second third fourth =>
    rw [secondFits_iff] at second
    rw [isTail_iff] at third fourth
    simp [above (b := a) (by omega), above second.1.1, above third.1, above fourth.1] at mem

theorem newline_of_byte {c : Char} (mem : newlineByte ∈ String.utf8EncodeChar c) : c = newline := by
  cases bytes : String.utf8EncodeChar c with
  | nil => exact absurd bytes String.utf8EncodeChar_ne_nil
  | cons a tail =>
    rw [bytes] at mem
    exact Char.toNat_inj.mp (newline_of_whole (whole_of_encode bytes) mem)

end Utf8

open Utf8 (encode newlineByte)

/-- Where character number `n` of a text begins in its bytes. -/
def byteOffset (t : Text) (n : Nat) : Nat := (encode (t.take n)).length

variable {t : Text} {n m k : Nat}

theorem byteOffset_zero (t : Text) : byteOffset t 0 = 0 := rfl

theorem byteOffset_length (t : Text) : byteOffset t t.length = (encode t).length := by
  rw [byteOffset, List.take_length]

theorem byteOffset_add (t : Text) (n k : Nat) :
    byteOffset t (n + k) = byteOffset t n + (encode ((t.drop n).take k)).length := by
  rw [byteOffset, List.take_add, Utf8.encode_append, List.length_append, byteOffset]

theorem byteOffset_mono (t : Text) (le : n ≤ m) : byteOffset t n ≤ byteOffset t m := by
  obtain ⟨k, rfl⟩ := Nat.exists_eq_add_of_le le
  rw [byteOffset_add]
  exact Nat.le_add_right _ _

theorem byteOffset_lt (lt : n < m) (inside : m ≤ t.length) : byteOffset t n < byteOffset t m := by
  obtain ⟨k, rfl⟩ := Nat.exists_eq_add_of_le (Nat.le_of_lt lt)
  have some_ : (t.drop n).take k ≠ [] := by
    rw [← List.length_pos_iff, List.length_take, List.length_drop]
    omega
  have bytes := List.length_pos_of_ne_nil (Utf8.encode_ne_nil some_)
  rw [byteOffset_add]
  omega

theorem byteOffset_le_iff (inside : n ≤ t.length) :
    byteOffset t n ≤ byteOffset t m ↔ n ≤ m := by
  constructor
  · intro le
    rw [← Nat.not_lt]
    intro later
    have lt := byteOffset_lt later inside
    omega
  · exact byteOffset_mono t

theorem byteOffset_newline (here : t[n]? = some newline) :
    byteOffset t (n + 1) = byteOffset t n + 1 := by
  have one : (t.drop n).take 1 = [newline] := by
    rw [List.take_one, List.head?_drop, here]
    rfl
  rw [byteOffset_add, one]
  rfl

theorem encode_drop (t : Text) (n : Nat) : (encode t).drop (byteOffset t n) = encode (t.drop n) := by
  have whole := Utf8.encode_append (t.take n) (t.drop n)
  rw [List.take_append_drop] at whole
  rw [whole, byteOffset, List.drop_left]

/-- The bytes that are line feeds are the characters that are. -/
theorem newline_byte_iff :
    (encode t)[k]? = some newlineByte ↔ ∃ n, t[n]? = some newline ∧ byteOffset t n = k := by
  constructor
  · intro byte
    induction t generalizing k with
    | nil => simp [encode] at byte
    | cons c t ih =>
      rw [Utf8.encode_cons] at byte
      by_cases first : k < (String.utf8EncodeChar c).length
      · rw [List.getElem?_append_left first] at byte
        obtain rfl := Utf8.newline_of_byte (List.mem_of_getElem? byte)
        rw [Utf8.encode_newline, List.length_singleton] at first
        exact ⟨0, rfl, by rw [byteOffset_zero]; omega⟩
      · rw [List.getElem?_append_right (Nat.le_of_not_lt first)] at byte
        obtain ⟨n, here, offset⟩ := ih byte
        refine ⟨n + 1, here, ?_⟩
        have longer : byteOffset (c :: t) (n + 1) =
            (String.utf8EncodeChar c).length + byteOffset t n := by
          rw [byteOffset, List.take_succ_cons, Utf8.encode_cons, List.length_append, byteOffset]
        omega
  · rintro ⟨n, here, rfl⟩
    have behind := congrArg List.head? (encode_drop t n)
    obtain ⟨inside, same⟩ := List.getElem?_eq_some_iff.mp here
    rw [List.head?_drop, List.drop_eq_getElem_cons inside, same, Utf8.encode_cons] at behind
    exact behind

end FleetHealth
