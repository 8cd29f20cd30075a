import FleetHealth.Text.Utf8
import Mathlib.Tactic.Convert
import Mathlib.Tactic.SplitIfs

/- The bytes that are read as a text are those that the text is written with. -/
namespace FleetHealth.Utf8

theorem toNat_ofNat {v : Nat} (valid : v.isValidChar) : (Char.ofNat v).toNat = v := by
  unfold Char.ofNat
  rw [dif_pos valid]
  rfl

theorem isTail_iff {b : UInt8} : isTail b = true ↔ 128 ≤ b.toNat ∧ b.toNat ≤ 191 := by
  simp [isTail, UInt8.le_iff_toNat_le]

theorem secondFits_iff {a b : UInt8} :
    secondFits a b = true ↔ (128 ≤ b.toNat ∧ b.toNat ≤ 191) ∧
      (a.toNat = 224 → 160 ≤ b.toNat) ∧ (a.toNat = 237 → b.toNat ≤ 159) ∧
      (a.toNat = 240 → 144 ≤ b.toNat) ∧ (a.toNat = 244 → b.toNat ≤ 143) := by
  have range (low high : UInt8) : (low ≤ b && b ≤ high) = true ↔
      low.toNat ≤ b.toNat ∧ b.toNat ≤ high.toNat := by
    simp [UInt8.le_iff_toNat_le]
  simp only [secondFits, isTail, beq_iff_eq, ← UInt8.toNat_inj, UInt8.reduceToNat]
  split_ifs <;> simp only [range, UInt8.reduceToNat] <;> omega

/-- The bytes of a character, by the number it has. -/
inductive Whole : UInt8 → List UInt8 → Nat → Prop
  | one {a : UInt8} (first : a.toNat < 128) : Whole a [] a.toNat
  | two {a b : UInt8} (first : 194 ≤ a.toNat ∧ a.toNat ≤ 223) (second : isTail b = true) :
      Whole a [b] (a.toNat % 32 * 64 + tailBits b)
  | three {a b c : UInt8} (first : 224 ≤ a.toNat ∧ a.toNat ≤ 239)
      (second : secondFits a b = true) (third : isTail c = true) :
      Whole a [b, c] ((a.toNat % 16 * 64 + tailBits b) * 64 + tailBits c)
  | four {a b c d : UInt8} (first : 240 ≤ a.toNat ∧ a.toNat ≤ 244)
      (second : secondFits a b = true) (third : isTail c = true) (fourth : isTail d = true) :
      Whole a [b, c, d] (((a.toNat % 8 * 64 + tailBits b) * 64 + tailBits c) * 64 + tailBits d)

section
variable {a : UInt8} {tail rest : List UInt8} {v : Nat}

theorem valid_of_whole (whole : Whole a tail v) : v.isValidChar := by
  unfold Nat.isValidChar
  cases whole with
  | one first => omega
  | two first second =>
    unfold tailBits
    omega
  | three first second third =>
    rw [secondFits_iff] at second
    unfold tailBits
    omega
  | four first second third fourth =>
    rw [secondFits_iff] at second
    unfold tailBits
    omega

theorem encode_of_whole (whole : Whole a tail v) :
    String.utf8EncodeChar (Char.ofNat v) = a :: tail := by
  have value : (Char.ofNat v).val.toNat = v := toNat_ofNat (valid_of_whole whole)
  unfold String.utf8EncodeChar
  simp only [value]
  clear value
  cases whole with
  | one first =>
    rw [if_pos (by omega), UInt8.ofNat_toNat]
  | two first second =>
    rw [isTail_iff] at second
    unfold tailBits
    rw [if_neg (by omega), if_pos (by omega)]
    simp only [← UInt8.toNat_inj, List.cons.injEq, and_true, UInt8.toNat_ofNat']
    omega
  | three first second third =>
    rw [isTail_iff] at third
    rw [secondFits_iff] at second
    unfold tailBits
    rw [if_neg (by omega), if_neg (by omega), if_pos (by omega)]
    simp only [← UInt8.toNat_inj, List.cons.injEq, and_true, UInt8.toNat_ofNat']
    omega
  | four first second third fourth =>
    rw [isTail_iff] at third fourth
    rw [secondFits_iff] at second
    unfold tailBits
    rw [if_neg (by omega), if_neg (by omega), if_neg (by omega)]
    simp only [← UInt8.toNat_inj, List.cons.injEq, and_true, UInt8.toNat_ofNat']
    omega

theorem isTail_written (n : Nat) : isTail (UInt8.ofNat (n % 64 + 128)) = true := by
  rw [isTail_iff, UInt8.toNat_ofNat']
  omega

theorem whole_of_encode {c : Char} (bytes : String.utf8EncodeChar c = a :: tail) :
    Whole a tail c.toNat := by
  have valid : c.toNat.isValidChar := c.valid
  unfold String.utf8EncodeChar at bytes
  simp only [Char.toNat_val] at bytes
  generalize c.toNat = v at valid bytes
  unfold Nat.isValidChar at valid
  split at bytes
  · obtain ⟨rfl, rfl⟩ := List.cons.inj bytes
    have whole := Whole.one (a := UInt8.ofNat v) (by rw [UInt8.toNat_ofNat']; omega)
    rwa [UInt8.toNat_ofNat', Nat.mod_eq_of_lt (by omega)] at whole
  · split at bytes
    · obtain ⟨rfl, rfl⟩ := List.cons.inj bytes
      have first : (UInt8.ofNat (v / 64 % 32 + 192)).toNat = v / 64 % 32 + 192 := by
        rw [UInt8.toNat_ofNat']
        omega
      convert Whole.two (by rw [first]; omega) (isTail_written v) using 1
      simp only [tailBits, UInt8.toNat_ofNat']
      omega
    · split at bytes
      · obtain ⟨rfl, rfl⟩ := List.cons.inj bytes
        have first : (UInt8.ofNat (v / 4096 % 16 + 224)).toNat = v / 4096 % 16 + 224 := by
          rw [UInt8.toNat_ofNat']
          omega
        have second : secondFits (UInt8.ofNat (v / 4096 % 16 + 224))
            (UInt8.ofNat (v / 64 % 64 + 128)) = true := by
          rw [secondFits_iff, first, UInt8.toNat_ofNat']
          omega
        convert Whole.three (by rw [first]; omega) second (isTail_written v) using 1
        simp only [tailBits, UInt8.toNat_ofNat']
        omega
      · obtain ⟨rfl, rfl⟩ := List.cons.inj bytes
        have first : (UInt8.ofNat (v / 262144 % 8 + 240)).toNat = v / 262144 % 8 + 240 := by
          rw [UInt8.toNat_ofNat']
          omega
        have second : secondFits (UInt8.ofNat (v / 262144 % 8 + 240))
            (UInt8.ofNat (v / 4096 % 64 + 128)) = true := by
          rw [secondFits_iff, first, UInt8.toNat_ofNat']
          omega
        convert Whole.four (by rw [first]; omega) second (isTail_written (v / 64))
          (isTail_written v) using 1
        simp only [tailBits, UInt8.toNat_ofNat']
        omega

theorem piece_of_whole (whole : Whole a tail v) (after : List UInt8) :
    piece a (tail ++ after) = (some (Char.ofNat v), tail.length) := by
  simp only [piece, UInt8.lt_iff_toNat_lt, UInt8.le_iff_toNat_le, UInt8.reduceToNat,
    Bool.and_eq_true, decide_eq_true_eq]
  cases whole with
  | one first =>
    rw [if_pos first]
    rfl
  | two first second =>
    rw [if_neg (by omega), if_pos first]
    simp [second]
  | three first second third =>
    rw [if_neg (by omega), if_neg (by omega), if_pos first]
    simp [second, third]
  | four first second third fourth =>
    rw [if_neg (by omega), if_neg (by omega), if_neg (by omega), if_pos first]
    simp [second, third, fourth]

theorem whole_of_piece {c : Char} {k : Nat} (read : piece a rest = (some c, k)) :
    ∃ tail after v, rest = tail ++ after ∧ tail.length = k ∧ Whole a tail v ∧ c = Char.ofNat v := by
  simp only [piece, UInt8.lt_iff_toNat_lt, UInt8.le_iff_toNat_le, UInt8.reduceToNat,
    Bool.and_eq_true, decide_eq_true_eq, Bool.not_eq_true'] at read
  split at read
  · rename_i first
    cases read
    exact ⟨[], rest, _, rfl, rfl, .one first, rfl⟩
  split at read
  · rename_i first
    split at read
    · split at read <;> cases read
      rename_i second
      exact ⟨[_], _, _, rfl, rfl, .two first second, rfl⟩
    · cases read
  split at read
  · rename_i first
    split at read <;> try cases read
    rename_i b c after
    by_cases second : secondFits a b = true
    · rw [if_neg (by simp [second])] at read
      split at read <;> cases read
      rename_i third
      exact ⟨[b, c], after, _, rfl, rfl, .three first second third, rfl⟩
    · rw [if_pos (by simpa using second)] at read
      cases read
  split at read
  · rename_i first
    split at read <;> try cases read
    rename_i b c d after
    by_cases second : secondFits a b = true
    · rw [if_neg (by simp [second])] at read
      by_cases third : isTail c = true
      · rw [if_neg (by simp [third])] at read
        split at read <;> cases read
        rename_i fourth
        exact ⟨[b, c, d], after, _, rfl, rfl, .four first second third fourth, rfl⟩
      · rw [if_pos (by simpa using third)] at read
        cases read
    · rw [if_pos (by simpa using second)] at read
      cases read
  · cases read

end

theorem piecesFrom_eq (k : Nat) (bytes : List UInt8) :
    piecesFrom k bytes = pieces (bytes.drop k) := by
  induction bytes generalizing k with
  | nil => simp [pieces, piecesFrom]
  | cons b rest ih =>
    cases k with
    | zero => rfl
    | succ k => rw [piecesFrom, ih, List.drop_succ_cons]

theorem decode?_cons {b : UInt8} {rest : List UInt8} {t : Text} :
    decode? (b :: rest) = some t ↔
      ∃ c k u, piece b rest = (some c, k) ∧ decode? (rest.drop k) = some u ∧ t = c :: u := by
  unfold decode?
  rw [pieces, piecesFrom, piecesFrom_eq]
  obtain ⟨first, k⟩ := piece b rest
  cases first with
  | none => simp
  | some c =>
    constructor
    · intro read
      cases later : (pieces (rest.drop k)).mapM id with
      | none => simp [later] at read
      | some u =>
        simp only [List.mapM_cons, id, later] at read
        exact ⟨c, k, u, rfl, later, (Option.some.inj read).symm⟩
    · rintro ⟨d, l, u, same, later, rfl⟩
      obtain ⟨⟨rfl⟩, rfl⟩ := Prod.mk.inj same
      simp only [List.mapM_cons, id, later]
      rfl

theorem decode?_encode (t : Text) : decode? (t.flatMap String.utf8EncodeChar) = some t := by
  induction t with
  | nil => rfl
  | cons c t ih =>
    rw [List.flatMap_cons]
    cases bytes : String.utf8EncodeChar c with
    | nil => exact absurd bytes String.utf8EncodeChar_ne_nil
    | cons a tail =>
      have here := piece_of_whole (whole_of_encode bytes) (t.flatMap String.utf8EncodeChar)
      rw [Char.ofNat_toNat] at here
      rw [List.cons_append]
      exact decode?_cons.mpr ⟨c, tail.length, t, here, by rwa [List.drop_left], rfl⟩

theorem encode_of_decode? {bytes : List UInt8} {t : Text} (read : decode? bytes = some t) :
    t.flatMap String.utf8EncodeChar = bytes := by
  induction t generalizing bytes with
  | nil =>
    cases bytes with
    | nil => rfl
    | cons b rest =>
      obtain ⟨c, k, u, -, -, same⟩ := decode?_cons.mp read
      cases same
  | cons c t ih =>
    cases bytes with
    | nil => exact absurd read nofun
    | cons b rest =>
      obtain ⟨d, k, u, first, later, same⟩ := decode?_cons.mp read
      obtain ⟨rfl, rfl⟩ := List.cons.inj same
      obtain ⟨tail, after, v, rfl, rfl, whole, rfl⟩ := whole_of_piece first
      rw [List.drop_left] at later
      rw [List.flatMap_cons, encode_of_whole whole, ih later, List.cons_append]

theorem decode?_eq_none_iff {bytes : List UInt8} :
    decode? bytes = none ↔ ¬bytes.toByteArray.IsValidUTF8 := by
  constructor
  · rintro broken ⟨t, same⟩
    rw [List.toByteArray_inj.mp same, decode?_encode] at broken
    cases broken
  · intro broken
    cases read : decode? bytes with
    | none => rfl
    | some t =>
      refine absurd ⟨t, ?_⟩ broken
      rw [← encode_of_decode? read]
      rfl

end FleetHealth.Utf8
