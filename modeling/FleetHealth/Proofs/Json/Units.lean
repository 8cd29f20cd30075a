import FleetHealth.Json.Document
import FleetHealth.Proofs.Text.Utf8

/- What the parts of a text stand for. Parts and characters are compared by their units of sixteen bits,
   of which a character has one or two: the parts make up the text with the same units. -/
namespace FleetHealth.Json

/-- The units of a character. -/
def unitsOf (c : Char) : List Nat :=
  if c.toNat < 0x10000 then [c.toNat]
  else [0xd800 + (c.toNat - 0x10000) / 0x400, 0xdc00 + (c.toNat - 0x10000) % 0x400]

def Piece.units : Piece → List Nat
  | .char c => unitsOf c
  | .unit n => [n]

def Piece.Fits : Piece → Prop
  | .char _ => True
  | .unit n => n < 0x10000

/-- A unit that is no character of its own. -/
def Half (n : Nat) : Prop := 0xd800 ≤ n ∧ n < 0xe000

variable {c d : Char} {n m : Nat} {xs ys : List Nat} {ps : List Piece} {t : Text}

theorem valid_toNat (c : Char) : ¬ Half c.toNat ∧ c.toNat < 0x110000 := by
  have valid := c.valid
  unfold Half
  simp only [UInt32.isValidChar, Nat.isValidChar] at valid
  change ¬ (0xd800 ≤ c.val.toNat ∧ c.val.toNat < 0xe000) ∧ c.val.toNat < 0x110000
  omega

/-- A character has one unit that is not a half, or a first and a second half. -/
theorem unitsOf_cases (c : Char) :
    (unitsOf c = [c.toNat] ∧ ¬ Half c.toNat) ∨
      ∃ high low, unitsOf c = [high, low] ∧ (0xd800 ≤ high ∧ high < 0xdc00) ∧
        (0xdc00 ≤ low ∧ low < 0xe000) ∧ c.toNat = 0x10000 + (high - 0xd800) * 0x400 + (low - 0xdc00) := by
  obtain ⟨whole, small⟩ := valid_toNat c
  unfold unitsOf
  split
  · exact Or.inl ⟨rfl, whole⟩
  · right
    refine ⟨_, _, rfl, ?_⟩
    omega

theorem toNat_injective (same : c.toNat = d.toNat) : c = d := Char.ext (UInt32.toNat_inj.mp same)

theorem unitsOf_append_inj (same : unitsOf c ++ xs = unitsOf d ++ ys) : c = d ∧ xs = ys := by
  rcases unitsOf_cases c with ⟨one, whole⟩ | ⟨high, low, two, first, second, value⟩
  · rcases unitsOf_cases d with ⟨one', -⟩ | ⟨high', low', two', first', -⟩
    · rw [one, one'] at same
      obtain ⟨head, rest⟩ := List.cons.inj same
      exact ⟨toNat_injective head, rest⟩
    · rw [one, two'] at same
      have head := (List.cons.inj same).1
      unfold Half at whole
      omega
  · rcases unitsOf_cases d with ⟨one', whole'⟩ | ⟨high', low', two', first', second', value'⟩
    · rw [two, one'] at same
      have head := (List.cons.inj same).1
      unfold Half at whole'
      omega
    · rw [two, two'] at same
      obtain ⟨head, rest⟩ := List.cons.inj same
      obtain ⟨next, rest⟩ := List.cons.inj rest
      exact ⟨toNat_injective (by omega), rest⟩

theorem unitsOf_append_iff :
    unitsOf c ++ xs = t.flatMap unitsOf ↔ ∃ rest, t = c :: rest ∧ xs = rest.flatMap unitsOf := by
  constructor
  · intro same
    cases t with
    | nil => rcases unitsOf_cases c with ⟨one, -⟩ | ⟨high, low, two, -⟩ <;> simp_all
    | cons d rest =>
      rw [List.flatMap_cons] at same
      obtain ⟨rfl, behind⟩ := unitsOf_append_inj same
      exact ⟨rest, rfl, behind⟩
  · rintro ⟨rest, rfl, rfl⟩
    rfl

theorem unitsOf_ofNat (whole : ¬ Half n) (small : n < 0x10000) : unitsOf (Char.ofNat n) = [n] := by
  unfold Half at whole
  have value : (Char.ofNat n).toNat = n := Utf8.toNat_ofNat (by unfold Nat.isValidChar; omega)
  rw [unitsOf, value, if_pos small]

theorem unitsOf_pair (first : 0xd800 ≤ n ∧ n < 0xdc00) (second : 0xdc00 ≤ m ∧ m < 0xe000) :
    unitsOf (Char.ofNat (0x10000 + (n - 0xd800) * 0x400 + (m - 0xdc00))) = [n, m] := by
  have value := Utf8.toNat_ofNat
    (by unfold Nat.isValidChar; omega : (0x10000 + (n - 0xd800) * 0x400 + (m - 0xdc00)).isValidChar)
  rw [unitsOf, value, if_neg (by omega)]
  have high : 0xd800 + (0x10000 + (n - 0xd800) * 0x400 + (m - 0xdc00) - 0x10000) / 0x400 = n := by
    omega
  have low : 0xdc00 + (0x10000 + (n - 0xd800) * 0x400 + (m - 0xdc00) - 0x10000) % 0x400 = m := by
    omega
  rw [high, low]

theorem charAt?_some (small : n < 0x10000) (known : charAt? n = some c) : unitsOf c = [n] := by
  unfold charAt? at known
  split at known
  · cases known
    apply unitsOf_ofNat _ small
    unfold Half
    omega
  · cases known

theorem half_of_charAt?_none (small : n < 0x10000) (unknown : charAt? n = none) : Half n := by
  unfold charAt? at unknown
  split at unknown
  · cases unknown
  · unfold Half
    omega

/-- Half a character stands for nothing unless its other half follows. -/
theorem ne_of_half (half : Half n)
    (alone : ∀ m ∈ xs.head?, ¬ (0xd800 ≤ n ∧ n < 0xdc00 ∧ 0xdc00 ≤ m ∧ m < 0xe000)) :
    n :: xs ≠ t.flatMap unitsOf := by
  intro same
  cases t with
  | nil => cases same
  | cons d rest =>
    rw [List.flatMap_cons] at same
    rcases unitsOf_cases d with ⟨one, whole⟩ | ⟨high, low, two, first, second, -⟩
    · rw [one] at same
      exact whole ((List.cons.inj same).1 ▸ half)
    · rw [two] at same
      obtain ⟨rfl, rfl⟩ := List.cons.inj same
      exact alone low rfl ⟨first.1, first.2, second.1, second.2⟩

theorem head_unitsOf (c : Char) : ∀ m ∈ (unitsOf c ++ xs).head?, ¬ (0xdc00 ≤ m ∧ m < 0xe000) := by
  intro m head low
  rcases unitsOf_cases c with ⟨one, whole⟩ | ⟨high, low', two, first, -⟩
  · rw [one] at head
    cases head
    unfold Half at whole
    omega
  · rw [two] at head
    cases head
    omega

theorem joined_cons {rest : List Piece}
    (ih : ∀ {t}, joinPieces rest = some t ↔ rest.flatMap Piece.units = t.flatMap unitsOf) :
    (joinPieces rest).map (c :: ·) = some t ↔
      unitsOf c ++ rest.flatMap Piece.units = t.flatMap unitsOf := by
  rw [unitsOf_append_iff, Option.map_eq_some_iff]
  simp only [ih, eq_comm (a := t), and_comm]

/-- What the parts of a text are joined to has their units. -/
theorem joinPieces_iff (fits : ∀ p ∈ ps, p.Fits) :
    joinPieces ps = some t ↔ ps.flatMap Piece.units = t.flatMap unitsOf := by
  induction ps using joinPieces.induct generalizing t with
  | case1 =>
    cases t with
    | nil => exact ⟨fun _ => rfl, fun _ => rfl⟩
    | cons d rest =>
      rw [List.flatMap_cons]
      rcases unitsOf_cases d with ⟨one, -⟩ | ⟨high, low, two, -⟩
      · simp [one, joinPieces]
      · simp [two, joinPieces]
  | case2 c rest ih =>
    rw [joinPieces]
    exact joined_cons (ih (List.forall_mem_cons.mp fits).2)
  | case3 n m rest pair ih =>
    obtain ⟨-, -, fits⟩ := by simpa only [List.forall_mem_cons] using fits
    rw [joinPieces, if_pos pair, joined_cons (ih fits), unitsOf_pair ⟨pair.1, pair.2.1⟩ pair.2.2]
    rfl
  | case4 n m rest alone c known ih =>
    obtain ⟨small, fits⟩ := List.forall_mem_cons.mp fits
    rw [joinPieces, if_neg alone, known]
    dsimp only
    rw [joined_cons (ih fits), charAt?_some small known]
    rfl
  | case5 n m rest alone unknown =>
    obtain ⟨small, -⟩ := List.forall_mem_cons.mp fits
    rw [joinPieces, if_neg alone, unknown]
    refine ⟨nofun, fun same => absurd same (ne_of_half (half_of_charAt?_none small unknown) ?_)⟩
    rintro m ⟨⟩
    exact alone
  | case6 n rest other c known ih =>
    obtain ⟨small, fits⟩ := List.forall_mem_cons.mp fits
    rw [joinPieces, known]
    · dsimp only
      rw [joined_cons (ih fits), charAt?_some small known]
      rfl
    · exact other
  | case7 n rest other unknown =>
    -- a character behind the half does not begin with a second half
    obtain ⟨small, -⟩ := List.forall_mem_cons.mp fits
    rw [joinPieces, unknown]
    · refine ⟨nofun, fun same => absurd same (ne_of_half (half_of_charAt?_none small unknown) ?_)⟩
      intro m head pair
      cases rest with
      | nil => cases head
      | cons p rest =>
        cases p with
        | char c => exact head_unitsOf c m head pair.2.2
        | unit k => exact other k rest rfl
    · exact other

theorem digitValue?_lt (c : Char) : (digitValue? c).getD 0 < 16 := by
  have le {a b : Char} : a ≤ b ↔ a.toNat ≤ b.toNat := UInt32.le_iff_toNat_le
  simp only [digitValue?, le, Char.reduceToNat]
  split
  · rw [Option.getD_some]
    omega
  · split
    · rw [Option.getD_some]
      omega
    · split
      · rw [Option.getD_some]
        omega
      · decide

theorem digitsValue_lt {ds : Text} (four : ds.length = 4) : digitsValue 16 ds < 0x10000 := by
  match ds, four with
  | [a, b, c, d], _ =>
    have first := digitValue?_lt a
    have second := digitValue?_lt b
    have third := digitValue?_lt c
    have fourth := digitValue?_lt d
    simp only [digitsValue, List.foldl_cons, List.foldl_nil]
    omega

end FleetHealth.Json
