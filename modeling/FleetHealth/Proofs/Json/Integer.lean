import FleetHealth.Json.Number
import Mathlib.Tactic.Common

/- Whole numbers of a document. A number that is read as a whole one is the one that is written: it has
   neither a fraction nor an exponent, no digit of it is dropped, and zero has no sign. -/
namespace FleetHealth.Json

/-- The whole number that is written, if the number has neither a fraction nor an exponent. -/
structure Number.IsInteger (x : Number) (n : Int) : Prop where
  fraction : x.fraction = none
  exponent : x.exponent = none
  value : n = if x.negative then -(digitsValue 10 x.whole : Int) else digitsValue 10 x.whole
  signed : x.negative = true → n ≠ 0

theorem foldl_digits_le (n : Nat) (ds : Text) :
    n ≤ ds.foldl (fun n c => n * 10 + (digitValue? c).getD 0) n := by
  induction ds generalizing n with
  | nil => exact Nat.le_refl n
  | cons c ds ih =>
    have later := ih (n * 10 + (digitValue? c).getD 0)
    rw [List.foldl_cons]
    omega

/-- All digits are taken when the number that they make up fits. -/
theorem absorb_eq_iff {n m : Nat} {ds : Text} (fits : n < wordLimit) :
    absorb n ds = (m, []) ↔
      m = ds.foldl (fun n c => n * 10 + (digitValue? c).getD 0) n ∧ m < wordLimit := by
  induction ds generalizing n with
  | nil =>
    rw [absorb, List.foldl_nil, Prod.mk.injEq]
    constructor
    · rintro ⟨rfl, -⟩
      exact ⟨rfl, fits⟩
    · rintro ⟨rfl, -⟩
      exact ⟨rfl, rfl⟩
  | cons c ds ih =>
    rw [absorb, List.foldl_cons]
    split
    · rename_i next
      exact ih next
    · rename_i large
      have more := foldl_digits_le (n * 10 + (digitValue? c).getD 0) ds
      constructor
      · intro same
        cases same
      · rintro ⟨rfl, small⟩
        omega

theorem absorb_whole_iff {m : Nat} {ds : Text} :
    absorb 0 ds = (m, []) ↔ m = digitsValue 10 ds ∧ m < wordLimit :=
  absorb_eq_iff (by decide)

theorem float_ne_integer (negative : Bool) (o : Option Binary64) (n : Int) :
    (o.map fun y => Reading.float (negated negative y)) ≠ some (.integer n) := by
  cases o <;> simp

theorem isInteger_iff {negative : Bool} {whole : Text} {n : Int} :
    (Number.mk negative whole none none).IsInteger n ↔
      n = (if negative then -(digitsValue 10 whole : Int) else digitsValue 10 whole) ∧
        (negative = true → n ≠ 0) := by
  constructor
  · rintro ⟨-, -, value, signed⟩
    exact ⟨value, signed⟩
  · rintro ⟨value, signed⟩
    exact ⟨rfl, rfl, value, signed⟩

/-- A number of digits alone is a whole one if all its digits are taken. -/
theorem read?_digits_iff {negative : Bool} {whole : Text} {n : Int} :
    (Number.mk negative whole none none).read? = some (.integer n) ↔
      (Number.mk negative whole none none).IsInteger n ∧ -(signedLimit : Int) ≤ n ∧
        n < wordLimit := by
  have limits : signedLimit < wordLimit := by decide
  rw [isInteger_iff]
  unfold Number.read?
  by_cases fits : digitsValue 10 whole < wordLimit
  · rw [absorb_whole_iff.mpr ⟨rfl, fits⟩]
    cases negative with
    | false =>
      simp only [List.isEmpty_nil, Bool.not_true, Bool.false_eq_true, if_false, Bool.not_false,
        if_true, Option.some.injEq, Reading.integer.injEq, false_implies, and_true]
      omega
    | true =>
      simp only [List.isEmpty_nil, Bool.not_true, Bool.false_eq_true, if_false, if_true,
        true_implies]
      split
      · rename_i out
        constructor
        · intro read
          exact absurd read (float_ne_integer _ _ n)
        · omega
      · rename_i inside
        simp only [Option.some.injEq, Reading.integer.injEq]
        omega
  · cases taken : absorb 0 whole with
    | mk m dropped =>
      have left : dropped ≠ [] := by
        rintro rfl
        obtain ⟨rfl, small⟩ := absorb_whole_iff.mp taken
        exact fits small
      simp only [List.isEmpty_eq_false_iff.mpr left, Bool.not_false, if_true]
      constructor
      · intro read
        exact absurd read (float_ne_integer _ _ n)
      · cases negative
        · simp only [Bool.false_eq_true, if_false]
          omega
        · simp only [if_true]
          omega

/-- What is read as a whole number is written as one and fits 64 bits. -/
theorem read?_integer_iff {x : Number} {n : Int} :
    x.read? = some (.integer n) ↔ x.IsInteger n ∧ -(signedLimit : Int) ≤ n ∧ n < wordLimit := by
  obtain ⟨negative, whole, fraction, exponent⟩ := x
  by_cases digits : fraction = none ∧ exponent = none
  · obtain ⟨rfl, rfl⟩ := digits
    exact read?_digits_iff
  · constructor
    · intro read
      unfold Number.read? at read
      cases fraction with
      | some places => exact absurd read (float_ne_integer _ _ n)
      | none =>
        cases exponent with
        | some e => exact absurd read (float_ne_integer _ _ n)
        | none => exact absurd ⟨rfl, rfl⟩ digits
    · rintro ⟨integer, -⟩
      exact absurd ⟨integer.fraction, integer.exponent⟩ digits

end FleetHealth.Json
