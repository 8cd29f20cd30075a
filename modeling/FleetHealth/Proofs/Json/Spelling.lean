import FleetHealth.Proofs.Json.Units
import Mathlib.Data.List.DropRight
import Mathlib.Data.List.TakeWhile

/- How the parts of a document are spelled that hold no others. Each reader is held to its spelling:
   what it takes spells what it gives, and whatever is spelled it takes to the end. -/
namespace FleetHealth.Json

/-- A reader of one part, where `stops` says what may stand behind the part. -/
structure Scans {α : Type} (read : Text → Option (α × Text)) (spells : Text → α → Prop)
    (stops : Text → Prop) : Prop where
  sound {t r : Text} {a : α} : read t = some (a, r) → ∃ w, spells w a ∧ t = w ++ r
  complete {w r : Text} {a : α} : spells w a → stops r → read (w ++ r) = some (a, r)

/-- White space between the parts of a document. -/
def Spaces (t : Text) : Prop := ∀ c ∈ t, isSpace c = true

structure Digits (ds : Text) : Prop where
  some_ : ds ≠ []
  digits : ∀ c ∈ ds, isDigit c = true

inductive SpellsFraction : Text → Option Text → Prop
  | none : SpellsFraction [] none
  | places {ds : Text} (digits : Digits ds) : SpellsFraction ('.' :: ds) (some ds)

inductive SpellsSign : Text → Bool → Prop
  | none : SpellsSign [] false
  | plus : SpellsSign ['+'] false
  | minus : SpellsSign ['-'] true

inductive SpellsExponent : Text → Option Int → Prop
  | none : SpellsExponent [] none
  | power {mark : Char} {sign ds : Text} {negative : Bool} (marked : mark = 'e' ∨ mark = 'E')
      (signed : SpellsSign sign negative) (digits : Digits ds) :
      SpellsExponent (mark :: (sign ++ ds))
        (some (if negative then -(digitsValue 10 ds : Int) else digitsValue 10 ds))

/-- A number behind its sign. Only a single zero begins with zero. -/
inductive SpellsNumber (negative : Bool) : Text → Number → Prop
  | parts {whole f e : Text} {fraction : Option Text} {exponent : Option Int} (digits : Digits whole)
      (short : whole.head? = some '0' → whole.length = 1) (places : SpellsFraction f fraction)
      (power : SpellsExponent e exponent) :
      SpellsNumber negative (whole ++ (f ++ e)) ⟨negative, whole, fraction, exponent⟩

inductive SpellsPieces : Text → List Piece → Prop
  | nil : SpellsPieces [] []
  | char {c : Char} {w : Text} {ps : List Piece} (printed : 0x20 ≤ c.toNat) (quote : c ≠ '"')
      (escape : c ≠ '\\') (rest : SpellsPieces w ps) : SpellsPieces (c :: w) (.char c :: ps)
  | escape {c d : Char} {w : Text} {ps : List Piece} (escaped : escapedChar? c = some d)
      (rest : SpellsPieces w ps) : SpellsPieces ('\\' :: c :: w) (.char d :: ps)
  | unit {ds w : Text} {ps : List Piece} (four : ds.length = 4)
      (digits : ∀ c ∈ ds, isHexDigit c = true) (rest : SpellsPieces w ps) :
      SpellsPieces ('\\' :: 'u' :: (ds ++ w)) (.unit (digitsValue 16 ds) :: ps)

/-- A text behind its opening quote. It is missing when no text has the units of its parts. -/
inductive SpellsText : Text → Option Text → Prop
  | joined {w t : Text} {ps : List Piece} (pieces : SpellsPieces w ps)
      (same : ps.flatMap Piece.units = t.flatMap unitsOf) : SpellsText (w ++ ['"']) (some t)
  | missing {w : Text} {ps : List Piece} (pieces : SpellsPieces w ps)
      (other : ∀ t : Text, ps.flatMap Piece.units ≠ t.flatMap unitsOf) : SpellsText (w ++ ['"']) none

inductive SpellsScalar : Text → Scalar → Prop
  | null : SpellsScalar "null".toList .null
  | true_ : SpellsScalar "true".toList (.boolean true)
  | false_ : SpellsScalar "false".toList (.boolean false)
  | text {w : Text} {t : Option Text} (quoted : SpellsText w t) : SpellsScalar ('"' :: w) (.text t)
  | unsigned {w : Text} {x : Number} (number : SpellsNumber false w x) : SpellsScalar w (.number x)
  | negative {w : Text} {x : Number} (number : SpellsNumber true w x) :
      SpellsScalar ('-' :: w) (.number x)

/-- A number that ends in front of a text does not go on with it. -/
def EndsNumber (r : Text) : Prop := ∀ c ∈ r.head?, isDigit c = false ∧ c ≠ '.' ∧ c ≠ 'e' ∧ c ≠ 'E'

def NoDigit (r : Text) : Prop := ∀ c ∈ r.head?, isDigit c = false

variable {t w r : Text}

theorem skipSpaces_append (spaces : Spaces w) (t : Text) : skipSpaces (w ++ t) = skipSpaces t :=
  List.dropWhile_append_of_pos spaces

theorem exists_skipSpaces (t : Text) : ∃ w, Spaces w ∧ t = w ++ skipSpaces t :=
  ⟨t.takeWhile isSpace, fun _ mem => List.mem_takeWhile_imp mem, List.takeWhile_append_dropWhile.symm⟩

theorem skipSpaces_idem (t : Text) : skipSpaces (skipSpaces t) = skipSpaces t :=
  List.dropWhile_idempotent isSpace t

theorem scans_digits : Scans readDigits (fun w ds => w = ds ∧ Digits ds) NoDigit := by
  constructor
  · intro t r ds read
    unfold readDigits at read
    dsimp only at read
    split at read
    · cases read
    · rename_i some_
      cases read
      refine ⟨_, ⟨rfl, List.isEmpty_eq_false_iff.mp (by simpa using some_), ?_⟩, ?_⟩
      · intro c mem
        exact List.mem_takeWhile_imp mem
      · exact (List.prefix_iff_eq_append.mp (List.takeWhile_prefix isDigit)).symm
  · rintro w r ds ⟨rfl, some_, digits⟩ stops
    have behind : r.takeWhile isDigit = [] := by
      cases r with
      | nil => rfl
      | cons c r => simp [stops c rfl]
    have taken : (w ++ r).takeWhile isDigit = w := by
      rw [List.takeWhile_append_of_pos digits, behind, List.append_nil]
    unfold readDigits
    dsimp only
    rw [taken, List.isEmpty_eq_false_iff.mpr some_, List.drop_left]
    rfl

theorem scans_fraction :
    Scans readFraction SpellsFraction fun r => NoDigit r ∧ r.head? ≠ some '.' := by
  constructor
  · intro t r fraction read
    unfold readFraction at read
    split at read
    · obtain ⟨⟨ds, r⟩, taken, same⟩ := Option.map_eq_some_iff.mp read
      cases same
      obtain ⟨w, ⟨rfl, digits⟩, rfl⟩ := scans_digits.sound taken
      exact ⟨_, .places digits, rfl⟩
    · cases read
      exact ⟨_, .none, rfl⟩
  · rintro w r fraction spelled ⟨noDigit, noPoint⟩
    cases spelled with
    | none =>
      rw [List.nil_append]
      unfold readFraction
      split
      · exact absurd rfl noPoint
      · rfl
    | @places ds digits =>
      have taken : readDigits (ds ++ r) = some (ds, r) := scans_digits.complete ⟨rfl, digits⟩ noDigit
      rw [List.cons_append, readFraction, taken]
      rfl

theorem ne_of_isDigit {c d : Char} (digit : isDigit c = true) (other : isDigit d = false) : c ≠ d := by
  rintro rfl
  rw [digit] at other
  cases other

theorem Digits.head {c : Char} {ds : Text} (digits : Digits (c :: ds)) : isDigit c = true :=
  digits.digits c List.mem_cons_self

/-- What stands in an exponent behind its mark. -/
theorem readExponent_power {mark : Char} {sign ds r : Text} {negative : Bool}
    (marked : mark = 'e' ∨ mark = 'E') (signed : SpellsSign sign negative) (digits : Digits ds) :
    readExponent (mark :: (sign ++ (ds ++ r))) = (readDigits (ds ++ r)).map fun (ds, r) =>
      (some (if negative then -(digitsValue 10 ds : Int) else digitsValue 10 ds), r) := by
  have known : (mark == 'e' || mark == 'E') = true := by simpa using marked
  cases signed with
  | none =>
    obtain ⟨c, ds, rfl⟩ := List.exists_cons_of_ne_nil digits.some_
    have head := digits.head
    rw [List.nil_append, List.cons_append, readExponent, if_pos known]
    · rintro s ⟨⟩
      exact absurd head (by decide)
    · rintro s ⟨⟩
      exact absurd head (by decide)
  | plus => rw [List.singleton_append, readExponent, if_pos known]
  | minus => rw [List.singleton_append, readExponent, if_pos known]

theorem scans_exponent : Scans readExponent SpellsExponent EndsNumber := by
  constructor
  · intro t r exponent read
    unfold readExponent at read
    split at read
    · split at read
      · rename_i mark rest known
        have marked : mark = 'e' ∨ mark = 'E' := by simpa using known
        split at read
        rename_i negative behind here
        obtain ⟨⟨ds, left⟩, taken, same⟩ := Option.map_eq_some_iff.mp read
        cases same
        obtain ⟨w, ⟨rfl, digits⟩, rfl⟩ := scans_digits.sound taken
        split at here
        · cases here
          exact ⟨_, .power marked .minus digits, rfl⟩
        · cases here
          exact ⟨_, .power marked .plus digits, rfl⟩
        · cases here
          exact ⟨_, .power marked .none digits, rfl⟩
      · cases read
        exact ⟨_, .none, rfl⟩
    · cases read
      exact ⟨_, .none, rfl⟩
  · intro w r exponent spelled stops
    cases spelled with
    | none =>
      rw [List.nil_append]
      unfold readExponent
      split
      · rename_i c r
        obtain ⟨-, -, small, large⟩ := stops c rfl
        rw [if_neg (by simp [small, large])]
      · rfl
    | @power mark sign ds negative marked signed digits =>
      have taken : readDigits (ds ++ r) = some (ds, r) :=
        scans_digits.complete ⟨rfl, digits⟩ fun c head => (stops c head).1
      rw [List.cons_append, List.append_assoc, readExponent_power marked signed digits, taken]
      rfl

theorem SpellsFraction.noDigit {f : Text} {fraction : Option Text} (spelled : SpellsFraction f fraction)
    (stops : NoDigit r) : NoDigit (f ++ r) := by
  cases spelled with
  | none => exact stops
  | places digits =>
    intro c head
    cases head
    decide

theorem SpellsExponent.noDigit {e : Text} {exponent : Option Int} (spelled : SpellsExponent e exponent)
    (stops : EndsNumber r) : NoDigit (e ++ r) ∧ (e ++ r).head? ≠ some '.' := by
  cases spelled with
  | none =>
    constructor
    · intro c head
      exact (stops c head).1
    · intro head
      exact (stops '.' head).2.1 rfl
  | power marked signed digits =>
    constructor
    · intro c head
      cases head
      rcases marked with rfl | rfl <;> decide
    · rintro ⟨⟩
      rcases marked with same | same <;> exact absurd same (by decide)

theorem scans_number (negative : Bool) :
    Scans (readNumber negative) (SpellsNumber negative) EndsNumber := by
  constructor
  · intro t r x read
    unfold readNumber at read
    obtain ⟨⟨whole, t⟩, takenW, read⟩ := Option.bind_eq_some_iff.mp read
    dsimp only at read
    split at read
    · cases read
    · rename_i short
      obtain ⟨⟨fraction, t⟩, takenF, read⟩ := Option.bind_eq_some_iff.mp read
      obtain ⟨⟨exponent, t⟩, takenE, read⟩ := Option.bind_eq_some_iff.mp read
      cases read
      obtain ⟨_, ⟨rfl, digits⟩, rfl⟩ := scans_digits.sound takenW
      obtain ⟨f, places, rfl⟩ := scans_fraction.sound takenF
      obtain ⟨e, power, rfl⟩ := scans_exponent.sound takenE
      refine ⟨_, .parts digits ?_ places power, by simp⟩
      intro zero
      exact not_not.mp fun long => short ⟨long, zero⟩
  · intro w r x spelled stops
    cases spelled with
    | @parts whole f e fraction exponent digits short places power =>
      obtain ⟨noDigit, noPoint⟩ := power.noDigit stops
      have takenW := scans_digits.complete ⟨rfl, digits⟩ (places.noDigit noDigit)
      have takenF := scans_fraction.complete places ⟨noDigit, noPoint⟩
      have takenE := scans_exponent.complete power stops
      have whole_ : ¬ (whole.length ≠ 1 ∧ whole.head? = some '0') := fun long => long.1 (short long.2)
      simp only [readNumber, List.append_assoc, takenW, takenF, takenE, Option.bind_eq_bind,
        Option.bind_some, if_neg whole_]

structure SpellsUnit (ds : Text) (n : Nat) : Prop where
  four : ds.length = 4
  digits : ∀ c ∈ ds, isHexDigit c = true
  value : n = digitsValue 16 ds

theorem scans_unit : Scans readUnit SpellsUnit fun _ => True := by
  constructor
  · intro t r n read
    unfold readUnit at read
    dsimp only at read
    split at read
    · rename_i known
      cases read
      exact ⟨t.take 4, ⟨known.1, List.all_eq_true.mp known.2, rfl⟩, (List.take_append_drop 4 t).symm⟩
    · cases read
  · rintro w r n ⟨four, digits, rfl⟩ -
    have taken : (w ++ r).take 4 = w := by rw [← four, List.take_left]
    have left : (w ++ r).drop 4 = r := by rw [← four, List.drop_left]
    unfold readUnit
    dsimp only
    rw [taken, left, if_pos ⟨four, List.all_eq_true.mpr digits⟩]

theorem readPieces_sound {fuel : Nat} {ps : List Piece} (read : readPieces fuel t = some (ps, r)) :
    ∃ w, SpellsPieces w ps ∧ t = w ++ '"' :: r := by
  induction fuel generalizing t ps with
  | zero => cases read
  | succ fuel ih =>
    unfold readPieces at read
    split at read
    · cases read
      exact ⟨[], .nil, rfl⟩
    · obtain ⟨⟨n, t⟩, taken, read⟩ := Option.bind_eq_some_iff.mp read
      obtain ⟨⟨ps, t⟩, rest, read⟩ := Option.bind_eq_some_iff.mp read
      cases read
      obtain ⟨ds, ⟨four, digits, rfl⟩, rfl⟩ := scans_unit.sound taken
      obtain ⟨w, pieces, rfl⟩ := ih rest
      exact ⟨_, .unit four digits pieces, by simp⟩
    · obtain ⟨d, escaped, read⟩ := Option.bind_eq_some_iff.mp read
      obtain ⟨⟨ps, t⟩, rest, read⟩ := Option.bind_eq_some_iff.mp read
      cases read
      obtain ⟨w, pieces, rfl⟩ := ih rest
      exact ⟨_, .escape escaped pieces, rfl⟩
    · rename_i c t quote _ _
      split at read
      · cases read
      · rename_i plain
        obtain ⟨⟨ps, t⟩, rest, read⟩ := Option.bind_eq_some_iff.mp read
        cases read
        obtain ⟨w, pieces, rfl⟩ := ih rest
        rw [Bool.or_eq_true, not_or] at plain
        refine ⟨c :: w, .char ?_ quote ?_ pieces, rfl⟩
        · simpa using plain.1
        · simpa using plain.2
    · cases read

theorem readPieces_complete {ps : List Piece} (spelled : SpellsPieces w ps) {fuel : Nat}
    (enough : w.length < fuel) (r : Text) : readPieces fuel (w ++ '"' :: r) = some (ps, r) := by
  induction spelled generalizing fuel with
  | nil =>
    obtain ⟨fuel, rfl⟩ := Nat.exists_eq_succ_of_ne_zero (Nat.ne_zero_of_lt enough)
    rfl
  | @char c w ps printed quote escape rest ih =>
    obtain ⟨fuel, rfl⟩ := Nat.exists_eq_succ_of_ne_zero (Nat.ne_zero_of_lt enough)
    have plain : ¬ ((decide (c.toNat < 0x20) || c == '\\') = true) := by
      simp [escape, Nat.not_lt.mpr printed]
    have later := ih (Nat.lt_of_succ_lt_succ enough)
    rw [List.cons_append, readPieces, if_neg plain, later]
    · rfl
    · exact quote
    · exact fun _ same => absurd same escape
    · exact fun _ _ same => absurd same escape
  | @escape c d w ps escaped rest ih =>
    obtain ⟨fuel, rfl⟩ := Nat.exists_eq_succ_of_ne_zero (Nat.ne_zero_of_lt enough)
    have short : w.length < fuel := by
      simp only [List.length_cons] at enough
      omega
    have later := ih short
    rw [List.cons_append, List.cons_append, readPieces, escaped]
    · simp [later]
    · rintro rfl
      cases escaped
  | @unit ds w ps four digits rest ih =>
    obtain ⟨fuel, rfl⟩ := Nat.exists_eq_succ_of_ne_zero (Nat.ne_zero_of_lt enough)
    have taken : readUnit (ds ++ (w ++ '"' :: r)) = some (digitsValue 16 ds, w ++ '"' :: r) :=
      scans_unit.complete ⟨four, digits, rfl⟩ trivial
    have short : w.length < fuel := by
      simp only [List.length_cons, List.length_append] at enough
      omega
    have later := ih short
    rw [List.cons_append, List.cons_append, List.append_assoc, readPieces, taken]
    simp [later]

theorem SpellsPieces.fits {ps : List Piece} (spelled : SpellsPieces w ps) : ∀ p ∈ ps, p.Fits := by
  induction spelled with
  | nil => nofun
  | char printed quote escape rest ih => exact List.forall_mem_cons.mpr ⟨trivial, ih⟩
  | escape escaped rest ih => exact List.forall_mem_cons.mpr ⟨trivial, ih⟩
  | @unit ds w ps four digits rest ih =>
    exact List.forall_mem_cons.mpr ⟨digitsValue_lt four, ih⟩

theorem spellsText_iff {s : Option Text} :
    SpellsText w s ↔ ∃ body ps, w = body ++ ['"'] ∧ SpellsPieces body ps ∧ joinPieces ps = s := by
  constructor
  · intro spelled
    cases spelled with
    | joined pieces same => exact ⟨_, _, rfl, pieces, (joinPieces_iff pieces.fits).mpr same⟩
    | missing pieces other =>
      refine ⟨_, _, rfl, pieces, Option.eq_none_iff_forall_ne_some.mpr ?_⟩
      intro t joined
      exact other t ((joinPieces_iff pieces.fits).mp joined)
  · rintro ⟨body, ps, rfl, pieces, rfl⟩
    cases joined : joinPieces ps with
    | none =>
      refine .missing pieces ?_
      intro t same
      rw [(joinPieces_iff pieces.fits).mpr same] at joined
      cases joined
    | some t => exact .joined pieces ((joinPieces_iff pieces.fits).mp joined)

theorem scans_text : Scans readText SpellsText fun _ => True := by
  constructor
  · intro t r s read
    obtain ⟨⟨ps, r⟩, taken, same⟩ := Option.map_eq_some_iff.mp read
    cases same
    obtain ⟨w, pieces, rfl⟩ := readPieces_sound taken
    exact ⟨w ++ ['"'], spellsText_iff.mpr ⟨w, ps, rfl, pieces, rfl⟩, by simp⟩
  · intro w r s spelled _
    obtain ⟨w, ps, rfl, pieces, rfl⟩ := spellsText_iff.mp spelled
    have short : w.length < (w ++ '"' :: r).length + 1 := by
      rw [List.length_append]
      omega
    have taken := readPieces_complete pieces short r
    rw [List.append_assoc, List.singleton_append, readText, taken]
    rfl

theorem SpellsNumber.head {negative : Bool} {x : Number} (spelled : SpellsNumber negative w x) :
    ∃ c rest, w = c :: rest ∧ isDigit c = true := by
  cases spelled with
  | parts digits short places power =>
    obtain ⟨c, ds, rfl⟩ := List.exists_cons_of_ne_nil digits.some_
    exact ⟨c, _, rfl, digits.head⟩

theorem scans_scalar : Scans readScalar SpellsScalar EndsNumber := by
  constructor
  · intro t r s read
    unfold readScalar at read
    split at read
    · cases read
      exact ⟨_, .null, rfl⟩
    · cases read
      exact ⟨_, .true_, rfl⟩
    · cases read
      exact ⟨_, .false_, rfl⟩
    · obtain ⟨⟨s, r⟩, taken, same⟩ := Option.map_eq_some_iff.mp read
      cases same
      obtain ⟨w, quoted, rfl⟩ := scans_text.sound taken
      exact ⟨_, .text quoted, rfl⟩
    · obtain ⟨⟨x, r⟩, taken, same⟩ := Option.map_eq_some_iff.mp read
      cases same
      obtain ⟨w, number, rfl⟩ := (scans_number true).sound taken
      exact ⟨_, .negative number, rfl⟩
    · obtain ⟨⟨x, r⟩, taken, same⟩ := Option.map_eq_some_iff.mp read
      cases same
      obtain ⟨w, number, rfl⟩ := (scans_number false).sound taken
      exact ⟨_, .unsigned number, rfl⟩
  · intro w r s spelled stops
    cases spelled with
    | null => rfl
    | true_ => rfl
    | false_ => rfl
    | text quoted =>
      have taken := scans_text.complete (r := r) quoted trivial
      rw [List.cons_append, readScalar, taken]
      rfl
    | negative number =>
      have taken := (scans_number true).complete number stops
      rw [List.cons_append, readScalar, taken]
      rfl
    | unsigned number =>
      have taken := (scans_number false).complete number stops
      obtain ⟨c, rest, rfl, digit⟩ := number.head
      rw [List.cons_append] at taken ⊢
      rw [readScalar, taken]
      · rfl
      all_goals exact fun _ same => ne_of_isDigit digit (by decide) (List.cons.inj same).1

/-- A scalar begins with a character that nothing else begins or ends with. -/
theorem SpellsScalar.head {s : Scalar} (spelled : SpellsScalar w s) :
    ∃ c rest, w = c :: rest ∧ isSpace c = false ∧ c ≠ '[' ∧ c ≠ '{' ∧ c ≠ ']' := by
  cases spelled with
  | null => exact ⟨_, _, rfl, by decide⟩
  | true_ => exact ⟨_, _, rfl, by decide⟩
  | false_ => exact ⟨_, _, rfl, by decide⟩
  | text quoted => exact ⟨_, _, rfl, by decide⟩
  | negative number => exact ⟨_, _, rfl, by decide⟩
  | unsigned number =>
    obtain ⟨c, rest, rfl, digit⟩ := number.head
    have other {d : Char} : isDigit d = false → c ≠ d := ne_of_isDigit digit
    refine ⟨c, rest, rfl, ?_, other (by decide), other (by decide), other (by decide)⟩
    simp only [isSpace, Bool.or_eq_false_iff, beq_eq_false_iff_ne]
    exact ⟨⟨⟨other (by decide), other (by decide)⟩, other (by decide)⟩, other (by decide)⟩

end FleetHealth.Json
