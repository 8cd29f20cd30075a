import FleetHealth.Proofs.Json.Spelling
import FleetHealth.Proofs.Json.Tree

/- How whole documents are spelled, and that they are read as what they spell. The readers of values,
   items and members call each other with one step less, so one induction on the steps carries what is
   said of all three; two steps for each character are enough. -/
namespace FleetHealth.Json

/-- Parts kept apart by commas, with white space around each. -/
inductive Listed {α : Type} (spells : Text → α → Prop) : Text → List α → Prop
  | nil {w : Text} (spaces : Spaces w) : Listed spells w []
  | last {before w after : Text} {a : α} (front : Spaces before) (part : spells w a)
      (back : Spaces after) : Listed spells (before ++ (w ++ after)) [a]
  | more {before w after rest : Text} {a b : α} {as : List α} (front : Spaces before)
      (part : spells w a) (back : Spaces after) (others : Listed spells rest (b :: as)) :
      Listed spells (before ++ (w ++ (after ++ ',' :: rest))) (a :: b :: as)

inductive SpellsMember (spells : Text → Tree → Prop) : Text → Option Text × Tree → Prop
  | named {name before after w : Text} {key : Option Text} {x : Tree} (quoted : SpellsText name key)
      (front : Spaces before) (back : Spaces after) (value : spells w x) :
      SpellsMember spells ('"' :: (name ++ (before ++ ':' :: (after ++ w)))) (key, x)

inductive Spells : Text → Tree → Prop
  | scalar {w : Text} {s : Scalar} (scalar : SpellsScalar w s) : Spells w (.scalar s)
  | array {w : Text} {xs : List Tree} (items : Listed Spells w xs) :
      Spells ('[' :: (w ++ [']'])) (.array xs)
  | object {w : Text} {ms : Members} (members : Listed (SpellsMember Spells) w ms) :
      Spells ('\x7b' :: (w ++ ['\x7d'])) (.object ms)

/-- White space may stand around a document. -/
inductive SpellsDocument : Text → Tree → Prop
  | framed {before w after : Text} {x : Tree} (front : Spaces before) (value : Spells w x)
      (back : Spaces after) : SpellsDocument (before ++ (w ++ after)) x

variable {t w r : Text} {x : Tree} {fuel : Nat}

theorem Spaces.append {before : Text} (front : Spaces before) (back : Spaces w) :
    Spaces (before ++ w) :=
  List.forall_mem_append.mpr ⟨front, back⟩

theorem Listed.behind {α : Type} {spells : Text → α → Prop} {before : Text} {as : List α}
    (front : Spaces before) (listed : Listed spells w as) : Listed spells (before ++ w) as := by
  cases listed with
  | nil spaces => exact .nil (front.append spaces)
  | last first part back =>
    rw [← List.append_assoc]
    exact .last (front.append first) part back
  | more first part back others =>
    rw [← List.append_assoc]
    exact .more (front.append first) part back others

theorem skipped {c : Char} (skip : skipSpaces t = c :: r) : ∃ before, Spaces before ∧ t = before ++ c :: r := by
  obtain ⟨before, spaces, split⟩ := exists_skipSpaces t
  rw [skip] at split
  exact ⟨before, spaces, split⟩

def SoundValues (fuel : Nat) : Prop :=
  ∀ t v r x, readValue fuel t = (v, some r) → v.tree? = some x →
    ∃ before w, Spaces before ∧ Spells w x ∧ t = before ++ (w ++ r)

def SoundItems (fuel : Nat) : Prop :=
  ∀ t vs r xs, readItems fuel t = (vs, some r) → Value.tree?.trees? vs = some xs →
    xs ≠ [] ∧ ∃ w, Listed Spells w xs ∧ t = w ++ ']' :: r

def SoundMembers (fuel : Nat) : Prop :=
  ∀ t vs r ms, readMembers fuel t = (vs, some r) → Value.tree?.memberTrees? vs = some ms →
    ms ≠ [] ∧ ∃ w, Listed (SpellsMember Spells) w ms ∧ t = w ++ '\x7d' :: r

theorem soundItems_succ (values : SoundValues fuel) (items : SoundItems fuel) :
    SoundItems (fuel + 1) := by
  intro t vs r xs read trees
  unfold readItems at read
  split at read
  · cases read
  · rename_i v behind first
    split at read
    · rename_i r skip
      cases read
      obtain ⟨x, rest, tree, nothing, rfl⟩ := trees?_cons.mp trees
      cases nothing
      obtain ⟨before, w, front, value, rfl⟩ := values _ _ _ _ first tree
      obtain ⟨after, back, rfl⟩ := skipped skip
      exact ⟨List.cons_ne_nil x [], _, .last front value back, by simp⟩
    · rename_i rest skip
      cases later : readItems fuel rest with
      | mk vs left =>
        rw [later] at read
        cases read
        obtain ⟨x, xs, tree, shape, rfl⟩ := trees?_cons.mp trees
        obtain ⟨before, w, front, value, rfl⟩ := values _ _ _ _ first tree
        obtain ⟨after, back, rfl⟩ := skipped skip
        obtain ⟨some_, w', others, rfl⟩ := items _ _ _ _ later shape
        obtain ⟨y, ys, rfl⟩ := List.exists_cons_of_ne_nil some_
        exact ⟨List.cons_ne_nil x _, _, .more front value back others, by simp⟩
    · cases read

theorem soundMembers_succ (values : SoundValues fuel) (members : SoundMembers fuel) :
    SoundMembers (fuel + 1) := by
  intro t vs r ms read trees
  unfold readMembers at read
  split at read
  · rename_i r' quote
    obtain ⟨start, lead, rfl⟩ := skipped quote
    split at read
    · cases read
    · rename_i key behind named
      obtain ⟨name, quoted, rfl⟩ := scans_text.sound named
      dsimp only at read
      split at read
      · rename_i colon skipColon
        obtain ⟨before, front, rfl⟩ := skipped skipColon
        split at read
        · cases read
        · rename_i v behind first
          -- behind its value a member is the last one, or a comma leads on to the others
          split at read
          · rename_i r skip
            cases read
            obtain ⟨x, rest, tree, nothing, rfl⟩ := memberTrees?_cons.mp trees
            cases nothing
            obtain ⟨after, w, back, value, rfl⟩ := values _ _ _ _ first tree
            obtain ⟨left, end_, rfl⟩ := skipped skip
            refine ⟨List.cons_ne_nil _ [], _, .last lead (.named quoted front back value) end_, ?_⟩
            simp
          · rename_i rest skip
            cases later : readMembers fuel rest with
            | mk vs left =>
              rw [later] at read
              cases read
              obtain ⟨x, ms, tree, shape, rfl⟩ := memberTrees?_cons.mp trees
              obtain ⟨after, w, back, value, rfl⟩ := values _ _ _ _ first tree
              obtain ⟨left, end_, rfl⟩ := skipped skip
              obtain ⟨some_, w', others, rfl⟩ := members _ _ _ _ later shape
              obtain ⟨m, ms, rfl⟩ := List.exists_cons_of_ne_nil some_
              refine ⟨List.cons_ne_nil _ _, _,
                .more lead (.named quoted front back value) end_ others, ?_⟩
              simp
          · cases read
      · cases read
  · cases read

theorem soundValues_succ (items : SoundItems fuel) (members : SoundMembers fuel) :
    SoundValues (fuel + 1) := by
  intro t v r x read tree
  unfold readValue at read
  split at read
  · rename_i r' open_
    obtain ⟨before, front, rfl⟩ := skipped open_
    split at read
    rename_i vs rest inside
    cases read
    obtain ⟨-, xs, trees, rfl⟩ := tree?_array_iff.mp tree
    -- the array is closed at once, or its items are read from the first character that is no space
    split at inside
    · rename_i left close
      cases inside
      cases trees
      obtain ⟨within, spaces, rfl⟩ := skipped close
      exact ⟨before, _, front, .array (.nil spaces), by simp⟩
    · obtain ⟨-, w, listed, split⟩ := items _ _ _ _ inside trees
      obtain ⟨within, spaces, whole⟩ := exists_skipSpaces r'
      rw [split] at whole
      exact ⟨before, _, front, .array (listed.behind spaces), by simp [whole]⟩
  · rename_i r' open_
    obtain ⟨before, front, rfl⟩ := skipped open_
    split at read
    rename_i vs rest inside
    cases read
    obtain ⟨-, ms, trees, rfl⟩ := tree?_object_iff.mp tree
    split at inside
    · rename_i left close
      cases inside
      cases trees
      obtain ⟨within, spaces, rfl⟩ := skipped close
      exact ⟨before, _, front, .object (.nil spaces), by simp⟩
    · obtain ⟨-, w, listed, split⟩ := members _ _ _ _ inside trees
      obtain ⟨within, spaces, whole⟩ := exists_skipSpaces r'
      rw [split] at whole
      exact ⟨before, _, front, .object (listed.behind spaces), by simp [whole]⟩
  · obtain ⟨before, front, split⟩ := exists_skipSpaces t
    split at read
    · rename_i s r scanned
      cases read
      cases tree
      obtain ⟨w, scalar, rest⟩ := scans_scalar.sound scanned
      exact ⟨before, w, front, .scalar scalar, by rw [← rest, ← split]⟩
    · cases read

theorem sound (fuel : Nat) : SoundValues fuel ∧ SoundItems fuel ∧ SoundMembers fuel := by
  induction fuel with
  | zero =>
    refine ⟨?_, ?_, ?_⟩
    · rintro t v r x ⟨⟩
    · rintro t vs r xs ⟨⟩
    · rintro t vs r ms ⟨⟩
  | succ fuel ih =>
    obtain ⟨values, items, members⟩ := ih
    exact ⟨soundValues_succ items members, soundItems_succ values items,
      soundMembers_succ values members⟩

def TakesValues (fuel : Nat) : Prop :=
  ∀ before w x r, Spaces before → Spells w x → 2 * w.length ≤ fuel → EndsNumber r →
    ∃ v, readValue fuel (before ++ (w ++ r)) = (v, some r) ∧ v.tree? = some x

def TakesItems (fuel : Nat) : Prop :=
  ∀ w x xs r, Listed Spells w (x :: xs) → 2 * w.length < fuel →
    ∃ vs, readItems fuel (w ++ ']' :: r) = (vs, some r) ∧ Value.tree?.trees? vs = some (x :: xs)

def TakesMembers (fuel : Nat) : Prop :=
  ∀ w m ms r, Listed (SpellsMember Spells) w (m :: ms) → 2 * w.length < fuel →
    ∃ vs, readMembers fuel (w ++ '\x7d' :: r) = (vs, some r) ∧
      Value.tree?.memberTrees? vs = some (m :: ms)

theorem endsNumber_cons {c : Char} (other : isDigit c = false ∧ c ≠ '.' ∧ c ≠ 'e' ∧ c ≠ 'E')
    (r : Text) : EndsNumber (c :: r) := by
  intro d head
  cases head
  exact other

theorem endsNumber_spaces {after : Text} (spaces : Spaces after) (ends : EndsNumber r) :
    EndsNumber (after ++ r) := by
  cases after with
  | nil => exact ends
  | cons c after =>
    apply endsNumber_cons
    have space := spaces c List.mem_cons_self
    simp only [isSpace, Bool.or_eq_true, beq_iff_eq] at space
    rcases space with ((rfl | rfl) | rfl) | rfl <;> decide

theorem skip_to {c : Char} {before : Text} (spaces : Spaces before) (stops : isSpace c = false)
    (r : Text) : skipSpaces (before ++ c :: r) = c :: r := by
  rw [skipSpaces_append spaces, skipSpaces, List.dropWhile_cons_of_neg (by simp [stops])]

theorem takesItems_succ (values : TakesValues fuel) (items : TakesItems fuel) :
    TakesItems (fuel + 1) := by
  intro w x xs r listed enough
  unfold readItems
  cases listed with
  | @last before w after _ front value back =>
    simp only [List.length_append] at enough
    have close : skipSpaces (after ++ ']' :: r) = ']' :: r := skip_to back (by decide) r
    have ends : EndsNumber (after ++ ']' :: r) := endsNumber_spaces back (endsNumber_cons (by decide) r)
    obtain ⟨v, first, tree⟩ := values before w x _ front value (by omega) ends
    simp only [List.append_assoc, first, close]
    exact ⟨_, rfl, trees?_cons.mpr ⟨x, [], tree, rfl, rfl⟩⟩
  | @more before w after rest _ y ys front value back others =>
    simp only [List.length_append, List.length_cons] at enough
    have comma : skipSpaces (after ++ ',' :: (rest ++ ']' :: r)) = _ := skip_to back (by decide) _
    have ends : EndsNumber (after ++ ',' :: (rest ++ ']' :: r)) :=
      endsNumber_spaces back (endsNumber_cons (by decide) _)
    obtain ⟨v, first, tree⟩ := values before w x _ front value (by omega) ends
    obtain ⟨vs, later, trees⟩ := items rest y ys r others (by omega)
    simp only [List.append_assoc, List.cons_append, first, comma, later]
    exact ⟨_, rfl, trees?_cons.mpr ⟨x, _, tree, trees, rfl⟩⟩

/-- The first member is read, and what stands behind it says whether it is the last. -/
theorem readMembers_member (values : TakesValues fuel) {start : Text} {m : Option Text × Tree}
    (lead : Spaces start) (member : SpellsMember Spells w m) (enough : 2 * w.length < fuel + 1)
    (ends : EndsNumber r) :
    ∃ k v, k.name = m.1 ∧ v.tree? = some m.2 ∧
      (∀ left, skipSpaces r = '\x7d' :: left →
        readMembers (fuel + 1) (start ++ (w ++ r)) = ([(k, v)], some left)) ∧
      ∀ left, skipSpaces r = ',' :: left →
        readMembers (fuel + 1) (start ++ (w ++ r)) =
          ((k, v) :: (readMembers fuel left).1, (readMembers fuel left).2) := by
  cases member with
  | @named name before after w key x quoted front back value =>
    simp only [List.length_append, List.length_cons] at enough
    obtain ⟨v, first, tree⟩ := values after w x r back value (by omega) ends
    have colon := skip_to front (c := ':') (by decide) (after ++ (w ++ r))
    have taken := scans_text.complete quoted trivial (r := before ++ ':' :: (after ++ (w ++ r)))
    have quote := skip_to lead (c := '"') (by decide) (name ++ (before ++ ':' :: (after ++ (w ++ r))))
    refine ⟨⟨key, (':' :: (after ++ (w ++ r))).length⟩, v, rfl, tree, ?_, ?_⟩
    · intro left close
      rw [readMembers]
      simp only [List.append_assoc, List.cons_append, quote, taken, colon, first, close]
    · intro left comma
      rw [readMembers]
      simp only [List.append_assoc, List.cons_append, quote, taken, colon, first, comma]

theorem takesMembers_succ (values : TakesValues fuel) (members : TakesMembers fuel) :
    TakesMembers (fuel + 1) := by
  intro w m ms r listed enough
  cases listed with
  | @last before w after _ front member back =>
    simp only [List.length_append] at enough
    have close := skip_to back (c := '\x7d') (by decide) r
    have ends : EndsNumber (after ++ '\x7d' :: r) :=
      endsNumber_spaces back (endsNumber_cons (by decide) r)
    obtain ⟨k, v, name, tree, last, -⟩ := readMembers_member values front member (by omega) ends
    simp only [List.append_assoc, last r close]
    exact ⟨_, rfl, memberTrees?_cons.mpr ⟨m.2, [], tree, rfl, by rw [name]⟩⟩
  | @more before w after rest _ m' ms' front member back others =>
    simp only [List.length_append, List.length_cons] at enough
    have comma := skip_to back (c := ',') (by decide) (rest ++ '\x7d' :: r)
    have ends : EndsNumber (after ++ ',' :: (rest ++ '\x7d' :: r)) :=
      endsNumber_spaces back (endsNumber_cons (by decide) _)
    obtain ⟨k, v, name, tree, -, more⟩ := readMembers_member values front member (by omega) ends
    obtain ⟨vs, later, trees⟩ := members rest m' ms' r others (by omega)
    simp only [List.append_assoc, List.cons_append, more _ comma, later]
    exact ⟨_, rfl, memberTrees?_cons.mpr ⟨m.2, _, tree, trees, by rw [name]⟩⟩

theorem readValue_skip (fuel : Nat) (t : Text) : readValue fuel (skipSpaces t) = readValue fuel t := by
  cases fuel with
  | zero => rfl
  | succ fuel => rw [readValue, readValue, skipSpaces_idem]

theorem readItems_skip (fuel : Nat) (t : Text) : readItems fuel (skipSpaces t) = readItems fuel t := by
  cases fuel with
  | zero => rfl
  | succ fuel => rw [readItems, readItems, readValue_skip]

theorem readMembers_skip (fuel : Nat) (t : Text) :
    readMembers fuel (skipSpaces t) = readMembers fuel t := by
  cases fuel with
  | zero => rfl
  | succ fuel => rw [readMembers, readMembers, skipSpaces_idem]

theorem Spells.head (spelled : Spells w x) :
    ∃ c rest, w = c :: rest ∧ isSpace c = false ∧ c ≠ ']' := by
  cases spelled with
  | scalar scalar =>
    obtain ⟨c, rest, same, written, -, -, close⟩ := scalar.head
    exact ⟨c, rest, same, written, close⟩
  | array items => exact ⟨_, _, rfl, by decide⟩
  | object members => exact ⟨_, _, rfl, by decide⟩

theorem Listed.head {α : Type} {spells : Text → α → Prop} {a : α} {as : List α}
    (listed : Listed spells w (a :: as)) :
    ∃ before u rest, Spaces before ∧ spells u a ∧ w = before ++ (u ++ rest) := by
  cases listed with
  | last front part back => exact ⟨_, _, _, front, part, rfl⟩
  | more front part back others => exact ⟨_, _, _, front, part, rfl⟩

theorem readValue_array {vs : List Value} {rest : Option Text}
    (some_ : ∀ left, skipSpaces t ≠ ']' :: left) (read : readItems fuel t = (vs, rest)) :
    readValue (fuel + 1) ('[' :: t) = (.array (t.length + 1) vs (rest.map List.length), rest) := by
  have open_ : skipSpaces ('[' :: t) = '[' :: t := rfl
  rw [readValue]
  simp only [open_, readItems_skip, read]

theorem readValue_object {vs : List (Key × Value)} {rest : Option Text}
    (some_ : ∀ left, skipSpaces t ≠ '\x7d' :: left) (read : readMembers fuel t = (vs, rest)) :
    readValue (fuel + 1) ('\x7b' :: t) = (.object (t.length + 1) vs (rest.map List.length), rest) := by
  have open_ : skipSpaces ('\x7b' :: t) = '\x7b' :: t := rfl
  rw [readValue]
  simp only [open_, readMembers_skip, read]

theorem takesScalar {s : Scalar} (spelled : SpellsScalar w s) (ends : EndsNumber r) (fuel : Nat) :
    ∃ v, readValue (fuel + 1) (w ++ r) = (v, some r) ∧ v.tree? = some (.scalar s) := by
  obtain ⟨c, rest, rfl, written, list, record, -⟩ := spelled.head
  have taken := scans_scalar.complete spelled ends
  have here : skipSpaces (c :: (rest ++ r)) = c :: (rest ++ r) := by
    rw [skipSpaces, List.dropWhile_cons_of_neg (by simp [written])]
  rw [List.cons_append] at taken ⊢
  rw [readValue, here]
  split
  · rename_i same
    exact absurd (List.cons.inj same).1 list
  · rename_i same
    exact absurd (List.cons.inj same).1 record
  · rw [taken]
    exact ⟨_, rfl, rfl⟩

theorem takesArray (items : TakesItems fuel) {xs : List Tree} (listed : Listed Spells w xs)
    (enough : 2 * w.length < fuel) (r : Text) :
    ∃ v, readValue (fuel + 1) ('[' :: (w ++ ']' :: r)) = (v, some r) ∧
      v.tree? = some (.array xs) := by
  cases xs with
  | nil =>
    cases listed with
    | nil spaces =>
      have open_ : skipSpaces ('[' :: (w ++ ']' :: r)) = '[' :: (w ++ ']' :: r) := rfl
      have close : skipSpaces (w ++ ']' :: r) = ']' :: r := skip_to spaces (by decide) r
      rw [readValue]
      simp only [open_, close]
      exact ⟨_, rfl, rfl⟩
  | cons x xs =>
    obtain ⟨vs, read, trees⟩ := items w x xs r listed enough
    refine ⟨_, readValue_array ?_ read, tree?_array_iff.mpr ⟨rfl, _, trees, rfl⟩⟩
    intro left close
    obtain ⟨before, u, rest, spaces, spelled, rfl⟩ := listed.head
    obtain ⟨c, u, rfl, written, other⟩ := spelled.head
    simp only [List.append_assoc, List.cons_append, skip_to spaces written] at close
    exact other (List.cons.inj close).1

theorem takesObject (members : TakesMembers fuel) {ms : Members}
    (listed : Listed (SpellsMember Spells) w ms) (enough : 2 * w.length < fuel) (r : Text) :
    ∃ v, readValue (fuel + 1) ('\x7b' :: (w ++ '\x7d' :: r)) = (v, some r) ∧
      v.tree? = some (.object ms) := by
  cases ms with
  | nil =>
    cases listed with
    | nil spaces =>
      have open_ : skipSpaces ('\x7b' :: (w ++ '\x7d' :: r)) = '\x7b' :: (w ++ '\x7d' :: r) := rfl
      have close : skipSpaces (w ++ '\x7d' :: r) = '\x7d' :: r := skip_to spaces (by decide) r
      rw [readValue]
      simp only [open_, close]
      exact ⟨_, rfl, rfl⟩
  | cons m ms =>
    obtain ⟨vs, read, trees⟩ := members w m ms r listed enough
    refine ⟨_, readValue_object ?_ read, tree?_object_iff.mpr ⟨rfl, _, trees, rfl⟩⟩
    intro left close
    obtain ⟨before, u, rest, spaces, ⟨quoted, front, back, value⟩, rfl⟩ := listed.head
    have written : isSpace '"' = false := by decide
    simp only [List.append_assoc, List.cons_append, skip_to spaces written] at close
    cases close

theorem takesValues_succ (items : TakesItems fuel) (members : TakesMembers fuel) :
    TakesValues (fuel + 1) := by
  intro before w x r front spelled enough ends
  rw [← readValue_skip, skipSpaces_append front, readValue_skip]
  cases spelled with
  | scalar scalar => exact takesScalar scalar ends fuel
  | array listed =>
    simp only [List.length_cons, List.length_append, List.length_nil] at enough
    simp only [List.append_assoc, List.cons_append, List.nil_append]
    exact takesArray items listed (by omega) r
  | object listed =>
    simp only [List.length_cons, List.length_append, List.length_nil] at enough
    simp only [List.append_assoc, List.cons_append, List.nil_append]
    exact takesObject members listed (by omega) r

theorem takes (fuel : Nat) : TakesValues fuel ∧ TakesItems fuel ∧ TakesMembers fuel := by
  induction fuel with
  | zero =>
    refine ⟨?_, ?_, ?_⟩
    · intro before w x r front spelled enough
      obtain ⟨c, rest, rfl, -⟩ := spelled.head
      exact absurd enough (by simp)
    · intro w x xs r listed enough
      exact absurd enough (Nat.not_lt_zero _)
    · intro w m ms r listed enough
      exact absurd enough (Nat.not_lt_zero _)
  | succ fuel ih =>
    obtain ⟨values, items, members⟩ := ih
    exact ⟨takesValues_succ items members, takesItems_succ values items,
      takesMembers_succ values members⟩

theorem spaces_iff : Spaces t ↔ skipSpaces t = [] := List.dropWhile_eq_nil_iff.symm

/-- A document holds what it spells, and nothing if it spells nothing. -/
theorem tree?_ofText_iff : (Document.ofText t).tree? = some x ↔ SpellsDocument t x := by
  unfold Document.ofText Document.tree?
  constructor
  · intro tree
    cases read : readValue (2 * t.length + 2) t with
    | mk v rest =>
      simp only [read] at tree
      split at tree
      · rename_i ended
        cases rest with
        | none => cases ended
        | some r =>
          obtain ⟨before, w, front, value, rfl⟩ := (sound _).1 _ _ _ _ read tree
          exact .framed front value (spaces_iff.mpr (List.isEmpty_iff.mp ended))
      · cases tree
  · rintro ⟨front, value, back⟩
    rename_i before w after
    have ends : EndsNumber after := by
      have ends := endsNumber_spaces back (r := []) nofun
      rwa [List.append_nil] at ends
    have enough : 2 * w.length ≤ 2 * (before ++ (w ++ after)).length + 2 := by
      simp only [List.length_append]
      omega
    obtain ⟨v, read, tree⟩ := (takes _).1 before w x after front value enough ends
    simp only [read]
    exact (if_pos (List.isEmpty_iff.mpr (spaces_iff.mp back))).trans tree

/-- No text spells two documents. -/
theorem SpellsDocument.unique {y : Tree} (first : SpellsDocument t x) (second : SpellsDocument t y) :
    x = y := by
  rw [← tree?_ofText_iff] at first second
  rw [first] at second
  exact Option.some.inj second

end FleetHealth.Json
