import FleetHealth.Docker.Inspect
import FleetHealth.Proofs.Json.Integer
import FleetHealth.Proofs.Json.Tree
import FleetHealth.Proofs.Traversal

/- What the fields of a record must hold to be understood, and what they tell then. Each reader of a value
   is held to what it reads: it succeeds on a value that can be read to its end and tells what is asked
   for, and on no other value. -/
namespace FleetHealth.Docker

open Json (Tree Members Value Key Left)

/-- The values of the members with a key, in their order. -/
def valuesOf (key : Text) (ms : Members) : List Tree :=
  (ms.filter fun m => m.1 = some key).map Prod.snd

/-- Every key is a text. -/
def Named (ms : Members) : Prop := ∀ m ∈ ms, m.1 ≠ none

def TellsText (v : Tree) (t : Text) : Prop := v = .scalar (.text (some t))

def TellsFlag (v : Tree) (b : Bool) : Prop := v = .scalar (.boolean b)

/-- A whole number, written out, that fits 64 bits with a sign. -/
def TellsCode (v : Tree) (n : Int) : Prop :=
  ∃ x, v = .scalar (.number x) ∧ x.IsInteger n ∧ -(signedLimit : Int) ≤ n ∧ n < signedLimit

/-- A reader that succeeds on the values that tell something, and on no others. -/
def Reads {α : Type} (read : Value → Except InspectFault α) (tells : Tree → α → Prop) : Prop :=
  ∀ v a, read v = .ok a ↔ ∃ t, v.tree? = some t ∧ tells t a

theorem wrongType_ne_ok {α : Type} (v : Value) (wanted : Text) (a : α) :
    wrongType v wanted ≠ .ok a := by
  unfold wrongType
  cases foundIn? v <;> simp

/-- A value that is refused for its type must tell nothing. -/
theorem refused_iff {α : Type} {read : Value → Except InspectFault α} {tells : Tree → α → Prop}
    {v : Value} {a : α} (wanted : Text) (refused : read v = wrongType v wanted)
    (silent : ∀ t, v.tree? = some t → ¬ tells t a) :
    read v = .ok a ↔ ∃ t, v.tree? = some t ∧ tells t a := by
  rw [refused]
  constructor
  · intro run
    exact absurd run (wrongType_ne_ok v wanted a)
  · rintro ⟨t, tree, told⟩
    exact absurd told (silent t tree)

theorem reads_scalar {α : Type} {read : Value → Except InspectFault α} (scalar : α → Json.Scalar)
    (accepts : ∀ a stop, read (.scalar (scalar a) stop) = .ok a)
    (only : ∀ v a, read v = .ok a → ∃ stop, v = .scalar (scalar a) stop) :
    Reads read fun t a => t = .scalar (scalar a) := by
  intro v a
  constructor
  · intro run
    obtain ⟨stop, rfl⟩ := only v a run
    exact ⟨_, rfl, rfl⟩
  · rintro ⟨_, tree, rfl⟩
    obtain ⟨stop, rfl⟩ := Json.tree?_scalar_iff.mp tree
    exact accepts a stop

theorem reads_status : Reads readStatus TellsText := by
  apply reads_scalar fun t => .text (some t)
  · intro t stop
    rfl
  · intro v t run
    unfold readStatus at run
    split at run
    · cases run
      exact ⟨_, rfl⟩
    · exact absurd run (wrongType_ne_ok _ _ t)

theorem reads_flag : Reads readFlag TellsFlag := by
  apply reads_scalar .boolean
  · intro b stop
    rfl
  · intro v b run
    unfold readFlag at run
    split at run
    · cases run
      exact ⟨_, rfl⟩
    · exact absurd run (wrongType_ne_ok _ _ b)

theorem reads_code : Reads readCode TellsCode := by
  intro v n
  constructor
  · intro read
    unfold readCode at read
    dsimp only at read
    split at read
    · rename_i x stop
      split at read
      · rename_i m whole
        split at read
        · rename_i small
          cases read
          obtain ⟨integer, least, -⟩ := Json.read?_integer_iff.mp whole
          exact ⟨_, rfl, x, rfl, integer, least, small⟩
        · cases read
      · exact absurd read (wrongType_ne_ok _ _ n)
    · exact absurd read (wrongType_ne_ok _ _ n)
  · rintro ⟨_, tree, x, rfl, integer, least, small⟩
    obtain ⟨stop, rfl⟩ := Json.tree?_scalar_iff.mp tree
    have limits : (signedLimit : Int) < wordLimit := by decide
    have whole := Json.read?_integer_iff.mpr ⟨integer, least, by omega⟩
    unfold readCode
    dsimp only
    rw [whole]
    exact if_pos small

section
variable {α β : Type} {read : Value → Except InspectFault α} {tells : Tree → α → Prop}
  {vs : List Tree} {earlier later : Option α} {v : Tree} {a : α} {key name : Text} {ms : Members}

theorem bind_reads_iff (reads : Reads read tells) {w : Value} {f : α → Except InspectFault β}
    {b : β} : (read w >>= f) = .ok b ↔ ∃ t a, w.tree? = some t ∧ tells t a ∧ f a = .ok b := by
  rw [bind_ok_iff]
  simp only [reads w]
  constructor
  · rintro ⟨a, ⟨t, tree, told⟩, run⟩
    exact ⟨t, a, tree, told, run⟩
  · rintro ⟨t, a, tree, told, run⟩
    exact ⟨a, ⟨t, tree, told⟩, run⟩

theorem bind_once_iff (reads : Reads read tells) {k : Key} {w : Value}
    {f : α → Except InspectFault β} {b : β} :
    (once k key earlier (read w) >>= f) = .ok b ↔
      earlier = none ∧ ∃ t a, w.tree? = some t ∧ tells t a ∧ f a = .ok b := by
  rw [← bind_reads_iff reads]
  unfold once
  cases earlier <;> simp [bind, Except.bind]

/-- The values of a field fill it: it is filled once, and none of them is passed over. -/
def Fills (tells : Tree → α → Prop) (vs : List Tree) (earlier later : Option α) : Prop :=
  ∃ as, List.Forall₂ tells vs as ∧ later.toList = earlier.toList ++ as

theorem fills_nil : Fills tells [] earlier later ↔ later = earlier := by
  constructor
  · rintro ⟨as, told, same⟩
    cases told
    rw [List.append_nil] at same
    cases earlier <;> cases later <;> simp_all
  · rintro rfl
    exact ⟨[], .nil, (List.append_nil _).symm⟩

theorem fills_cons :
    Fills tells (v :: vs) earlier later ↔
      earlier = none ∧ ∃ a, tells v a ∧ Fills tells vs (some a) later := by
  constructor
  · rintro ⟨as, told, same⟩
    cases told with
    | cons first rest =>
      cases earlier with
      | none => exact ⟨rfl, _, first, _, rest, same⟩
      | some e => cases later <;> simp at same
  · rintro ⟨rfl, a, first, as, rest, same⟩
    exact ⟨a :: as, .cons first rest, same⟩

theorem fills_some_iff : Fills tells vs none (some a) ↔ ∃ v, vs = [v] ∧ tells v a := by
  cases vs with
  | nil => simp [fills_nil]
  | cons v vs =>
    rw [fills_cons]
    constructor
    · rintro ⟨-, b, first, rest⟩
      cases vs with
      | nil =>
        obtain rfl := Option.some.inj (fills_nil.mp rest)
        exact ⟨v, rfl, first⟩
      | cons w vs => exact absurd (fills_cons.mp rest).1 nofun
    · rintro ⟨_, same, first⟩
      cases same
      exact ⟨rfl, a, first, fills_nil.mpr rfl⟩

theorem fills_none_iff : Fills tells vs none none ↔ vs = [] := by
  cases vs with
  | nil => simp [fills_nil]
  | cons v vs =>
    rw [fills_cons]
    constructor
    · rintro ⟨-, b, -, as, -, same⟩
      cases same
    · nofun

theorem valuesOf_here : valuesOf key ((some key, v) :: ms) = v :: valuesOf key ms := by
  simp [valuesOf]

theorem valuesOf_elsewhere (other : name ≠ key) :
    valuesOf key ((some name, v) :: ms) = valuesOf key ms := by
  simp [valuesOf, other]

theorem named_cons {m : Option Text × Tree} : Named (m :: ms) ↔ m.1 ≠ none ∧ Named ms :=
  List.forall_mem_cons

end

theorem passOver_iff {β : Type} {v : Value} {f : Unit → Except InspectFault β} {b : β} :
    (passOver v >>= f) = .ok b ↔ (∃ t, v.tree? = some t) ∧ f () = .ok b := by
  have whole : v.isWhole = true ↔ ∃ t, v.tree? = some t := by
    rw [Json.isWhole_iff, Option.isSome_iff_exists]
  unfold passOver
  rw [← whole]
  split <;> simp [*, bind, Except.bind]

section
variable {k : Key} {w : Value} {rest : List (Key × Value)}

/-- What is said of the members is said of the first one and of the others. -/
theorem exists_members_cons {P : Members → Prop} :
    (∃ ms, Value.tree?.memberTrees? ((k, w) :: rest) = some ms ∧ P ms) ↔
      ∃ t, w.tree? = some t ∧ ∃ ms, Value.tree?.memberTrees? rest = some ms ∧
        P ((k.name, t) :: ms) := by
  constructor
  · rintro ⟨_, whole, holds⟩
    obtain ⟨t, ms, tree, trees, rfl⟩ := Json.memberTrees?_cons.mp whole
    exact ⟨t, tree, ms, trees, holds⟩
  · rintro ⟨t, tree, ms, trees, holds⟩
    exact ⟨_, Json.memberTrees?_cons.mpr ⟨t, ms, tree, trees, rfl⟩, holds⟩

/-- Reading a member that counts, and then the others. -/
theorem once_member_iff {α β : Type} {read : Value → Except InspectFault α}
    {tells : Tree → α → Prop} (reads : Reads read tells) {key : Text} {earlier : Option α}
    {run : α → Except InspectFault β} {b : β} {P : α → Members → Prop}
    (later : ∀ a, run a = .ok b ↔ ∃ ms, Value.tree?.memberTrees? rest = some ms ∧ P a ms) :
    (once k key earlier (read w) >>= run) = .ok b ↔
      ∃ t, w.tree? = some t ∧ ∃ ms, Value.tree?.memberTrees? rest = some ms ∧
        earlier = none ∧ ∃ a, tells t a ∧ P a ms := by
  rw [bind_once_iff reads]
  constructor
  · rintro ⟨fresh, t, a, tree, told, done⟩
    obtain ⟨ms, trees, holds⟩ := (later a).mp done
    exact ⟨t, tree, ms, trees, fresh, a, told, holds⟩
  · rintro ⟨t, tree, ms, trees, fresh, a, told, holds⟩
    exact ⟨fresh, t, a, tree, told, (later a).mpr ⟨ms, trees, holds⟩⟩

/-- Passing over a member that means nothing, and reading the others. -/
theorem unknown_member_iff {β : Type} {run : Unit → Except InspectFault β} {b : β}
    {P : Members → Prop}
    (later : run () = .ok b ↔ ∃ ms, Value.tree?.memberTrees? rest = some ms ∧ P ms) :
    (passOver w >>= run) = .ok b ↔
      ∃ t, w.tree? = some t ∧ ∃ ms, Value.tree?.memberTrees? rest = some ms ∧ P ms := by
  rw [passOver_iff, later]
  constructor
  · rintro ⟨⟨t, tree⟩, rest⟩
    exact ⟨t, tree, rest⟩
  · rintro ⟨t, tree, rest⟩
    exact ⟨⟨t, tree⟩, rest⟩

end

theorem closed_iff {α : Type} {stop : Option Left} {left : List Value}
    {f : Left → Except InspectFault α} {a : α} :
    closed stop left f = .ok a ↔ left = [] ∧ ∃ place, stop = some place ∧ f place = .ok a := by
  unfold closed
  cases left with
  | nil => cases stop <;> simp
  | cons v left => simp

/-- A list is read when each of its items is. -/
theorem mapM_reads_iff {α : Type} {read : Value → Except InspectFault α} {tells : Tree → α → Prop}
    (reads : Reads read tells) {items : List Value} {as : List α} :
    items.mapM read = .ok as ↔
      ∃ trees, Value.tree?.trees? items = some trees ∧ List.Forall₂ tells trees as := by
  rw [mapM_ok_iff]
  simp only [Json.trees?_iff]
  constructor
  · intro run
    induction run with
    | nil => exact ⟨[], .nil, .nil⟩
    | cons first rest ih =>
      obtain ⟨t, tree, told⟩ := (reads _ _).mp first
      obtain ⟨trees, shape, tells⟩ := ih
      exact ⟨t :: trees, .cons tree shape, .cons told tells⟩
  · rintro ⟨trees, shape, tells⟩
    induction shape generalizing as with
    | nil =>
      cases tells
      exact .nil
    | cons tree shape ih =>
      cases tells with
      | cons told tells => exact .cons ((reads _ _).mpr ⟨_, tree, told⟩) (ih tells)

end FleetHealth.Docker
