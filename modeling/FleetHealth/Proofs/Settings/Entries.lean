import FleetHealth.Settings.Decode

/- How a section takes over what is written in it: entry by entry, each at its own place in the
   settings. -/
namespace FleetHealth.Settings

open Toml (Node Entries Key)

/-- What a field makes of settings, whether it is written or not. -/
inductive Field.Writes (f : Field) : (Settings → Settings) → Prop
  | unset : f.Writes f.unset
  | read {n : Node} {u : Settings → Settings} (given : ∀ s, f.read n s = .ok (u s)) : f.Writes u

/-- What is read does not depend on the settings it is put into. -/
def Field.Uniform (f : Field) : Prop :=
  ∀ n s t, f.read n s = .ok t → ∃ u : Settings → Settings, ∀ s, f.read n s = .ok (u s)

/-- It makes no difference whether `u` comes before the field or after it. -/
structure Field.Leaves (f : Field) (u : Settings → Settings) : Prop where
  read : ∀ n s, f.read n (u s) = (f.read n s).map u
  unset : ∀ s, f.unset (u s) = u (f.unset s)

def Field.Apart (f g : Field) : Prop := ∀ u, f.Writes u → g.Leaves u

namespace Field
variable {f : Field} {u v : Settings → Settings} {s t : Settings}

theorem leaves_id : f.Leaves id where
  read n s := by
    change f.read n s = (f.read n s).map id
    cases f.read n s <;> rfl
  unset _ := rfl

theorem Leaves.comp (second : f.Leaves v) (first : f.Leaves u) : f.Leaves (v ∘ u) where
  read n s := by
    rw [Function.comp_apply, second.read, first.read]
    cases f.read n s <;> rfl
  unset s := by rw [Function.comp_apply, second.unset, first.unset, Function.comp_apply]

theorem Leaves.keeps (leaves : f.Leaves u) (still : u s = s) {n : Node}
    (given : f.read n s = .ok t) : u t = t := by
  have same := leaves.read n s
  rw [still, given] at same
  exact (Except.ok.inj same).symm

/-- Fields that are apart may be read in either order. -/
theorem Apart.swap {g : Field} (apart : f.Apart g) (uniform : f.Uniform) {n n' : Node}
    {s v w : Settings} (first : f.read n s = .ok v) (second : g.read n' v = .ok w) :
    ∃ x, g.read n' s = .ok x ∧ f.read n x = .ok w := by
  obtain ⟨u, puts⟩ := uniform n s v first
  have leaves := apart u (.read puts)
  obtain rfl : u s = v := Except.ok.inj ((puts s).symm.trans first)
  rw [leaves.read] at second
  cases alone : g.read n' s with
  | error m => simp [alone, Except.map] at second
  | ok x =>
    rw [alone] at second
    obtain rfl : u x = w := Except.ok.inj second
    exact ⟨x, rfl, puts x⟩

section
variable {α β : Type} {name name' : String} {hasDefault hasDefault' : Bool} {unwritten : α}
  {unwritten' : β} {read : Node → Except Misfit α} {read' : Node → Except Misfit β}
  {put : α → Settings → Settings} {put' : β → Settings → Settings}

theorem of_name : (Field.of name hasDefault unwritten read put).name = name := rfl

theorem uniform_of : (Field.of name hasDefault unwritten read put).Uniform := by
  intro n s t given
  simp only [Field.of] at given ⊢
  cases value : read n with
  | error m => simp [value, Except.map] at given
  | ok v => exact ⟨put v, fun _ => rfl⟩

theorem put_of_writes (writes : (Field.of name hasDefault unwritten read put).Writes u) :
    ∃ v, u = put v := by
  rcases writes with _ | given
  · exact ⟨unwritten, rfl⟩
  · rename_i n
    simp only [Field.of] at given
    cases value : read n with
    | error m => exact absurd (given defaults) (by simp [value, Except.map])
    | ok v =>
      refine ⟨v, funext fun s => ?_⟩
      have here := given s
      rw [value] at here
      exact (Except.ok.inj here).symm

theorem apart_of (commute : ∀ v w s, put' w (put v s) = put v (put' w s)) :
    (Field.of name hasDefault unwritten read put).Apart
      (Field.of name' hasDefault' unwritten' read' put') := by
  intro u writes
  obtain ⟨v, rfl⟩ := put_of_writes writes
  refine ⟨fun n s => ?_, fun s => commute v unwritten' s⟩
  simp only [Field.of]
  cases read' n with
  | error m => rfl
  | ok w => simp only [Except.map, commute]

end

end Field

namespace Section
variable {sec : Section} {es : Entries} {s t : Settings}

/-- The field that a key of the section means. -/
def fieldOf? (sec : Section) (k : Key) : Option Field :=
  sec.fields.find? fun f => f.name.toList == k.name

theorem fieldOf?_eq_some {k : Key} {f : Field} (known : sec.fieldOf? k = some f) :
    f ∈ sec.fields ∧ f.name.toList = k.name :=
  ⟨List.mem_of_find?_eq_some known, by simpa using List.find?_some known⟩

theorem readEntries_unknown {k : Key} (unknown : sec.fieldOf? k = none) (n : Node)
    (es : Entries) (s : Settings) :
    sec.readEntries ((k, n) :: es) s = sec.readEntries es s := by
  rw [fieldOf?] at unknown
  rw [readEntries, unknown]

theorem readEntries_known {k : Key} {f : Field} (known : sec.fieldOf? k = some f) {n : Node} :
    sec.readEntries ((k, n) :: es) s = .ok t ↔
      ∃ u, f.read n s = .ok u ∧ sec.readEntries es u = .ok t := by
  rw [fieldOf?] at known
  rw [readEntries, known]
  dsimp only
  cases f.read n s <;> simp

theorem readEntries_append {before : Entries} :
    sec.readEntries (before ++ es) s = .ok t ↔
      ∃ u, sec.readEntries before s = .ok u ∧ sec.readEntries es u = .ok t := by
  induction before generalizing s with
  | nil => simp [readEntries]
  | cons e before ih =>
    obtain ⟨k, n⟩ := e
    rw [List.cons_append]
    cases known : sec.fieldOf? k with
    | none => rw [readEntries_unknown known, readEntries_unknown known, ih]
    | some f =>
      simp only [readEntries_known known, ih]
      constructor
      · rintro ⟨v, first, u, middle, last⟩
        exact ⟨u, ⟨v, first, middle⟩, last⟩
      · rintro ⟨u, ⟨v, first, middle⟩, last⟩
        exact ⟨v, first, u, middle, last⟩

theorem readItems_cons {place : Option Toml.Left} {index : Nat} {f : Field} {fields : List Field}
    {n : Node} {ns : List Node} :
    sec.readItems place index (f :: fields) (n :: ns) s = .ok t ↔
      ∃ u, f.read n s = .ok u ∧ sec.readItems place (index + 1) fields ns u = .ok t := by
  rw [readItems]
  cases f.read n s <;> simp [bind, Except.bind]

/-- Where items are missing at the end, nothing is set. -/
theorem readItems_nil {place : Option Toml.Left} {index : Nat} {fields : List Field}
    (given : sec.readItems place index fields [] s = .ok t) : t = s := by
  induction fields generalizing index with
  | nil =>
    simp only [readItems, Except.ok.injEq] at given
    exact given.symm
  | cons f fields ih =>
    rw [readItems] at given
    split at given
    · exact ih given
    · exact absurd given nofun

section
variable {u : Settings → Settings}

theorem reset_leaves (leaves : ∀ f ∈ sec.fields, f.Leaves u) (s : Settings) :
    sec.reset (u s) = u (sec.reset s) := by
  unfold reset
  generalize sec.fields = fields at leaves
  induction fields generalizing s with
  | nil => rfl
  | cons f fields ih =>
    obtain ⟨first, later⟩ := List.forall_mem_cons.mp leaves
    rw [List.foldl_cons, List.foldl_cons, first.unset, ih _ later]

theorem readEntries_leaves (leaves : ∀ f ∈ sec.fields, f.Leaves u) (es : Entries) (s : Settings) :
    sec.readEntries es (u s) = (sec.readEntries es s).map u := by
  induction es generalizing s with
  | nil => rfl
  | cons e es ih =>
    obtain ⟨k, n⟩ := e
    rw [readEntries, readEntries]
    cases known : sec.fields.find? fun f => f.name.toList == k.name with
    | none => exact ih s
    | some f =>
      dsimp only
      rw [(leaves f (List.mem_of_find?_eq_some known)).read]
      cases f.read n s with
      | error m => rfl
      | ok v => exact ih v

theorem readItems_leaves {fields : List Field} (leaves : ∀ f ∈ fields, f.Leaves u)
    (place : Option Toml.Left) (index : Nat) (ns : List Node) (s : Settings) :
    sec.readItems place index fields ns (u s) = (sec.readItems place index fields ns s).map u := by
  induction fields generalizing index ns s with
  | nil => simp only [readItems, Except.map]
  | cons f fields ih =>
    obtain ⟨first, later⟩ := List.forall_mem_cons.mp leaves
    cases ns with
    | nil =>
      rw [readItems, readItems]
      split
      · exact ih later _ _ _
      · rfl
    | cons n ns =>
      rw [readItems, readItems, first.read]
      cases f.read n s with
      | error m => rfl
      | ok v => exact ih later _ _ _

theorem read_leaves (leaves : ∀ f ∈ sec.fields, f.Leaves u) (n : Node) (s : Settings) :
    sec.read n (u s) = (sec.read n s).map u := by
  unfold read
  rw [reset_leaves leaves]
  split
  · exact readEntries_leaves leaves _ _
  · rfl
  · split
    · exact readItems_leaves leaves _ _ _ _
    · rfl

end

section
variable {A : (Settings → Settings) → Prop} (whole : A id)
  (comp : ∀ u v, A u → A v → A (v ∘ u))

include whole comp

theorem reset_composed (unset : ∀ f ∈ sec.fields, A f.unset) : A sec.reset := by
  -- for the induction the fold starts behind any change that has the property
  suffices composed : ∀ u, A u → A fun s => sec.fields.foldl (fun s f => f.unset s) (u s) from
    composed id whole
  intro u first
  generalize sec.fields = fields at unset
  induction fields generalizing u with
  | nil => exact first
  | cons f fields ih =>
    obtain ⟨next, later⟩ := List.forall_mem_cons.mp unset
    exact ih (f.unset ∘ u) (comp u f.unset first next) later

variable (read : ∀ f ∈ sec.fields, ∀ n s t, f.read n s = .ok t →
  ∃ u, A u ∧ ∀ s, f.read n s = .ok (u s))

include read

theorem readEntries_composed (given : sec.readEntries es s = .ok t) :
    ∃ u, A u ∧ ∀ s, sec.readEntries es s = .ok (u s) := by
  induction es generalizing s with
  | nil => exact ⟨id, whole, fun _ => rfl⟩
  | cons e es ih =>
    obtain ⟨k, n⟩ := e
    cases known : sec.fieldOf? k with
    | none =>
      simp only [readEntries_unknown known] at given ⊢
      exact ih given
    | some f =>
      obtain ⟨x, first, rest⟩ := (readEntries_known known).mp given
      obtain ⟨u, here, puts⟩ := read f (fieldOf?_eq_some known).1 n s x first
      obtain ⟨v, later, rest⟩ := ih rest
      exact ⟨v ∘ u, comp u v here later,
        fun s => (readEntries_known known).mpr ⟨u s, puts s, rest (u s)⟩⟩

omit read in
theorem readItems_composed {fields : List Field} {place : Option Toml.Left} {index : Nat}
    {ns : List Node}
    (read : ∀ f ∈ fields, ∀ n s t, f.read n s = .ok t → ∃ u, A u ∧ ∀ s, f.read n s = .ok (u s))
    (given : sec.readItems place index fields ns s = .ok t) :
    ∃ u, A u ∧ ∀ s, sec.readItems place index fields ns s = .ok (u s) := by
  induction fields generalizing index ns s with
  | nil => exact ⟨id, whole, fun _ => by rw [readItems, id]⟩
  | cons f fields ih =>
    obtain ⟨first, later⟩ := List.forall_mem_cons.mp read
    cases ns with
    | nil =>
      simp only [readItems] at given ⊢
      split at given
      · rename_i default
        simp only [default, if_true]
        exact ih later given
      · exact absurd given nofun
    | cons n ns =>
      obtain ⟨x, head, rest⟩ := readItems_cons.mp given
      obtain ⟨u, here, puts⟩ := first n s x head
      obtain ⟨v, there, rest⟩ := ih later rest
      exact ⟨v ∘ u, comp u v here there,
        fun s => readItems_cons.mpr ⟨u s, puts s, rest (u s)⟩⟩

/-- What a section makes of settings is made by its fields, one after the other. -/
theorem read_composed (unset : ∀ f ∈ sec.fields, A f.unset) {n : Node}
    (given : sec.read n s = .ok t) : ∃ u, A u ∧ ∀ s, sec.read n s = .ok (u s) := by
  have fresh := reset_composed whole comp unset
  have behind {r : Settings → Except Misfit Settings} (written : ∃ u, A u ∧ ∀ s, r s = .ok (u s)) :
      ∃ u, A u ∧ ∀ s, r (sec.reset s) = .ok (u s) := by
    obtain ⟨u, later, puts⟩ := written
    exact ⟨u ∘ sec.reset, comp _ u fresh later, fun s => puts (sec.reset s)⟩
  cases n with
  | table start origin es => exact behind (readEntries_composed whole comp read given)
  | scalar start v =>
    cases v with
    | date => exact ⟨sec.reset, fresh, fun _ => rfl⟩
    | _ => exact absurd given nofun
  | array start items => exact behind (readItems_composed whole comp read given)
  | tables items => exact behind (readItems_composed whole comp read given)

end

variable {P : Settings → Prop}

/-- Entries that change nothing may be left out, as long as the others keep what they rely on. -/
theorem readEntries_filter (gone : Key × Node → Bool)
    (idle : ∀ e ∈ es, gone e = true → ∀ f ∈ sec.fields, f.name.toList = e.1.name →
      ∀ s t, P s → f.read e.2 s = .ok t → t = s)
    (kept : ∀ e ∈ es, gone e = false → ∀ f ∈ sec.fields, f.name.toList = e.1.name →
      ∀ s t, P s → f.read e.2 s = .ok t → P t)
    (start : P s) (given : sec.readEntries es s = .ok t) :
    sec.readEntries (es.filter fun e => !gone e) s = .ok t := by
  induction es generalizing s with
  | nil => exact given
  | cons e es ih =>
    obtain ⟨k, n⟩ := e
    obtain ⟨idleHere, idle⟩ := List.forall_mem_cons.mp idle
    obtain ⟨keptHere, kept⟩ := List.forall_mem_cons.mp kept
    cases known : sec.fieldOf? k with
    | none =>
      rw [readEntries_unknown known] at given
      have rest := ih idle kept start given
      by_cases out : gone (k, n) = true
      · rwa [List.filter_cons_of_neg (by simp [out])]
      · rwa [List.filter_cons_of_pos (by simp [out]), readEntries_unknown known]
    | some f =>
      obtain ⟨field, named⟩ := fieldOf?_eq_some known
      obtain ⟨v, first, rest⟩ := (readEntries_known known).mp given
      by_cases out : gone (k, n) = true
      · rw [idleHere out f field named s v start first] at rest
        rw [List.filter_cons_of_neg (by simp [out])]
        exact ih idle kept start rest
      · have next := keptHere (by simpa using out) f field named s v start first
        rw [List.filter_cons_of_pos (by simp [out])]
        exact (readEntries_known known).mpr ⟨v, first, ih idle kept next rest⟩

theorem readEntries_idle
    (idle : ∀ e ∈ es, ∀ f ∈ sec.fields, f.name.toList = e.1.name →
      ∀ t, f.read e.2 s = .ok t → t = s)
    (given : sec.readEntries es s = .ok t) : t = s := by
  have none := readEntries_filter (fun _ => true) (P := fun u => u = s)
    (fun e mem _ f field named u v start first =>
      start ▸ idle e mem f field named v (start ▸ first)) (by simp) rfl given
  rw [List.filter_eq_nil_iff.mpr (by simp)] at none
  exact (Except.ok.inj none).symm

theorem readEntries_map {g : Key × Node → Node}
    (same : ∀ e ∈ es, ∀ f ∈ sec.fields, f.name.toList = e.1.name → ∀ s t,
      f.read e.2 s = .ok t → f.read (g e) s = .ok t)
    (given : sec.readEntries es s = .ok t) :
    sec.readEntries (es.map fun e => (e.1, g e)) s = .ok t := by
  induction es generalizing s with
  | nil => exact given
  | cons e es ih =>
    obtain ⟨k, n⟩ := e
    obtain ⟨here, same⟩ := List.forall_mem_cons.mp same
    rw [List.map_cons]
    cases known : sec.fieldOf? k with
    | none =>
      rw [readEntries_unknown known] at given ⊢
      exact ih same given
    | some f =>
      obtain ⟨field, named⟩ := fieldOf?_eq_some known
      obtain ⟨v, first, given⟩ := (readEntries_known known).mp given
      exact (readEntries_known known).mpr ⟨v, here f field named s v first, ih same given⟩

/-- Entries of fields that have nothing to do with each other may change places. -/
theorem readEntries_swap
    (apart : ∀ f ∈ sec.fields, ∀ g ∈ sec.fields, f.name ≠ g.name → f.Apart g)
    (uniform : ∀ f ∈ sec.fields, f.Uniform) {k k' : Key} (other : k.name ≠ k'.name) {n n' : Node}
    (given : sec.readEntries ((k, n) :: (k', n') :: es) s = .ok t) :
    sec.readEntries ((k', n') :: (k, n) :: es) s = .ok t := by
  cases known : sec.fieldOf? k with
  | none =>
    rw [readEntries_unknown known] at given
    cases known' : sec.fieldOf? k' with
    | none =>
      rw [readEntries_unknown known'] at given ⊢
      rwa [readEntries_unknown known]
    | some g =>
      obtain ⟨v, second, rest⟩ := (readEntries_known known').mp given
      refine (readEntries_known known').mpr ⟨v, second, ?_⟩
      rwa [readEntries_unknown known]
  | some f =>
    obtain ⟨v, first, given⟩ := (readEntries_known known).mp given
    cases known' : sec.fieldOf? k' with
    | none =>
      rw [readEntries_unknown known'] at given ⊢
      exact (readEntries_known known).mpr ⟨v, first, given⟩
    | some g =>
      obtain ⟨w, second, rest⟩ := (readEntries_known known').mp given
      obtain ⟨field, named⟩ := fieldOf?_eq_some known
      obtain ⟨field', named'⟩ := fieldOf?_eq_some known'
      have names : f.name ≠ g.name := by
        intro same
        exact other (by rw [← named, ← named', same])
      obtain ⟨x, alone, behind⟩ :=
        (apart f field g field' names).swap (uniform f field) first second
      exact (readEntries_known known').mpr
        ⟨x, alone, (readEntries_known known).mpr ⟨w, behind, rest⟩⟩

end Section

end FleetHealth.Settings
