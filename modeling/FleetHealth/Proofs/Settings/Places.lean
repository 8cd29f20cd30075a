import FleetHealth.Proofs.Settings.Accepted

/- What a document says does not depend on the places in its text, nor on the headers, dots and braces
   that have made its tables. -/
namespace FleetHealth

namespace Toml

mutual

/-- What is left of a node when all places are forgotten. -/
def Node.bare : Node → Node
  | .scalar _ v => .scalar 0 v
  | .array _ items => .array 0 (bareItems items)
  | .table _ _ entries => .table none .header (bareEntries entries)
  | .tables items => .tables (bareItems items)

def bareItems : List Node → List Node
  | [] => []
  | n :: ns => n.bare :: bareItems ns

def bareEntries : List (Key × Node) → List (Key × Node)
  | [] => []
  | (k, n) :: es => (⟨k.name, 0⟩, n.bare) :: bareEntries es

end

theorem bareItems_eq_map (ns : List Node) : bareItems ns = ns.map Node.bare := by
  induction ns with
  | nil => rfl
  | cons n ns ih => rw [bareItems, ih, List.map_cons]

theorem find?_bareEntries (es : Entries) (name : Text) :
    Entries.find? (bareEntries es) name = (es.find? name).map Node.bare := by
  induction es with
  | nil => rfl
  | cons e es ih =>
    obtain ⟨k, n⟩ := e
    unfold Entries.find? at ih ⊢
    rw [bareEntries, List.find?_cons, List.find?_cons]
    cases k.name == name
    · exact ih
    · rfl

end Toml

open Toml (Node Entries)

section
variable {ε α β : Type}

theorem toOption_map (x : Except ε α) (f : α → β) :
    (x.map f).toOption = x.toOption.map f := by cases x <;> rfl

theorem toOption_bind (x : Except ε α) (f : α → Except ε β) :
    (x >>= f).toOption = x.toOption.bind fun a => (f a).toOption := by cases x <;> rfl

theorem toOption_mapM (f : α → Except ε β) (xs : List α) :
    (xs.mapM f).toOption = xs.mapM fun x => (f x).toOption := by
  induction xs with
  | nil => rfl
  | cons x xs ih =>
    simp only [List.mapM_cons, toOption_bind, ← ih]
    rfl

end

namespace Settings

/-- What is read from a node, if anything, is what is read when places are forgotten. -/
def Placeless {α : Type} (read : Node → Except Misfit α) : Prop :=
  ∀ n, (read n).toOption = (read n.bare).toOption

theorem placeless_readText : Placeless readText := by
  intro n
  cases n with
  | scalar start v => cases v <;> rfl
  | _ => rfl

theorem placeless_readBool : Placeless readBool := by
  intro n
  cases n with
  | scalar start v => cases v <;> rfl
  | _ => rfl

theorem placeless_readCount (kind : String) : Placeless (readCount kind) := by
  intro n
  cases n with
  | scalar start v =>
    cases v with
    | integer n => cases n <;> rfl
    | _ => rfl
  | _ => rfl

theorem itemsOf?_bare (n : Node) : itemsOf? n.bare = (itemsOf? n).map (List.map Node.bare) := by
  cases n with
  | array start items => simp [itemsOf?, Node.bare, Toml.bareItems_eq_map]
  | tables items => simp [itemsOf?, Node.bare, Toml.bareItems_eq_map]
  | _ => rfl

theorem placeless_readTexts : Placeless readTexts := by
  intro n
  unfold readTexts
  rw [itemsOf?_bare]
  cases itemsOf? n with
  | none => rfl
  | some items =>
    have same : (fun n : Node => (readText n).toOption) = fun n => (readText n.bare).toOption :=
      funext placeless_readText
    simp only [Option.map_some, toOption_mapM, List.mapM_map, same]
    rfl

def Field.Placeless (f : Field) : Prop := ∀ s, Settings.Placeless fun n => f.read n s

theorem Placeless.field {α : Type} {read : Node → Except Misfit α} (placeless : Placeless read)
    {name : String} {hasDefault : Bool} {unwritten : α} {put : α → Settings → Settings} :
    (Field.of name hasDefault unwritten read put).Placeless := by
  intro s n
  simp only [Field.of, toOption_map]
  rw [placeless n]

namespace Section
variable {sec : Section}

theorem readEntries_bare (placeless : ∀ f ∈ sec.fields, f.Placeless) (es : Entries)
    (s : Settings) :
    (sec.readEntries es s).toOption = (sec.readEntries (Toml.bareEntries es) s).toOption := by
  induction es generalizing s with
  | nil => rfl
  | cons e es ih =>
    obtain ⟨k, n⟩ := e
    rw [Toml.bareEntries, readEntries, readEntries]
    dsimp only
    cases known : sec.fields.find? fun f => f.name.toList == k.name with
    | none => exact ih s
    | some f =>
      have same := placeless f (List.mem_of_find?_eq_some known) s n
      dsimp only at same ⊢
      cases here : f.read n s <;> cases there : f.read n.bare s <;>
        simp only [here, there, Except.toOption, reduceCtorEq, Option.some.injEq] at same ⊢
      rw [← same]
      exact ih _

theorem readItems_bare {fields : List Field} (placeless : ∀ f ∈ fields, f.Placeless)
    (place placeToo : Option Toml.Left) (index : Nat) (ns : List Node) (s : Settings) :
    (sec.readItems place index fields ns s).toOption =
      (sec.readItems placeToo index fields (ns.map Node.bare) s).toOption := by
  induction fields generalizing ns index s with
  | nil => rfl
  | cons f fields ih =>
    obtain ⟨first, later⟩ := List.forall_mem_cons.mp placeless
    cases ns with
    | nil =>
      simp only [List.map_nil, readItems]
      split
      · exact ih later (index + 1) [] s
      · rfl
    | cons n ns =>
      have same := first s n
      dsimp only at same
      simp only [List.map_cons, readItems, toOption_bind, same]
      congr 1
      funext t
      exact ih later (index + 1) ns t

theorem read_placeless (placeless : ∀ f ∈ sec.fields, f.Placeless) (s : Settings) :
    Settings.Placeless fun n => sec.read n s := by
  intro n
  cases n with
  | scalar start v => cases v <;> rfl
  | table start origin es => exact readEntries_bare placeless es (sec.reset s)
  | array start items =>
    simp only [Node.bare, read, itemsOf?, Toml.bareItems_eq_map]
    exact readItems_bare placeless _ _ 0 items (sec.reset s)
  | tables items =>
    simp only [Node.bare, read, itemsOf?, Toml.bareItems_eq_map]
    exact readItems_bare placeless _ _ 0 items (sec.reset s)

end Section

theorem placeless_readSomeCount (kind : String) :
    Placeless fun n => (readCount kind n).map some := by
  intro n
  simp only [toOption_map]
  rw [placeless_readCount kind n]

theorem fields_placeless : ∀ p ∈ sections, ∀ f ∈ p.2.fields, f.Placeless := by
  simp only [sections, registrySection, detectorSection, backendSection, verifierSection,
    reportSection, loggingSection, List.forall_mem_cons, List.not_mem_nil, false_implies,
    implies_true, and_true]
  exact ⟨placeless_readTexts.field, ⟨placeless_readTexts.field, placeless_readBool.field⟩,
    ⟨placeless_readText.field, placeless_readText.field, (placeless_readCount _).field⟩,
    (placeless_readCount _).field, (placeless_readSomeCount _).field, placeless_readText.field⟩

theorem sections_placeless : ∀ f ∈ documentSection.fields, f.Placeless := by
  intro f field
  obtain ⟨⟨key, sec⟩, mem, rfl⟩ := List.mem_map.mp field
  exact Section.read_placeless (fields_placeless _ mem)

theorem decode_bare (n : Node) : (decode n).toOption = (decode n.bare).toOption := by
  have same := Section.read_placeless sections_placeless defaults n
  dsimp only at same
  unfold decode
  rw [toOption_bind, toOption_bind, same]
  congr 1
  funext s
  cases n with
  | table start origin es =>
    simp only [Node.bare, Toml.find?_bareEntries]
    cases Entries.find? es registryKey.toList <;> rfl
  | _ => rfl

/-- Documents that differ only in their places give the same settings. -/
theorem read_of_bare {document : Text} {m n : Node} {s : Settings}
    (parsed : Toml.parse document = .ok n) (same : m.bare = n.bare) (given : decode m = .ok s) :
    read document = .ok s := by
  refine read_ok_iff.mpr ⟨n, parsed, toOption_eq_some_iff.mp ?_⟩
  rw [decode_bare, ← same, ← decode_bare, toOption_eq_some_iff]
  exact given

end Settings

end FleetHealth
