import FleetHealth.Json.Document
import Mathlib.Data.List.Forall2

/- What a document holds, without the places in its text: members in their order, repeated keys among
   them, and numbers as they are written. A document that breaks off holds nothing. -/
namespace FleetHealth.Json

/-- The key of a member is missing when its escapes name no character. -/
inductive Tree where
  | scalar (s : Scalar)
  | array (items : List Tree)
  | object (members : List (Option Text × Tree))

abbrev Members := List (Option Text × Tree)

def Value.tree? : Value → Option Tree
  | .scalar s _ => some (.scalar s)
  | .array _ items stop => if stop.isSome then (trees? items).map .array else none
  | .object _ members stop => if stop.isSome then (memberTrees? members).map .object else none
  | .broken => none
where
  trees? : List Value → Option (List Tree)
    | [] => some []
    | v :: rest => v.tree?.bind fun t => (trees? rest).map (t :: ·)
  memberTrees? : List (Key × Value) → Option Members
    | [] => some []
    | (k, v) :: rest => v.tree?.bind fun t => (memberTrees? rest).map ((k.name, t) :: ·)

open Value (tree?)

variable {v : Value} {s : Scalar} {start : Left} {stop : Option Left} {items : List Value}
  {trees : List Tree} {members : List (Key × Value)} {ms : Members}

theorem tree?_scalar_iff : v.tree? = some (.scalar s) ↔ ∃ stop, v = .scalar s stop := by
  cases v with
  | scalar u stop =>
    rw [Value.tree?, Option.some.injEq, Tree.scalar.injEq]
    constructor
    · rintro rfl
      exact ⟨stop, rfl⟩
    · rintro ⟨_, same⟩
      cases same
      rfl
  | array start items stop =>
    rw [Value.tree?]
    split <;> simp
  | object start members stop =>
    rw [Value.tree?]
    split <;> simp
  | broken => simp [Value.tree?]

theorem trees?_iff :
    Value.tree?.trees? items = some trees ↔ List.Forall₂ (fun v t => v.tree? = some t) items trees := by
  induction items generalizing trees with
  | nil => cases trees <;> simp [Value.tree?.trees?]
  | cons v rest ih =>
    rw [Value.tree?.trees?]
    cases trees with
    | nil => cases v.tree? <;> cases Value.tree?.trees? rest <;> simp
    | cons t trees => simp [← ih, Option.bind_eq_some_iff, and_left_comm]

theorem trees?_cons :
    Value.tree?.trees? (v :: items) = some trees ↔ ∃ t rest, v.tree? = some t ∧
      Value.tree?.trees? items = some rest ∧ trees = t :: rest := by
  rw [Value.tree?.trees?]
  simp only [Option.bind_eq_some_iff, Option.map_eq_some_iff, exists_and_left, eq_comm (a := trees)]

theorem memberTrees?_cons {m : Key × Value} :
    Value.tree?.memberTrees? (m :: members) = some ms ↔ ∃ t rest, m.2.tree? = some t ∧
      Value.tree?.memberTrees? members = some rest ∧ ms = (m.1.name, t) :: rest := by
  obtain ⟨k, v⟩ := m
  rw [Value.tree?.memberTrees?]
  simp only [Option.bind_eq_some_iff, Option.map_eq_some_iff, exists_and_left, eq_comm (a := ms)]

theorem tree?_array_iff {t : Tree} :
    (Value.array start items stop).tree? = some t ↔
      stop.isSome = true ∧ ∃ trees, Value.tree?.trees? items = some trees ∧ t = .array trees := by
  rw [Value.tree?]
  split <;> simp [*, Option.map_eq_some_iff, eq_comm (a := t)]

theorem tree?_object_iff {t : Tree} :
    (Value.object start members stop).tree? = some t ↔
      stop.isSome = true ∧ ∃ ms, Value.tree?.memberTrees? members = some ms ∧ t = .object ms := by
  rw [Value.tree?]
  split <;> simp [*, Option.map_eq_some_iff, eq_comm (a := t)]

mutual

theorem isWhole_iff (v : Value) : v.isWhole = true ↔ v.tree?.isSome = true :=
  match v with
  | .scalar s stop => by simp [Value.isWhole, Value.tree?]
  | .array start items stop => by
    rw [Value.isWhole, Value.tree?, Bool.and_eq_true, allWhole_iff items]
    split <;> simp_all
  | .object start members stop => by
    rw [Value.isWhole, Value.tree?, Bool.and_eq_true, membersWhole_iff members]
    split <;> simp_all
  | .broken => by simp [Value.isWhole, Value.tree?]

theorem allWhole_iff (items : List Value) :
    Value.isWhole.allWhole items = true ↔ (Value.tree?.trees? items).isSome = true :=
  match items with
  | [] => by simp [Value.isWhole.allWhole, Value.tree?.trees?]
  | v :: rest => by
    rw [Value.isWhole.allWhole, Value.tree?.trees?, Bool.and_eq_true, isWhole_iff v,
      allWhole_iff rest]
    cases v.tree? <;> simp

theorem membersWhole_iff (members : List (Key × Value)) :
    Value.isWhole.membersWhole members = true ↔ (Value.tree?.memberTrees? members).isSome = true :=
  match members with
  | [] => by simp [Value.isWhole.membersWhole, Value.tree?.memberTrees?]
  | (k, v) :: rest => by
    rw [Value.isWhole.membersWhole, Value.tree?.memberTrees?, Bool.and_eq_true, isWhole_iff v,
      membersWhole_iff rest]
    cases v.tree? <;> simp

end

def Document.tree? (d : Document) : Option Tree := if d.ended then d.value.tree? else none

end FleetHealth.Json
