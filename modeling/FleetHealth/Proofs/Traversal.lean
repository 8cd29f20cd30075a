import Mathlib.Data.List.Forall2

/- Steps taken for one item after the other. All of them succeed, or the first that fails is the failure
   of the whole. -/
namespace FleetHealth

variable {α β ε : Type} {f : α → Except ε β}

theorem bind_ok_iff {x : Except ε α} {g : α → Except ε β} {b : β} :
    (x >>= g) = .ok b ↔ ∃ a, x = .ok a ∧ g a = .ok b := by
  cases x <;> simp [bind, Except.bind]

theorem mapM_ok_iff {xs : List α} {ys : List β} :
    xs.mapM f = .ok ys ↔ List.Forall₂ (fun x y => f x = .ok y) xs ys := by
  induction xs generalizing ys with
  | nil => cases ys <;> simp [pure, Except.pure]
  | cons x xs ih =>
    rw [List.mapM_cons]
    cases first : f x with
    | error e => cases ys <;> simp [bind, Except.bind, first]
    | ok y =>
      cases later : xs.mapM f with
      | error e => cases ys <;> simp [bind, Except.bind, first, ← ih, later]
      | ok rest => cases ys <;> simp [bind, Except.bind, pure, Except.pure, first, ← ih, later]

theorem mapM_cons_error_iff {x : α} {xs : List α} {e : ε} :
    (x :: xs).mapM f = .error e ↔
      f x = .error e ∨ (∃ y, f x = .ok y) ∧ xs.mapM f = .error e := by
  rw [List.mapM_cons]
  cases first : f x with
  | error e' => simp [bind, Except.bind]
  | ok y =>
    cases later : xs.mapM f with
    | error e' => simp [bind, Except.bind]
    | ok rest => simp [bind, Except.bind, pure, Except.pure]

theorem mapM_error_iff {xs : List α} {e : ε} :
    xs.mapM f = .error e ↔ ∃ before x after, xs = before ++ x :: after ∧
      (∀ b ∈ before, ∃ y, f b = .ok y) ∧ f x = .error e := by
  induction xs with
  | nil => simp [pure, Except.pure]
  | cons x xs ih =>
    rw [mapM_cons_error_iff, ih]
    constructor
    · rintro (fault | ⟨first, before, z, after, rfl, sound, fault⟩)
      · exact ⟨[], x, xs, rfl, by simp, fault⟩
      · exact ⟨x :: before, z, after, rfl, List.forall_mem_cons.mpr ⟨first, sound⟩, fault⟩
    · rintro ⟨before, z, after, split, sound, fault⟩
      cases before with
      | nil =>
        obtain ⟨rfl, rfl⟩ := List.cons.inj split
        exact Or.inl fault
      | cons b before =>
        obtain ⟨rfl, rfl⟩ := List.cons.inj split
        obtain ⟨first, sound⟩ := List.forall_mem_cons.mp sound
        exact Or.inr ⟨first, before, z, after, rfl, sound, fault⟩

theorem exists_forall₂_iff {α β : Type} {r : α → β → Prop} {xs : List α} :
    (∃ ys, List.Forall₂ r xs ys) ↔ ∀ x ∈ xs, ∃ y, r x y := by
  induction xs with
  | nil => exact ⟨fun _ => nofun, fun _ => ⟨[], .nil⟩⟩
  | cons x xs ih =>
    rw [List.forall_mem_cons, ← ih]
    constructor
    · rintro ⟨_, related⟩
      cases related with
      | cons first rest => exact ⟨⟨_, first⟩, _, rest⟩
    · rintro ⟨⟨y, first⟩, ys, rest⟩
      exact ⟨y :: ys, .cons first rest⟩

end FleetHealth
