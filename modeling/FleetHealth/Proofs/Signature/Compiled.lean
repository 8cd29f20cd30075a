import FleetHealth.Proofs.Traversal
import FleetHealth.Signature.Detector

/- Lists of signatures that can be compiled: each signature keeps its place in the list. In a list that
   cannot, the first signature that cannot be compiled is at fault. -/
namespace FleetHealth

section
variable {literal : Bool} {texts : List Text} {t : Text} {s : Signature} {d : Detector}
  {f : Pattern.Fault}

theorem text_of_compiled (compiled : Signature.compile literal t = .ok s) : s.text = t := by
  unfold Signature.compile at compiled
  split at compiled
  · rw [← Except.ok.inj compiled]
  · exact absurd compiled nofun

theorem text_of_uncompiled {p : Text} (fails : Signature.compile literal t = .error (p, f)) :
    p = t := by
  unfold Signature.compile at fails
  split at fails
  · exact absurd fails nofun
  · exact (Prod.mk.inj (Except.error.inj fails)).1.symm

theorem compile_ok_iff : Detector.compile literal texts = .ok d ↔
    List.Forall₂ (fun t s => Signature.compile literal t = .ok s) texts d.signatures := by
  rw [← mapM_ok_iff, Detector.compile]
  cases texts.mapM (Signature.compile literal) with
  | error e => simp [Except.map]
  | ok ss =>
    obtain ⟨signatures⟩ := d
    simp [Except.map]

theorem compile_error_iff : Detector.compile literal texts = .error (t, f) ↔
    ∃ before after, texts = before ++ t :: after ∧
      (∀ b ∈ before, ∃ s, Signature.compile literal b = .ok s) ∧
      Signature.compile literal t = .error (t, f) := by
  have fails : Detector.compile literal texts = .error (t, f) ↔
      texts.mapM (Signature.compile literal) = .error (t, f) := by
    rw [Detector.compile]
    cases texts.mapM (Signature.compile literal) <;> simp [Except.map]
  rw [fails, mapM_error_iff]
  constructor
  · rintro ⟨before, x, after, split, sound, fault⟩
    obtain rfl := text_of_uncompiled fault
    exact ⟨before, after, split, sound, fault⟩
  · rintro ⟨before, after, split, sound, fault⟩
    exact ⟨before, t, after, split, sound, fault⟩

/-- The signature at a place is the one compiled from the text there. -/
theorem signature_at_iff (compiled : Detector.compile literal texts = .ok d) {i : Nat} :
    d.signatures[i]? = some s ↔
      ∃ t, texts[i]? = some t ∧ Signature.compile literal t = .ok s := by
  obtain ⟨long, each⟩ := List.forall₂_iff_get.mp (compile_ok_iff.mp compiled)
  constructor
  · intro known
    obtain ⟨inside, rfl⟩ := List.getElem?_eq_some_iff.mp known
    exact ⟨texts[i], List.getElem?_eq_getElem (long ▸ inside), each i (long ▸ inside) inside⟩
  · rintro ⟨t, here, made⟩
    obtain ⟨inside, rfl⟩ := List.getElem?_eq_some_iff.mp here
    have madeToo := each i inside (long ▸ inside)
    rw [List.get_eq_getElem, made] at madeToo
    rw [List.getElem?_eq_getElem (long ▸ inside), Except.ok.inj madeToo, List.get_eq_getElem]

theorem compiles_iff :
    (∃ d, Detector.compile literal texts = .ok d) ↔
      ∀ t ∈ texts, ∃ s, Signature.compile literal t = .ok s := by
  constructor
  · rintro ⟨d, compiled⟩ t mem
    obtain ⟨long, each⟩ := List.forall₂_iff_get.mp (compile_ok_iff.mp compiled)
    obtain ⟨i, inside, rfl⟩ := List.getElem_of_mem mem
    exact ⟨_, each i inside (long ▸ inside)⟩
  · intro all
    cases compiled : Detector.compile literal texts with
    | ok d => exact ⟨d, rfl⟩
    | error e =>
      obtain ⟨p, f⟩ := e
      obtain ⟨before, after, rfl, -, fault⟩ := compile_error_iff.mp compiled
      obtain ⟨s, made⟩ := all p (by simp)
      rw [made] at fault
      exact absurd fault nofun

end

end FleetHealth
