import FleetHealth.Proofs.Docker.Inspection
import Mathlib.Logic.Relation

/- Inspections that differ only where it does not matter: in the order of the members of a record, in
   the members that mean nothing, and in the entries behind the first one. They tell the same state. -/
namespace FleetHealth.Docker

open Json (Tree Members)

def stateKeys : List Text := [statusKey, exitCodeKey, oomKilledKey]

/-- The members that count: those with one of the keys, and those whose key is no text. -/
def relevant (keys : List Text) (ms : Members) : Members := ms.filter fun m => m.1.all keys.contains

/-- The members that count are the same, in any order. -/
def SameMembers (keys : List Text) (ms ms' : Members) : Prop :=
  (relevant keys ms).Perm (relevant keys ms')

inductive RewordedEntry : Tree → Tree → Prop
  | entry {ms ms' : Members} (same : SameMembers [stateKey] ms ms') :
      RewordedEntry (.object ms) (.object ms')
  | state {ms ms' : Members} (before after : Members) (same : SameMembers stateKeys ms ms') :
      RewordedEntry (.object (before ++ (some stateKey, .object ms) :: after))
        (.object (before ++ (some stateKey, .object ms') :: after))
  | listed {ms ms' : Members} (same : SameMembers stateKeys ms ms') :
      RewordedEntry (.array [.object ms]) (.array [.object ms'])

/-- One change of a document: an entry is reworded, or one more entry stands behind the first. -/
inductive Reworded : Tree → Tree → Prop
  | entry {e e' : Tree} (before after : List Tree) (same : RewordedEntry e e') :
      Reworded (.array (before ++ e :: after)) (.array (before ++ e' :: after))
  | more {e : Tree} (first : Tree) (before after : List Tree) (told : ∃ s, TellsEntry e s) :
      Reworded (.array (first :: (before ++ after))) (.array (first :: (before ++ e :: after)))

variable {keys : List Text} {key : Text} {ms ms' before after : Members} {s : ContainerState}

theorem valuesOf_relevant (known : key ∈ keys) (ms : Members) :
    valuesOf key (relevant keys ms) = valuesOf key ms := by
  unfold valuesOf relevant
  rw [List.filter_filter]
  congr 1
  apply List.filter_congr
  intro m _
  by_cases here : m.1 = some key
  · simp [here, known]
  · simp [here]

theorem named_relevant (keys : List Text) : Named (relevant keys ms) ↔ Named ms := by
  unfold Named relevant
  constructor
  · intro named m mem noText
    exact named m (List.mem_filter.mpr ⟨mem, by rw [noText]; rfl⟩) noText
  · intro named m mem
    exact named m (List.mem_of_mem_filter mem)

namespace SameMembers

theorem symm (same : SameMembers keys ms ms') : SameMembers keys ms' ms := List.Perm.symm same

theorem values (same : SameMembers keys ms ms') (known : key ∈ keys) :
    (valuesOf key ms).Perm (valuesOf key ms') := by
  rw [← valuesOf_relevant known ms, ← valuesOf_relevant known ms']
  exact (List.Perm.filter _ same).map _

theorem named (same : SameMembers keys ms ms') (named : Named ms) : Named ms' := by
  rw [← named_relevant keys] at named ⊢
  intro m mem
  exact named m (List.Perm.mem_iff same |>.mpr mem)

end SameMembers

theorem TellsFields.of_perm {statuses statuses' codes codes' flags flags' : List Tree}
    (fields : TellsFields statuses codes flags s) (status : statuses.Perm statuses')
    (code : codes.Perm codes') (flag : flags.Perm flags') :
    TellsFields statuses' codes' flags' s := by
  obtain ⟨⟨v, rfl, text⟩, ⟨w, rfl, number⟩, given⟩ := fields
  constructor
  · exact ⟨v, List.perm_singleton.mp status.symm, text⟩
  · exact ⟨w, List.perm_singleton.mp code.symm, number⟩
  · rcases given with ⟨rfl, unset⟩ | ⟨u, rfl, set⟩
    · exact Or.inl ⟨List.perm_nil.mp flag.symm, unset⟩
    · exact Or.inr ⟨u, List.perm_singleton.mp flag.symm, set⟩

theorem tellsState_of_same (same : SameMembers stateKeys ms ms') (told : TellsState (.object ms) s) :
    TellsState (.object ms') s := by
  cases told with
  | object named fields =>
    refine .object (same.named named) (fields.of_perm ?_ ?_ ?_)
    · exact same.values (by simp [stateKeys])
    · exact same.values (by simp [stateKeys])
    · exact same.values (by simp [stateKeys])

theorem valuesOf_append : valuesOf key (ms ++ ms') = valuesOf key ms ++ valuesOf key ms' := by
  simp [valuesOf]

/-- The state of an entry may be replaced by one that tells the same. -/
theorem tellsEntry_replace {v v' : Tree} (replaces : TellsState v s → TellsState v' s)
    (told : TellsEntry (.object (before ++ (some stateKey, v) :: after)) s) :
    TellsEntry (.object (before ++ (some stateKey, v') :: after)) s := by
  cases told with
  | object named once state =>
    rw [valuesOf_append, valuesOf_here] at once
    rcases List.append_eq_singleton_iff.mp once with ⟨front, back⟩ | ⟨-, back⟩
    · obtain ⟨rfl, behind⟩ := List.cons.inj back
      refine .object ?_ ?_ (replaces state)
      · obtain ⟨first, later⟩ := List.forall_mem_append.mp named
        exact List.forall_mem_append.mpr ⟨first, named_cons.mpr ⟨nofun, (named_cons.mp later).2⟩⟩
      · rw [valuesOf_append, valuesOf_here, front, behind, List.nil_append]
    · cases back

namespace RewordedEntry

variable {e e' : Tree}

theorem symm (same : RewordedEntry e e') : RewordedEntry e' e := by
  cases same with
  | entry same => exact .entry same.symm
  | state before after same => exact .state before after same.symm
  | listed same => exact .listed same.symm

theorem tells (same : RewordedEntry e e') (told : TellsEntry e s) : TellsEntry e' s := by
  cases same with
  | entry same =>
    cases told with
    | object named once state =>
      have values := same.values (List.mem_singleton.mpr rfl)
      rw [once] at values
      exact .object (same.named named) (List.perm_singleton.mp values.symm) state
  | state before after same => exact tellsEntry_replace (tellsState_of_same same) told
  | listed same =>
    cases told with
    | array state => exact .array (tellsState_of_same same state)

theorem tells_iff (same : RewordedEntry e e') : TellsEntry e s ↔ TellsEntry e' s :=
  ⟨same.tells, same.symm.tells⟩

end RewordedEntry

theorem tellsFirst_iff {first : Tree} {rest : List Tree} :
    TellsFirst (.array (first :: rest)) s ↔
      TellsEntry first s ∧ ∀ e ∈ rest, ∃ u, TellsEntry e u := by
  constructor
  · intro told
    cases told with
    | entries entry others => exact ⟨entry, others⟩
  · rintro ⟨entry, others⟩
    exact .entries entry others

theorem tellsFirst_reworded {t t' : Tree} (same : Reworded t t') :
    TellsFirst t s ↔ TellsFirst t' s := by
  cases same with
  | entry before after same =>
    cases before with
    | nil => rw [List.nil_append, List.nil_append, tellsFirst_iff, tellsFirst_iff, same.tells_iff]
    | cons first before =>
      simp only [List.cons_append, tellsFirst_iff, List.forall_mem_append, List.forall_mem_cons,
        same.tells_iff]
  | more first before after told =>
    simp only [tellsFirst_iff, List.forall_mem_append, List.forall_mem_cons, told, true_and]

/-- However often a document is reworded, the same state is told. -/
theorem tellsFirst_rewordings {t t' : Tree} (same : Relation.EqvGen Reworded t t') :
    TellsFirst t s ↔ TellsFirst t' s := by
  induction same with
  | rel t t' same => exact tellsFirst_reworded same
  | refl t => rfl
  | symm t t' _ ih => exact ih.symm
  | trans t u t' _ _ first second => exact first.trans second

end FleetHealth.Docker
