import FleetHealth.Text.Blank

/- The services of a fleet: an ordered list of names, none blank and none twice. -/
namespace FleetHealth

abbrev ServiceName := Text

inductive RegistryFault where
  | blankName
  | duplicate (name : ServiceName)
  | noServices
  deriving DecidableEq, Repr

def RegistryFault.message : RegistryFault → Text
  | .blankName => "Service names must not be empty".toList
  | .duplicate name => "Duplicate service name in registry: ".toList ++ name
  | .noServices => "No services configured. Add names to [registry] services".toList

namespace Registry

/-- The first name that is blank or stands among the `earlier` ones. -/
def nameFault? (earlier : List ServiceName) : List ServiceName → Option RegistryFault
  | [] => none
  | name :: rest =>
    if Text.isBlank name then some .blankName
    else if earlier.contains name then some (.duplicate name)
    else nameFault? (name :: earlier) rest

def fault? (names : List ServiceName) : Option RegistryFault :=
  match nameFault? [] names with
  | some fault => some fault
  | none => if names.isEmpty then some .noServices else none

end Registry

structure Registry where
  names : List ServiceName
  accepted : Registry.fault? names = none
  deriving DecidableEq, Repr

namespace Registry

def ofNames (names : List ServiceName) : Except RegistryFault Registry :=
  match accepted : fault? names with
  | some fault => .error fault
  | none => .ok ⟨names, accepted⟩

theorem fresh_of_nameFault_none {earlier names : List ServiceName}
    (sound : nameFault? earlier names = none) :
    names.Nodup ∧ ∀ name ∈ names, name ∉ earlier := by
  induction names generalizing earlier with
  | nil => simp
  | cons name rest ih =>
    simp only [nameFault?] at sound
    split at sound
    · simp at sound
    · split at sound
      · simp at sound
      · rename_i fresh
        obtain ⟨distinct, later⟩ := ih sound
        refine ⟨List.nodup_cons.mpr ⟨fun twice => ?_, distinct⟩, ?_⟩
        · exact later name twice (by simp)
        · intro other mem
          rcases List.mem_cons.mp mem with same | mem
          · subst other
            simpa using fresh
          · exact fun known => later other mem (by simp [known])

theorem names_nodup (r : Registry) : r.names.Nodup := by
  have accepted := r.accepted
  unfold fault? at accepted
  split at accepted
  · simp at accepted
  · rename_i sound
    exact (fresh_of_nameFault_none sound).1

theorem names_ne_nil (r : Registry) : r.names ≠ [] := by
  intro none_
  have accepted := r.accepted
  rw [none_] at accepted
  simp [fault?, nameFault?] at accepted

end Registry
end FleetHealth
