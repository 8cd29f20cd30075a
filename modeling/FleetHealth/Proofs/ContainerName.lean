import FleetHealth.Docker.Backend
import FleetHealth.Proofs.Pattern.Escape
import FleetHealth.Proofs.Text.Replacement

/- Which container a service is looked up by. With a template that is accepted, no two services have
   one container name, and the filter of a service finds the container of that service alone. -/
namespace FleetHealth

theorem contains_of_accepted {s : Settings}
    (accepted : s.valueFault? ≠ some .templateWithoutService) :
    servicePlaceholder <:+: s.containerTemplate := by
  rw [← Text.contains_iff_infix]
  by_contra missing
  refine accepted ?_
  unfold Settings.valueFault?
  rw [if_pos (by simpa using missing)]

theorem containerName_injective {s : Settings}
    (accepted : s.valueFault? ≠ some .templateWithoutService) :
    Function.Injective s.containerName := by
  have some_ : servicePlaceholder ≠ [] := by decide
  intro service other same
  exact replaceAll_injective some_ (contains_of_accepted accepted) same

namespace Docker

/-- The pattern in a filter on container names. -/
def namePattern (container : Text) : Text := '^' :: (Pattern.escape ('/' :: container) ++ ['$'])

theorem nameFilter_eq (container : Text) :
    nameFilter container = "name=".toList ++ namePattern container := by
  have slash : Pattern.escape ('/' :: container) = '/' :: Pattern.escape container := rfl
  unfold nameFilter namePattern
  rw [slash]
  simp

theorem finds_namePattern_iff (container other : Text) :
    Pattern.Finds (namePattern container) ('/' :: other) ↔ other = container := by
  unfold namePattern
  rw [Pattern.finds_whole_iff (List.cons_ne_nil '/' container)]
  exact ⟨fun same => (List.cons.inj same).2, fun same => by rw [same]⟩

theorem nameFilter_injective : Function.Injective nameFilter := by
  intro container other same
  rw [nameFilter_eq, nameFilter_eq, List.append_cancel_left_eq] at same
  have own := (finds_namePattern_iff other other).mpr rfl
  rw [← same, finds_namePattern_iff] at own
  exact own.symm

end Docker

theorem filter_finds_own_container {settings : Settings}
    (accepted : settings.valueFault? ≠ some .templateWithoutService) (docker : Docker.Program) :
    let b : Docker.Backend := ⟨docker, settings.dockerBinary, settings.containerTemplate⟩
    (∀ s, ∃ pattern,
      b.arguments (.find s) =
        ["ps".toList, "-a".toList, "--no-trunc".toList, "--filter".toList,
          "name=".toList ++ pattern] ++ Docker.Backend.format "ID" ∧
      ∀ t, Pattern.Finds pattern ('/' :: settings.containerName t) ↔ s = t) ∧
    Function.Injective settings.containerName ∧
    Function.Injective fun s => Docker.nameFilter (settings.containerName s) := by
  intro b
  have distinct := containerName_injective accepted
  refine ⟨fun s => ⟨Docker.namePattern (settings.containerName s), ?_, fun t => ?_⟩, distinct,
    Docker.nameFilter_injective.comp distinct⟩
  · rw [← Docker.nameFilter_eq]
    rfl
  · rw [Docker.finds_namePattern_iff]
    exact ⟨fun same => (distinct same).symm, fun same => by rw [same]⟩

/-- The name of the service twice, with a character between that a pattern takes for any other. -/
def Settings.doubled : Settings :=
  { Settings.defaults with
    containerTemplate := servicePlaceholder ++ '.' :: servicePlaceholder }

theorem filter_finds_own_container_doubled :
    Settings.doubled.valueFault? ≠ some .templateWithoutService ∧
      ∃ pattern, "name=".toList ++ pattern ∈ Docker.Backend.arguments
          ⟨fun _ => .error .notFound, [], Settings.doubled.containerTemplate⟩ (.find ['a']) ∧
        Pattern.Finds pattern ['/', 'a', '.', 'a'] ∧
        ¬ Pattern.Finds pattern ['/', 'a', 'a', '.', 'a', 'a'] := by
  have accepted : Settings.doubled.valueFault? ≠ some .templateWithoutService := by decide
  obtain ⟨pattern, asked, finds⟩ :=
    (filter_finds_own_container accepted fun _ => .error .notFound).1 ['a']
  refine ⟨accepted, pattern, ?_, (finds ['a']).mpr rfl, fun found => ?_⟩
  · have listed : "name=".toList ++ pattern ∈ ["ps".toList, "-a".toList, "--no-trunc".toList,
        "--filter".toList, "name=".toList ++ pattern] ++ Docker.Backend.format "ID" := by
      simp
    exact asked ▸ listed
  · exact absurd ((finds ['a', 'a']).mp found) (by decide)

end FleetHealth
