import FleetHealth.Settings.Load

/- Settings that are loaded have passed all checks, so a run with them has a registry and
   a detector. -/
namespace FleetHealth

theorem Registry.ofNames_accepted {names : List ServiceName} (accepted : fault? names = none) :
    ofNames names = .ok ⟨names, accepted⟩ := by
  unfold ofNames
  split
  · rename_i refused
    rw [accepted] at refused
    exact absurd refused nofun
  · rfl

theorem toOption_eq_some_iff {ε α : Type} {x : Except ε α} {a : α} :
    x.toOption = some a ↔ x = .ok a := by
  cases x <;> simp [Except.toOption]

namespace Settings
variable {o : Overrides} {s t : Settings} {document : Text}

theorem read_ok_iff :
    read document = .ok s ↔ ∃ n, Toml.parse document = .ok n ∧ decode n = .ok s := by
  unfold read
  cases Toml.parse document with
  | error f => simp
  | ok n => cases given : decode n <;> simp [given]

theorem ofText_of_read (shaped : read document = .ok s) : ofText o document = s.finish o := by
  rw [ofText, shaped]
  rfl

theorem accepted_of_finish (finished : s.finish o = .ok t) : t.fault? = none := by
  unfold finish accept at finished
  cases fault : (s.override o).fault? with
  | some f => simp [fault] at finished
  | none =>
    simp only [fault, Except.ok.injEq] at finished
    rwa [finished] at fault

/-- Whatever they come from, settings are finished last. -/
theorem finish_of_load {stored : Stored} (loaded : load o stored = .ok t) :
    ∃ s, finish o s = .ok t := by
  cases stored with
  | missing =>
    unfold load at loaded
    by_cases unnamed : o.services.isEmpty
    · simp [unnamed] at loaded
    · simp only [unnamed, Bool.false_eq_true, if_false] at loaded
      exact ⟨_, loaded⟩
  | directory => simp [load] at loaded
  | belowFile => simp [load] at loaded
  | bytes content =>
    unfold load at loaded
    cases decoded : Utf8.decode? content with
    | none => simp [decoded] at loaded
    | some document =>
      simp only [decoded, ofText] at loaded
      cases given : read document with
      | error e => simp [given, bind, Except.bind] at loaded
      | ok s =>
        rw [given] at loaded
        exact ⟨s, loaded⟩

theorem parts_of_accepted (accepted : s.fault? = none) :
    Registry.fault? s.services = none ∧ ∃ d, s.detector = .ok d := by
  unfold fault? at accepted
  cases named : Registry.fault? s.services with
  | some f => simp [named] at accepted
  | none =>
    rw [named] at accepted
    refine ⟨rfl, ?_⟩
    by_cases empty : s.signatures.any List.isEmpty
    · simp [empty] at accepted
    · cases compiled : s.detector with
      | error e => simp [empty, compiled] at accepted
      | ok d => exact ⟨d, rfl⟩

end Settings

end FleetHealth
