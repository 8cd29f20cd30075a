import FleetHealth.Proofs.Settings.Acceptance

/- What is overridden hides what a document says in its place, so it is never looked at; all else is
   what the document says. -/
namespace FleetHealth.Settings

/-- Settings that may differ only where the overrides replace them. -/
structure AgreeBesides (o : Overrides) (s t : Settings) : Prop where
  services : o.services = [] → s.services = t.services
  signatures : o.signatures = [] → s.signatures = t.signatures
  concurrency : o.concurrency = none → s.concurrency = t.concurrency
  timeoutSeconds : o.timeoutSeconds = none → s.timeoutSeconds = t.timeoutSeconds
  literal : s.literal = t.literal
  dockerBinary : s.dockerBinary = t.dockerBinary
  containerTemplate : s.containerTemplate = t.containerTemplate
  maxLogLines : s.maxLogLines = t.maxLogLines
  logFormat : s.logFormat = t.logFormat

/-- The values of the overrides, wherever they give one. -/
structure InForce (o : Overrides) (s : Settings) : Prop where
  services : o.services ≠ [] → s.services = o.services
  signatures : o.signatures ≠ [] → s.signatures = o.signatures
  concurrency : ∀ n, o.concurrency = some n → s.concurrency = n
  timeoutSeconds : ∀ n, o.timeoutSeconds = some n → s.timeoutSeconds = n

variable {o : Overrides} {s t : Settings}

theorem override_eq_of_agree (agree : AgreeBesides o s t) : s.override o = t.override o := by
  unfold override
  congr 1
  · split
    · rename_i none_
      exact agree.services (List.isEmpty_iff.mp none_)
    · rfl
  · split
    · rename_i none_
      exact agree.signatures (List.isEmpty_iff.mp none_)
    · rfl
  · exact agree.literal
  · exact agree.dockerBinary
  · exact agree.containerTemplate
  · cases given : o.timeoutSeconds with
    | none => exact agree.timeoutSeconds given
    | some n => rfl
  · cases given : o.concurrency with
    | none => exact agree.concurrency given
    | some n => rfl
  · exact agree.maxLogLines
  · exact agree.logFormat

theorem agree_override (o : Overrides) (s : Settings) : AgreeBesides o (s.override o) s where
  services none_ := by simp [override, none_]
  signatures none_ := by simp [override, none_]
  concurrency none_ := by simp [override, none_]
  timeoutSeconds none_ := by simp [override, none_]
  literal := rfl
  dockerBinary := rfl
  containerTemplate := rfl
  maxLogLines := rfl
  logFormat := rfl

theorem inForce_override (o : Overrides) (s : Settings) : InForce o (s.override o) where
  services some_ := by simp [override, some_]
  signatures some_ := by simp [override, some_]
  concurrency n given := by simp [override, given]
  timeoutSeconds n given := by simp [override, given]

/-- A fault in the place of an overriding value is a fault of that value. -/
structure FaultsOwn (o : Overrides) (literal : Bool) (f : SettingsFault) : Prop where
  services : ∀ g, f = .registry g → o.services ≠ [] → FirstNameFault o.services g
  emptySignature : f = .emptySignature → o.signatures ≠ [] → [] ∈ o.signatures
  signature : ∀ p g, f = .signature p g → o.signatures ≠ [] →
    p ∈ o.signatures ∧ Signature.compile literal p = .error (p, g)
  timeoutSeconds : f = .noTimeout → ∀ n, o.timeoutSeconds = some n → n = 0
  concurrency : f = .noConcurrency → ∀ n, o.concurrency = some n → n = 0

theorem faultsOwn_of_first {f : SettingsFault} (first : s.FirstFault f) (forced : InForce o s) :
    FaultsOwn o s.literal f where
  services g of_ some_ := by
    subst of_
    cases first with
    | registry first => exact forced.services some_ ▸ first
  emptySignature of_ some_ := by
    subst of_
    cases first with
    | emptySignature named empty => exact forced.signatures some_ ▸ empty
  signature p g of_ some_ := by
    subst of_
    cases first with
    | signature named someText split sound fails =>
      refine ⟨?_, fails⟩
      rw [← forced.signatures some_, split]
      simp
  timeoutSeconds of_ n given := by
    subst of_
    cases first with
    | noTimeout signed placed none_ => exact (forced.timeoutSeconds n given).symm.trans none_
  concurrency of_ n given := by
    subst of_
    cases first with
    | noConcurrency signed placed timed none_ => exact (forced.concurrency n given).symm.trans none_

/-- Documents that differ only in what the overrides replace have one result with them, and a value
that is replaced is never at fault. What is accepted keeps all other values of the document. -/
theorem overrides_mask (o : Overrides) {a b : Text} {s t : Settings} (shaped : read a = .ok s)
    (shapedToo : read b = .ok t) (agree : AgreeBesides o s t) :
    ofText o a = ofText o b ∧
    (∀ f, ofText o a = .error (.refused f) → FaultsOwn o s.literal f) ∧
    ∀ u, ofText o a = .ok u →
      AgreeBesides o u s ∧ InForce o u ∧ u.override o = u ∧ u.finish o = .ok u := by
  have again : (s.override o).override o = s.override o :=
    override_eq_of_agree (agree_override o s)
  rw [ofText_of_read shaped, ofText_of_read shapedToo]
  refine ⟨?_, fun f refused => ?_, fun u accepted => ?_⟩
  · unfold finish
    rw [override_eq_of_agree agree]
  · obtain ⟨g, first, same⟩ := finish_error_iff.mp refused
    obtain rfl : f = g := ConfigError.refused.inj same
    have own : FaultsOwn o (s.override o).literal f :=
      faultsOwn_of_first first (inForce_override o s)
    exact own
  · obtain ⟨acceptable, rfl⟩ := finish_ok_iff.mp accepted
    exact ⟨agree_override o s, inForce_override o s, again,
      finish_ok_iff.mpr ⟨by rwa [again], again.symm⟩⟩

def plainDocument : Text := "registry.services = []\nverifier.concurrency = 3".toList

theorem overrides_mask_faulty :
    let o : Overrides := ⟨[['c']], [], some 2, none⟩
    ofText o faultyDocument = ofText o plainDocument ∧
      (∃ u, ofText o faultyDocument = .ok u ∧ u.override o = u) ∧
      ofText .none faultyDocument = .error (.refused (.registry (.duplicate ['a']))) ∧
      ofText .none plainDocument = .error (.refused (.registry .noServices)) := by
  intro o
  have shaped : read faultyDocument = .ok faultySettings :=
    toOption_eq_some_iff.mp (by decide +kernel)
  have shapedToo : read plainDocument = .ok { defaults with concurrency := 3 } :=
    toOption_eq_some_iff.mp (by decide +kernel)
  have agree : AgreeBesides o faultySettings { defaults with concurrency := 3 } :=
    ⟨nofun, fun _ => rfl, nofun, fun _ => rfl, rfl, rfl, rfl, rfl, rfl⟩
  have accepted : (faultySettings.override o).fault? = none := by decide +kernel
  have loaded : ofText o faultyDocument = .ok (faultySettings.override o) := by
    rw [ofText_of_read shaped]
    exact finish_ok_iff.mpr ⟨fault?_eq_none_iff.mp accepted, rfl⟩
  have masked := overrides_mask o shaped shapedToo agree
  refine ⟨masked.1, ⟨_, loaded, (masked.2.2 _ loaded).2.2.1⟩, ?_, ?_⟩
  · rw [ofText_of_read shaped]
    exact finish_error_iff.mpr ⟨_, fault?_eq_some_iff.mp (by decide +kernel), rfl⟩
  · rw [ofText_of_read shapedToo]
    exact finish_error_iff.mpr ⟨_, fault?_eq_some_iff.mp (by decide +kernel), rfl⟩

end FleetHealth.Settings
