import FleetHealth.Proofs.Command
import FleetHealth.Proofs.Signature.Compiled
import FleetHealth.Proofs.Text.Blank
import FleetHealth.Proofs.Text.Occurrences

/- The conditions that settings must meet, and the fault of settings that do not meet them all. It is
   the fault of the first condition that is broken, and names are looked at from left to right. -/
namespace FleetHealth

structure NamesFit (names : List ServiceName) : Prop where
  named : ∀ name ∈ names, trim name ≠ []
  distinct : names.Nodup

/-- The names in front of the name at fault are fit to stand together. -/
inductive FirstNameFault (names : List ServiceName) : RegistryFault → Prop where
  | blankName {before name after} (split : names = before ++ name :: after)
      (fit : NamesFit before) (blank : trim name = []) : FirstNameFault names .blankName
  | duplicate {before name after} (split : names = before ++ name :: after)
      (fit : NamesFit before) (named : trim name ≠ []) (again : name ∈ before) :
      FirstNameFault names (.duplicate name)
  | noServices (none_ : names = []) : FirstNameFault names .noServices

section
variable {names before : List ServiceName} {name : ServiceName} {f : RegistryFault}

theorem namesFit_snoc :
    NamesFit (before ++ [name]) ↔ NamesFit before ∧ trim name ≠ [] ∧ name ∉ before := by
  constructor
  · rintro ⟨named, distinct⟩
    rw [List.nodup_append] at distinct
    refine ⟨⟨fun n mem => named n (by simp [mem]), distinct.1⟩, named name (by simp), ?_⟩
    exact fun again => distinct.2.2 name again name (by simp) rfl
  · rintro ⟨⟨named, distinct⟩, some_, fresh⟩
    constructor
    · intro n mem
      rcases List.mem_append.mp mem with mem | mem
      · exact named n mem
      · obtain rfl := List.mem_singleton.mp mem
        exact some_
    · exact List.concat_eq_append ▸ distinct.concat fresh

theorem FirstNameFault.append (fault : FirstNameFault names f) (some_ : names ≠ [])
    (more : List ServiceName) : FirstNameFault (names ++ more) f := by
  cases fault with
  | blankName split fit blank =>
    exact .blankName (by rw [split, List.append_assoc, List.cons_append]) fit blank
  | duplicate split fit named again =>
    exact .duplicate (by rw [split, List.append_assoc, List.cons_append]) fit named again
  | noServices none_ => exact absurd none_ some_

/-- Names that are not fit have a first one at fault. -/
theorem fit_or_fault (names : List ServiceName) (some_ : names ≠ []) :
    NamesFit names ∨ ∃ f, FirstNameFault names f := by
  induction names using List.reverseRecOn with
  | nil => exact absurd rfl some_
  | append_singleton before name ih =>
    have here : before ++ [name] = before ++ name :: [] := rfl
    have step : NamesFit before → NamesFit (before ++ [name]) ∨
        ∃ f, FirstNameFault (before ++ [name]) f := by
      intro fit
      by_cases blank : trim name = []
      · exact Or.inr ⟨_, .blankName here fit blank⟩
      · by_cases again : name ∈ before
        · exact Or.inr ⟨_, .duplicate here fit blank again⟩
        · exact Or.inl (namesFit_snoc.mpr ⟨fit, blank, again⟩)
    by_cases first : before = []
    · exact step (by rw [first]; exact ⟨by simp, List.nodup_nil⟩)
    · rcases ih first with fit | ⟨f, fault⟩
      · exact step fit
      · exact Or.inr ⟨f, fault.append first [name]⟩

end

namespace Registry
variable {names : List ServiceName} {f : RegistryFault}

/-- The names that have been looked at are kept in reverse. -/
theorem nameFault?_append (earlier more : List ServiceName)
    (fit : NamesFit (earlier.reverse ++ names)) :
    nameFault? earlier (names ++ more) = nameFault? (names.reverse ++ earlier) more := by
  induction names generalizing earlier with
  | nil => rfl
  | cons name rest ih =>
    have shift : earlier.reverse ++ name :: rest = (name :: earlier).reverse ++ rest := by simp
    rw [shift] at fit
    have named : Text.isBlank name = false := by
      rw [Bool.eq_false_iff, ne_eq, ← trim_eq_nil_iff]
      exact fit.named name (by simp)
    have fresh : earlier.contains name = false := by
      have distinct := fit.distinct
      rw [List.nodup_append] at distinct
      simpa using (List.nodup_reverse.mp distinct.1).notMem
    rw [List.cons_append, nameFault?, named, fresh]
    simpa using ih _ fit

theorem fault?_of_fit (fit : NamesFit names) (some_ : names ≠ []) : fault? names = none := by
  have sound := nameFault?_append [] [] fit
  rw [List.append_nil] at sound
  simp [fault?, sound, nameFault?, some_]

theorem fault?_of_first (first : FirstNameFault names f) : fault? names = some f := by
  cases first with
  | noServices none_ => simp [none_, fault?, nameFault?]
  | @blankName before name after split fit blank =>
    have here := nameFault?_append [] (name :: after) fit
    rw [split, fault?, here, nameFault?, if_pos ((trim_eq_nil_iff name).mp blank)]
  | @duplicate before name after split fit named again =>
    have here := nameFault?_append [] (name :: after) fit
    have unblank : ¬ Text.isBlank name = true := mt (trim_eq_nil_iff name).mpr named
    rw [split, fault?, here, nameFault?, if_neg unblank, if_pos (by simp [again])]

theorem fault?_eq_some_iff : fault? names = some f ↔ FirstNameFault names f := by
  constructor
  · intro fails
    by_cases none_ : names = []
    · obtain rfl : RegistryFault.noServices = f := by
        simpa [none_, fault?, nameFault?] using fails
      exact .noServices none_
    · rcases fit_or_fault names none_ with fit | ⟨g, first⟩
      · rw [fault?_of_fit fit none_] at fails
        cases fails
      · rw [fault?_of_first first] at fails
        exact Option.some.inj fails ▸ first
  · exact fault?_of_first

theorem fault?_eq_none_iff : fault? names = none ↔ names ≠ [] ∧ NamesFit names := by
  constructor
  · intro accepted
    have some_ : names ≠ [] := by
      intro none_
      simp [none_, fault?, nameFault?] at accepted
    rcases fit_or_fault names some_ with fit | ⟨g, first⟩
    · exact ⟨some_, fit⟩
    · rw [fault?_of_first first] at accepted
      cases accepted
  · exact fun fit => fault?_of_fit fit.2 fit.1

end Registry

namespace Settings

/-- The names make a registry. -/
structure Named (s : Settings) : Prop where
  someName : s.services ≠ []
  fit : NamesFit s.services

/-- The signatures make a detector as well. -/
structure Signed (s : Settings) : Prop extends s.Named where
  someText : [] ∉ s.signatures
  compiled : ∀ t ∈ s.signatures, ∃ c, Signature.compile s.literal t = .ok c

structure Acceptable (s : Settings) : Prop extends s.Signed where
  placed : servicePlaceholder <:+: s.containerTemplate
  timed : 1 ≤ s.timeoutSeconds
  manned : 1 ≤ s.concurrency

/-- The fault of the first condition that settings do not meet. -/
inductive FirstFault (s : Settings) : SettingsFault → Prop where
  | registry {f} (first : FirstNameFault s.services f) : FirstFault s (.registry f)
  | emptySignature (named : s.Named) (empty : [] ∈ s.signatures) : FirstFault s .emptySignature
  | signature {before t after f} (named : s.Named) (someText : [] ∉ s.signatures)
      (split : s.signatures = before ++ t :: after)
      (sound : ∀ b ∈ before, ∃ c, Signature.compile s.literal b = .ok c)
      (fails : Signature.compile s.literal t = .error (t, f)) : FirstFault s (.signature t f)
  | template (signed : s.Signed) (unplaced : ¬ servicePlaceholder <:+: s.containerTemplate) :
      FirstFault s .templateWithoutService
  | noTimeout (signed : s.Signed) (placed : servicePlaceholder <:+: s.containerTemplate)
      (none_ : s.timeoutSeconds = 0) : FirstFault s .noTimeout
  | noConcurrency (signed : s.Signed) (placed : servicePlaceholder <:+: s.containerTemplate)
      (timed : 1 ≤ s.timeoutSeconds) (none_ : s.concurrency = 0) : FirstFault s .noConcurrency

variable {s : Settings} {f : SettingsFault}

/-- A condition is broken, or all of them are met. -/
theorem acceptable_or_fault (s : Settings) : s.Acceptable ∨ ∃ f, s.FirstFault f := by
  by_cases named : s.Named
  · by_cases empty : [] ∈ s.signatures
    · exact Or.inr ⟨_, .emptySignature named empty⟩
    · cases compiled : s.detector with
      | error e =>
        obtain ⟨t, g⟩ := e
        obtain ⟨before, after, split, sound, fails⟩ := compile_error_iff.mp compiled
        exact Or.inr ⟨_, .signature named empty split sound fails⟩
      | ok d =>
        have signed : s.Signed := ⟨named, empty, compiles_iff.mp ⟨d, compiled⟩⟩
        by_cases placed : servicePlaceholder <:+: s.containerTemplate
        · by_cases timed : s.timeoutSeconds = 0
          · exact Or.inr ⟨_, .noTimeout signed placed timed⟩
          · by_cases manned : s.concurrency = 0
            · exact Or.inr ⟨_, .noConcurrency signed placed (by omega) manned⟩
            · exact Or.inl ⟨signed, placed, by omega, by omega⟩
        · exact Or.inr ⟨_, .template signed placed⟩
  · cases fails : Registry.fault? s.services with
    | none =>
      obtain ⟨some_, fit⟩ := Registry.fault?_eq_none_iff.mp fails
      exact absurd ⟨some_, fit⟩ named
    | some g => exact Or.inr ⟨_, .registry (Registry.fault?_eq_some_iff.mp fails)⟩

theorem fault?_of_named (named : s.Named) :
    s.fault? = if s.signatures.any List.isEmpty then some .emptySignature
      else match s.detector with
        | .error (p, f) => some (.signature p f)
        | .ok _ => s.valueFault? := by
  unfold fault?
  split
  · rename_i refused
    rw [Registry.fault?_of_fit named.fit named.someName] at refused
    cases refused
  · rfl

theorem any_isEmpty_iff {texts : List Text} : texts.any List.isEmpty = true ↔ [] ∈ texts := by
  simp [List.any_eq_true]

theorem fault?_of_signed (signed : s.Signed) : s.fault? = s.valueFault? := by
  obtain ⟨d, compiled⟩ := compiles_iff.mpr signed.compiled
  have detected : s.detector = .ok d := compiled
  rw [fault?_of_named signed.toNamed, if_neg (mt any_isEmpty_iff.mp signed.someText), detected]

theorem fault?_of_acceptable (acceptable : s.Acceptable) : s.fault? = none := by
  have placed := (Text.contains_iff_infix _ _).mpr acceptable.placed
  have timed := acceptable.timed
  have manned := acceptable.manned
  rw [fault?_of_signed acceptable.toSigned, valueFault?, placed, if_neg (by simp),
    if_neg (by omega), if_neg (by omega)]

theorem fault?_of_first (first : s.FirstFault f) : s.fault? = some f := by
  cases first with
  | registry first => rw [fault?, Registry.fault?_of_first first]
  | emptySignature named empty => rw [fault?_of_named named, if_pos (any_isEmpty_iff.mpr empty)]
  | @signature before t after g named someText split sound fails =>
    have compiled : s.detector = .error (t, g) :=
      compile_error_iff.mpr ⟨before, after, split, sound, fails⟩
    rw [fault?_of_named named, if_neg (mt any_isEmpty_iff.mp someText), compiled]
  | template signed unplaced =>
    have missing := mt (Text.contains_iff_infix _ _).mp unplaced
    rw [fault?_of_signed signed, valueFault?, if_pos (by simpa using missing)]
  | noTimeout signed placed none_ =>
    have contained := (Text.contains_iff_infix _ _).mpr placed
    rw [fault?_of_signed signed, valueFault?, contained, if_neg (by simp), if_pos none_]
  | noConcurrency signed placed timed none_ =>
    have contained := (Text.contains_iff_infix _ _).mpr placed
    rw [fault?_of_signed signed, valueFault?, contained, if_neg (by simp), if_neg (by omega),
      if_pos none_]

theorem fault?_eq_none_iff : s.fault? = none ↔ s.Acceptable := by
  constructor
  · intro accepted
    rcases s.acceptable_or_fault with acceptable | ⟨g, first⟩
    · exact acceptable
    · rw [fault?_of_first first] at accepted
      exact absurd accepted nofun
  · exact fault?_of_acceptable

theorem fault?_eq_some_iff : s.fault? = some f ↔ s.FirstFault f := by
  constructor
  · intro refused
    rcases s.acceptable_or_fault with acceptable | ⟨g, first⟩
    · rw [fault?_of_acceptable acceptable] at refused
      exact absurd refused nofun
    · rw [fault?_of_first first] at refused
      exact Option.some.inj refused ▸ first
  · exact fault?_of_first

section
variable {o : Overrides} {t : Settings} {e : ConfigError}

theorem finish_ok_iff : s.finish o = .ok t ↔ (s.override o).Acceptable ∧ t = s.override o := by
  rw [← fault?_eq_none_iff, finish, accept]
  cases (s.override o).fault? <;> simp [eq_comm]

theorem finish_error_iff :
    s.finish o = .error e ↔ ∃ f, (s.override o).FirstFault f ∧ e = .refused f := by
  simp only [← fault?_eq_some_iff, finish, accept]
  cases (s.override o).fault? <;> simp [eq_comm]

end

/-- What is accepted can be run: the names make the registry and the signatures the detector, and
the command that loads the settings comes to its checks. -/
structure Runs (s : Settings) (r : Registry) (d : Detector) : Prop where
  registry : Registry.ofNames s.services = .ok r
  names : r.names = s.services
  detector : s.detector = .ok d
  command : ∀ arguments a stored docker, Command.read arguments = .run a →
    load a.overrides (stored a.configPath) = .ok s →
    Command.run arguments stored docker = Command.check s d r (s.backend docker)

theorem runs_of_acceptable (acceptable : s.Acceptable) : ∃ r d, s.Runs r d := by
  have accepted := fault?_of_acceptable acceptable
  obtain ⟨named, d, compiled⟩ := parts_of_accepted accepted
  refine ⟨⟨s.services, named⟩, d, Registry.ofNames_accepted named, rfl, compiled, ?_⟩
  intro arguments a stored docker given loaded
  obtain ⟨d', ⟨names, accepted⟩, compiledToo, same, run⟩ :=
    Command.run_of_loaded docker given loaded
  obtain rfl : d' = d := Except.ok.inj (compiledToo.symm.trans compiled)
  cases same
  exact run

/-- A document that gives settings is accepted with the overrides exactly when these meet all the
conditions, and otherwise refused for the first one that they do not meet. -/
theorem acceptance_exact (o : Overrides) {document : Text} {s : Settings}
    (shaped : read document = .ok s) :
    let t := s.override o
    let loaded := ofText o document
    ((∃ u, loaded = .ok u) ↔ t.Acceptable) ∧
    (∀ e, loaded = .error e ↔ ∃ f, t.FirstFault f ∧ e = .refused f) ∧
    ∀ u, loaded = .ok u → u = t ∧ ∃ r d, u.Runs r d := by
  intro t loaded
  have finished : loaded = s.finish o := ofText_of_read shaped
  rw [finished]
  refine ⟨⟨?_, fun acceptable => ⟨t, finish_ok_iff.mpr ⟨acceptable, rfl⟩⟩⟩,
    fun e => finish_error_iff, ?_⟩
  · rintro ⟨u, accepted⟩
    exact (finish_ok_iff.mp accepted).1
  · intro u accepted
    obtain ⟨acceptable, rfl⟩ := finish_ok_iff.mp accepted
    exact ⟨rfl, runs_of_acceptable acceptable⟩

/-- The names have two faults, and there is another one behind them. -/
def faultyDocument : Text :=
  "[registry]\nservices = [\"a\", \"b\", \"a\", \" \"]\n[verifier]\nconcurrency = 0\n".toList

def faultySettings : Settings :=
  { defaults with services := [['a'], ['b'], ['a'], [' ']], concurrency := 0 }

theorem acceptance_exact_faulty :
    read faultyDocument = .ok faultySettings ∧
      ofText .none faultyDocument = .error (.refused (.registry (.duplicate ['a']))) ∧
      ∃ u, ofText ⟨[['c']], [], some 2, none⟩ faultyDocument = .ok u ∧ u.services = [['c']] ∧
        ∃ r d, u.Runs r d := by
  have shaped : read faultyDocument = .ok faultySettings :=
    toOption_eq_some_iff.mp (by decide +kernel)
  have first : FirstNameFault faultySettings.services (.duplicate ['a']) :=
    .duplicate (rfl : _ = [['a'], ['b']] ++ ['a'] :: [[' ']]) ⟨by decide, by decide⟩ (by decide)
      (by decide)
  have refused := (acceptance_exact .none shaped).2.1 _ |>.mpr ⟨_, .registry first, rfl⟩
  have cured := acceptance_exact ⟨[['c']], [], some 2, none⟩ shaped
  have accepted : (faultySettings.override ⟨[['c']], [], some 2, none⟩).fault? = none := by
    decide +kernel
  obtain ⟨u, loaded⟩ := cured.1.mpr (fault?_eq_none_iff.mp accepted)
  obtain ⟨rfl, runs⟩ := cured.2.2 u loaded
  exact ⟨shaped, refused, _, loaded, rfl, runs⟩

end Settings

end FleetHealth
