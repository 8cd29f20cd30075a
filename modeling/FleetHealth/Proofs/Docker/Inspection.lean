import FleetHealth.Proofs.Docker.Fields

/- What an inspection must hold to be understood: a list of entries, each with a state, of which the
   first one counts. -/
namespace FleetHealth.Docker

open Json (Tree Members Value Key Left)

/-- The values given for the three fields of a state. Only the last one may be left out. -/
structure TellsFields (statuses codes flags : List Tree) (s : ContainerState) : Prop where
  status : ∃ v, statuses = [v] ∧ TellsText v s.status
  code : ∃ v, codes = [v] ∧ TellsCode v s.exitCode
  flag : (flags = [] ∧ s.oomKilled = false) ∨ ∃ v, flags = [v] ∧ TellsFlag v s.oomKilled

/-- A record may be written as the list of its fields. -/
inductive TellsState : Tree → ContainerState → Prop
  | object {ms : Members} {s : ContainerState} (named : Named ms)
      (fields : TellsFields (valuesOf statusKey ms) (valuesOf exitCodeKey ms)
        (valuesOf oomKilledKey ms) s) : TellsState (.object ms) s
  | array {status code : Tree} {flags : List Tree} {s : ContainerState}
      (fields : TellsFields [status] [code] flags s) : TellsState (.array (status :: code :: flags)) s

inductive TellsEntry : Tree → ContainerState → Prop
  | object {ms : Members} {v : Tree} {s : ContainerState} (named : Named ms)
      (once : valuesOf stateKey ms = [v]) (state : TellsState v s) : TellsEntry (.object ms) s
  | array {v : Tree} {s : ContainerState} (state : TellsState v s) : TellsEntry (.array [v]) s

/-- The first entry counts, but every entry must be understood. -/
inductive TellsFirst : Tree → ContainerState → Prop
  | entries {first : Tree} {rest : List Tree} {s : ContainerState} (entry : TellsEntry first s)
      (others : ∀ e ∈ rest, ∃ u, TellsEntry e u) : TellsFirst (.array (first :: rest)) s

/-- The members of a state, read into a draft. -/
structure Filled (ms : Members) (d e : StateDraft) : Prop where
  named : Named ms
  status : Fills TellsText (valuesOf statusKey ms) d.status e.status
  code : Fills TellsCode (valuesOf exitCodeKey ms) d.exitCode e.exitCode
  flag : Fills TellsFlag (valuesOf oomKilledKey ms) d.oomKilled e.oomKilled

section
variable {ms : Members} {members : List (Key × Value)} {d e : StateDraft} {v : Tree} {name : Text}

theorem filled_iff :
    Filled ms d e ↔ Named ms ∧ Fills TellsText (valuesOf statusKey ms) d.status e.status ∧
      Fills TellsCode (valuesOf exitCodeKey ms) d.exitCode e.exitCode ∧
      Fills TellsFlag (valuesOf oomKilledKey ms) d.oomKilled e.oomKilled := by
  constructor
  · rintro ⟨named, status, code, flag⟩
    exact ⟨named, status, code, flag⟩
  · rintro ⟨named, status, code, flag⟩
    exact ⟨named, status, code, flag⟩

theorem filled_nil : Filled [] d e ↔ e = d := by
  have none_ : ∀ key, valuesOf key [] = [] := fun _ => rfl
  have named : Named [] := nofun
  rw [filled_iff, none_, none_, none_, fills_nil, fills_nil, fills_nil]
  obtain ⟨_, _, _⟩ := d
  obtain ⟨_, _, _⟩ := e
  simp [named]

theorem filled_status :
    Filled ((some statusKey, v) :: ms) d e ↔
      d.status = none ∧ ∃ t, TellsText v t ∧ Filled ms { d with status := some t } e := by
  simp only [filled_iff, named_cons, valuesOf_here,
    valuesOf_elsewhere (by decide : statusKey ≠ exitCodeKey),
    valuesOf_elsewhere (by decide : statusKey ≠ oomKilledKey), fills_cons]
  constructor
  · rintro ⟨⟨-, named⟩, ⟨fresh, t, told, status⟩, code, flag⟩
    exact ⟨fresh, t, told, named, status, code, flag⟩
  · rintro ⟨fresh, t, told, named, status, code, flag⟩
    exact ⟨⟨nofun, named⟩, ⟨fresh, t, told, status⟩, code, flag⟩

theorem filled_code :
    Filled ((some exitCodeKey, v) :: ms) d e ↔
      d.exitCode = none ∧ ∃ n, TellsCode v n ∧ Filled ms { d with exitCode := some n } e := by
  simp only [filled_iff, named_cons, valuesOf_here,
    valuesOf_elsewhere (by decide : exitCodeKey ≠ statusKey),
    valuesOf_elsewhere (by decide : exitCodeKey ≠ oomKilledKey), fills_cons]
  constructor
  · rintro ⟨⟨-, named⟩, status, ⟨fresh, n, told, code⟩, flag⟩
    exact ⟨fresh, n, told, named, status, code, flag⟩
  · rintro ⟨fresh, n, told, named, status, code, flag⟩
    exact ⟨⟨nofun, named⟩, status, ⟨fresh, n, told, code⟩, flag⟩

theorem filled_flag :
    Filled ((some oomKilledKey, v) :: ms) d e ↔
      d.oomKilled = none ∧ ∃ b, TellsFlag v b ∧ Filled ms { d with oomKilled := some b } e := by
  simp only [filled_iff, named_cons, valuesOf_here,
    valuesOf_elsewhere (by decide : oomKilledKey ≠ statusKey),
    valuesOf_elsewhere (by decide : oomKilledKey ≠ exitCodeKey), fills_cons]
  constructor
  · rintro ⟨⟨-, named⟩, status, code, fresh, b, told, flag⟩
    exact ⟨fresh, b, told, named, status, code, flag⟩
  · rintro ⟨fresh, b, told, named, status, code, flag⟩
    exact ⟨⟨nofun, named⟩, status, code, fresh, b, told, flag⟩

theorem filled_unknown (status : name ≠ statusKey) (code : name ≠ exitCodeKey)
    (flag : name ≠ oomKilledKey) : Filled ((some name, v) :: ms) d e ↔ Filled ms d e := by
  simp only [filled_iff, named_cons, valuesOf_elsewhere status, valuesOf_elsewhere code,
    valuesOf_elsewhere flag, ne_eq, reduceCtorEq, not_false_eq_true, true_and]

theorem readStateMembers_iff :
    readStateMembers d members = .ok e ↔
      ∃ ms, Value.tree?.memberTrees? members = some ms ∧ Filled ms d e := by
  -- the draft grows with each member, so what is read from here on is said of any draft
  induction members generalizing d with
  | nil => simp [readStateMembers, Value.tree?.memberTrees?, filled_nil, eq_comm]
  | cons m rest ih =>
    obtain ⟨k, v⟩ := m
    rw [readStateMembers, exists_members_cons]
    cases k.name with
    | none =>
      constructor
      · nofun
      · rintro ⟨t, -, ms, -, filled⟩
        exact absurd rfl (named_cons.mp filled.named).1
    | some name =>
      dsimp only
      by_cases status : name = statusKey
      · subst status
        simp only [if_pos, filled_status]
        exact once_member_iff reads_status fun _ => ih
      rw [if_neg status]
      by_cases code : name = exitCodeKey
      · subst code
        simp only [if_pos, filled_code]
        exact once_member_iff reads_code fun _ => ih
      rw [if_neg code]
      by_cases flag : name = oomKilledKey
      · subst flag
        simp only [if_pos, filled_flag]
        exact once_member_iff reads_flag fun _ => ih
      rw [if_neg flag]
      simp only [filled_unknown status code flag]
      exact unknown_member_iff ih

end

theorem finish_iff {d : StateDraft} {stop : Left} {s : ContainerState} :
    d.finish stop = .ok s ↔
      d.status = some s.status ∧ d.exitCode = some s.exitCode ∧ s.oomKilled = d.oomKilled.getD false := by
  obtain ⟨status, code, flag⟩ := d
  obtain ⟨t, n, b⟩ := s
  cases status with
  | none => simp [StateDraft.finish]
  | some t' =>
    cases code with
    | none => simp [StateDraft.finish]
    | some n' => simp [StateDraft.finish, eq_comm]

theorem fields_of_filled (stop : Left) {ms : Members} {s : ContainerState} :
    (∃ d, Filled ms .empty d ∧ d.finish stop = .ok s) ↔
      Named ms ∧ TellsFields (valuesOf statusKey ms) (valuesOf exitCodeKey ms)
        (valuesOf oomKilledKey ms) s := by
  constructor
  · rintro ⟨d, ⟨named, status, code, flag⟩, done⟩
    obtain ⟨t, n, b⟩ := finish_iff.mp done
    rw [t] at status
    rw [n] at code
    refine ⟨named, fills_some_iff.mp status, fills_some_iff.mp code, ?_⟩
    cases given : d.oomKilled with
    | none =>
      rw [given] at flag b
      exact Or.inl ⟨fills_none_iff.mp flag, b⟩
    | some f =>
      rw [given] at flag b
      obtain rfl : s.oomKilled = f := b
      exact Or.inr (fills_some_iff.mp flag)
  · rintro ⟨named, status, code, flag⟩
    have status := fills_some_iff.mpr status
    have code := fills_some_iff.mpr code
    rcases flag with ⟨none_, unset⟩ | given
    · refine ⟨⟨some s.status, some s.exitCode, none⟩, ⟨named, status, code, ?_⟩, ?_⟩
      · exact fills_none_iff.mpr none_
      · exact finish_iff.mpr ⟨rfl, rfl, unset⟩
    · refine ⟨⟨some s.status, some s.exitCode, some s.oomKilled⟩, ⟨named, status, code, ?_⟩, ?_⟩
      · exact fills_some_iff.mpr given
      · exact finish_iff.mpr ⟨rfl, rfl, rfl⟩

section
variable {items : List Value} {stop : Option Left} {s : ContainerState}

theorem fields_of_readStateItems (run : readStateItems items stop = .ok s) :
    stop.isSome = true ∧ ∃ status code flags,
      Value.tree?.trees? items = some (status :: code :: flags) ∧
        TellsFields [status] [code] flags s := by
  unfold readStateItems at run
  cases items with
  | nil =>
    obtain ⟨-, place, -, refused⟩ := closed_iff.mp run
    cases refused
  | cons v items =>
    obtain ⟨status, t, treeT, told, run⟩ := (bind_reads_iff reads_status).mp run
    cases items with
    | nil =>
      obtain ⟨-, place, -, refused⟩ := closed_iff.mp run
      cases refused
    | cons w items =>
      obtain ⟨code, n, treeN, toldN, run⟩ := (bind_reads_iff reads_code).mp run
      cases items with
      | nil =>
        obtain ⟨-, place, rfl, same⟩ := closed_iff.mp run
        cases same
        refine ⟨rfl, status, code, [], ?_, ⟨status, rfl, told⟩, ⟨code, rfl, toldN⟩, ?_⟩
        · simp [treeT, treeN, Value.tree?.trees?]
        · exact Or.inl ⟨rfl, rfl⟩
      | cons u items =>
        obtain ⟨flag, b, treeB, toldB, run⟩ := (bind_reads_iff reads_flag).mp run
        obtain ⟨rfl, place, rfl, same⟩ := closed_iff.mp run
        cases same
        refine ⟨rfl, status, code, [flag], ?_, ⟨status, rfl, told⟩, ⟨code, rfl, toldN⟩, ?_⟩
        · simp [treeT, treeN, treeB, Value.tree?.trees?]
        · exact Or.inr ⟨flag, rfl, toldB⟩

theorem readStateItems_of_fields {place : Left} {status code : Tree} {flags : List Tree}
    (trees : Value.tree?.trees? items = some (status :: code :: flags))
    (fields : TellsFields [status] [code] flags s) : readStateItems items (some place) = .ok s := by
  obtain ⟨⟨v, sameV, told⟩, ⟨w, sameW, toldN⟩, flag⟩ := fields
  cases sameV
  cases sameW
  have shape := Json.trees?_iff.mp trees
  unfold readStateItems
  cases shape with
  | cons treeT shape =>
    cases shape with
    | cons treeN shape =>
      refine (bind_reads_iff reads_status).mpr ⟨status, s.status, treeT, told, ?_⟩
      refine (bind_reads_iff reads_code).mpr ⟨code, s.exitCode, treeN, toldN, ?_⟩
      rcases flag with ⟨rfl, unset⟩ | ⟨u, rfl, toldB⟩
      · cases shape
        rw [closed_iff, ← unset]
        exact ⟨rfl, place, rfl, rfl⟩
      · cases shape with
        | cons treeB shape =>
          cases shape
          refine (bind_reads_iff reads_flag).mpr ⟨u, s.oomKilled, treeB, toldB, ?_⟩
          exact closed_iff.mpr ⟨rfl, place, rfl, rfl⟩

end

section
variable {start : Left} {items : List Value} {members : List (Key × Value)} {stop : Option Left}
  {s : ContainerState}

theorem readState_object_iff :
    readState (.object start members stop) = .ok s ↔
      ∃ t, (Value.object start members stop).tree? = some t ∧ TellsState t s := by
  rw [readState, bind_ok_iff]
  constructor
  · rintro ⟨d, filled, run⟩
    cases stop with
    | none => cases run
    | some place =>
      obtain ⟨ms, trees, members⟩ := readStateMembers_iff.mp filled
      obtain ⟨named, fields⟩ := (fields_of_filled place).mp ⟨d, members, run⟩
      exact ⟨_, Json.tree?_object_iff.mpr ⟨rfl, ms, trees, rfl⟩, .object named fields⟩
  · rintro ⟨t, tree, told⟩
    obtain ⟨ended, ms, trees, rfl⟩ := Json.tree?_object_iff.mp tree
    obtain ⟨place, rfl⟩ := Option.isSome_iff_exists.mp ended
    cases told with
    | object named fields =>
      obtain ⟨d, members, done⟩ := (fields_of_filled place).mpr ⟨named, fields⟩
      exact ⟨d, readStateMembers_iff.mpr ⟨ms, trees, members⟩, done⟩

theorem readState_array_iff :
    readState (.array start items stop) = .ok s ↔
      ∃ t, (Value.array start items stop).tree? = some t ∧ TellsState t s := by
  rw [readState]
  constructor
  · intro run
    obtain ⟨ended, status, code, flags, trees, fields⟩ := fields_of_readStateItems run
    exact ⟨_, Json.tree?_array_iff.mpr ⟨ended, _, trees, rfl⟩, .array fields⟩
  · rintro ⟨t, tree, told⟩
    obtain ⟨ended, trees, shape, rfl⟩ := Json.tree?_array_iff.mp tree
    obtain ⟨place, rfl⟩ := Option.isSome_iff_exists.mp ended
    cases told with
    | array fields => exact readStateItems_of_fields shape fields

end

theorem reads_state : Reads readState TellsState := by
  intro v s
  cases v with
  | object start members stop => exact readState_object_iff
  | array start items stop => exact readState_array_iff
  | scalar u stop =>
    apply refused_iff (recordName stateName) rfl
    rintro t ⟨⟩
    nofun
  | broken =>
    apply refused_iff (recordName stateName) rfl
    nofun

section
variable {ms : Members} {members : List (Key × Value)} {state later : Option ContainerState}

theorem readEntryMembers_iff :
    readEntryMembers state members = .ok later ↔
      ∃ ms, Value.tree?.memberTrees? members = some ms ∧ Named ms ∧
        Fills TellsState (valuesOf stateKey ms) state later := by
  induction members generalizing state with
  | nil =>
    have none_ : valuesOf stateKey [] = [] := rfl
    have named : Named [] := nofun
    simp [readEntryMembers, Value.tree?.memberTrees?, none_, named, fills_nil, eq_comm]
  | cons m rest ih =>
    obtain ⟨k, v⟩ := m
    rw [readEntryMembers, exists_members_cons]
    cases k.name with
    | none =>
      constructor
      · nofun
      · rintro ⟨t, -, ms, -, named, -⟩
        exact absurd rfl (named_cons.mp named).1
    | some name =>
      dsimp only
      by_cases known : name = stateKey
      · subst known
        simp only [if_pos, named_cons, valuesOf_here, fills_cons, ne_eq, reduceCtorEq,
          not_false_eq_true, true_and]
        rw [once_member_iff reads_state fun _ => ih]
        constructor
        · rintro ⟨t, tree, ms, trees, fresh, a, told, named, rest⟩
          exact ⟨t, tree, ms, trees, named, fresh, a, told, rest⟩
        · rintro ⟨t, tree, ms, trees, named, fresh, a, told, rest⟩
          exact ⟨t, tree, ms, trees, fresh, a, told, named, rest⟩
      · rw [if_neg known]
        simp only [named_cons, valuesOf_elsewhere known, ne_eq, reduceCtorEq, not_false_eq_true,
          true_and]
        exact unknown_member_iff ih

end

section
variable {start : Left} {items : List Value} {members : List (Key × Value)} {stop : Option Left}
  {s : ContainerState}

theorem readEntry_object_iff :
    readEntry (.object start members stop) = .ok s ↔
      ∃ t, (Value.object start members stop).tree? = some t ∧ TellsEntry t s := by
  rw [readEntry, bind_ok_iff]
  constructor
  · rintro ⟨state, entered, run⟩
    cases stop with
    | none => cases state <;> cases run
    | some place =>
      cases state with
      | none => cases run
      | some s =>
        cases run
        obtain ⟨ms, trees, named, given⟩ := readEntryMembers_iff.mp entered
        obtain ⟨v, once, told⟩ := fills_some_iff.mp given
        exact ⟨_, Json.tree?_object_iff.mpr ⟨rfl, ms, trees, rfl⟩, .object named once told⟩
  · rintro ⟨t, tree, told⟩
    obtain ⟨ended, ms, trees, rfl⟩ := Json.tree?_object_iff.mp tree
    obtain ⟨place, rfl⟩ := Option.isSome_iff_exists.mp ended
    cases told with
    | object named once told =>
      have given := fills_some_iff.mpr ⟨_, once, told⟩
      exact ⟨some s, readEntryMembers_iff.mpr ⟨ms, trees, named, given⟩, rfl⟩

theorem readEntry_array_iff :
    readEntry (.array start items stop) = .ok s ↔
      ∃ t, (Value.array start items stop).tree? = some t ∧ TellsEntry t s := by
  unfold readEntry
  dsimp only
  constructor
  · intro run
    cases items with
    | nil =>
      obtain ⟨-, place, -, refused⟩ := closed_iff.mp run
      cases refused
    | cons v items =>
      obtain ⟨t, u, tree, told, run⟩ := (bind_reads_iff reads_state).mp run
      obtain ⟨rfl, place, rfl, same⟩ := closed_iff.mp run
      cases same
      have trees : Value.tree?.trees? [v] = some [t] :=
        Json.trees?_cons.mpr ⟨t, [], tree, rfl, rfl⟩
      exact ⟨_, Json.tree?_array_iff.mpr ⟨rfl, [t], trees, rfl⟩, .array told⟩
  · rintro ⟨t, tree, told⟩
    obtain ⟨ended, trees, shape, rfl⟩ := Json.tree?_array_iff.mp tree
    obtain ⟨place, rfl⟩ := Option.isSome_iff_exists.mp ended
    cases told with
    | array told =>
      have shape := Json.trees?_iff.mp shape
      cases shape with
      | cons only shape =>
        cases shape
        refine (bind_reads_iff reads_state).mpr ⟨_, s, only, told, ?_⟩
        exact closed_iff.mpr ⟨rfl, place, rfl, rfl⟩

end

theorem reads_entry : Reads readEntry TellsEntry := by
  intro v s
  cases v with
  | object start members stop => exact readEntry_object_iff
  | array start items stop => exact readEntry_array_iff
  | scalar u stop =>
    apply refused_iff (recordName entryName) rfl
    rintro t ⟨⟩
    nofun
  | broken =>
    apply refused_iff (recordName entryName) rfl
    nofun

theorem readEntries_iff {d : Json.Document} {states : List ContainerState} :
    readEntries d = .ok states ↔
      ∃ entries, d.tree? = some (.array entries) ∧ List.Forall₂ TellsEntry entries states := by
  obtain ⟨v, ended⟩ := d
  unfold readEntries Json.Document.tree?
  dsimp only
  constructor
  · intro run
    split at run
    · rename_i start items stop
      obtain ⟨states', read, run⟩ := bind_ok_iff.mp run
      obtain ⟨-, place, rfl, done⟩ := closed_iff.mp run
      split at done
      · rename_i whole
        cases done
        obtain ⟨entries, shape, told⟩ := (mapM_reads_iff reads_entry).mp read
        rw [if_pos whole]
        exact ⟨entries, Json.tree?_array_iff.mpr ⟨rfl, entries, shape, rfl⟩, told⟩
      · cases done
    · exact absurd run (wrongType_ne_ok _ _ states)
  · rintro ⟨entries, tree, told⟩
    split at tree
    · rename_i whole
      cases v with
      | array start items stop =>
        obtain ⟨stops, trees, shape, same⟩ := Json.tree?_array_iff.mp tree
        cases same
        obtain ⟨place, rfl⟩ := Option.isSome_iff_exists.mp stops
        subst whole
        have read := (mapM_reads_iff reads_entry).mpr ⟨entries, shape, told⟩
        exact bind_ok_iff.mpr ⟨states, read, rfl⟩
      | object start members stop =>
        obtain ⟨-, ms, -, same⟩ := Json.tree?_object_iff.mp tree
        cases same
      | scalar u stop => cases tree
      | broken => cases tree
    · cases tree

theorem inspect_iff {document : Text} {s : ContainerState} :
    inspect document = .ok s ↔
      ∃ t, (Json.Document.ofText document).tree? = some t ∧ TellsFirst t s := by
  rw [inspect, bind_ok_iff]
  constructor
  · rintro ⟨states, read, run⟩
    obtain ⟨entries, tree, told⟩ := readEntries_iff.mp read
    cases told with
    | nil => cases run
    | cons first others =>
      cases run
      exact ⟨_, tree, .entries first (exists_forall₂_iff.mp ⟨_, others⟩)⟩
  · rintro ⟨t, tree, told⟩
    cases told with
    | entries first others =>
      obtain ⟨states, told⟩ := exists_forall₂_iff.mpr others
      exact ⟨s :: states, readEntries_iff.mpr ⟨_, tree, .cons first told⟩, rfl⟩

end FleetHealth.Docker
