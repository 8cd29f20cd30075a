import FleetHealth.Proofs.Gate
import FleetHealth.Proofs.Report.Log

/- A report and the verdict say the same. What counts as a failure is asked four times, by the
   verdict, by the list of kinds, by a block and by its log, in other words each time; the answers
   agree on every outcome, one that no check could have had among them. -/
namespace FleetHealth.Report

/-- What the block of an outcome says. -/
structure BlockTells (limit : Option Nat) (o : Outcome) (b : List Text) : Prop where
  healthy : b = okBlock o.name ↔ o.failed = false
  apart : o.failed = true → printed b ≠ printed (okBlock o.name)
  reason : o.failed = true ↔ ∃ k, o.Holds k
  failing : o.failed = true → ∃ (kinds : List FailureKind) (told : List (List Text))
      (log : List Text),
    b = ("=== ".toList ++ o.name ++ " ===".toList) :: told.flatten ++ log ∧
    kinds.Sublist FailureKind.inOrder ∧ (∀ k, k ∈ kinds ↔ o.Holds k) ∧
    List.Forall₂ (Diagnosis o) kinds told ∧
    (o.Holds .abnormalExit ∨ o.Holds .logSignatureMatch → ∃ shown, LogShown o.logText shown ∧
      log = ("----- log for ".toList ++ o.name ++ " (may be truncated) -----".toList) ::
        shown limit ++ ["----- end of log -----".toList]) ∧
    (¬ (o.Holds .abnormalExit ∨ o.Holds .logSignatureMatch) → log = [])
  named : ∀ k, o.Holds k → ∃ text, "[".toList ++ k.name ++ "] ".toList ++ text ∈ b
  excerpts : (o.matched.flatMap fun m => ["--------".toList, m.line, "--------".toList]) <:+: b

section
variable {limit : Option Nat} {o : Outcome}

theorem block_healthy (limit : Option Nat) (healthy : o.failed = false) :
    block limit o = okBlock o.name := by
  rw [block_eq, if_neg (Outcome.not_logDue_of_healthy healthy), List.append_nil,
    account_healthy healthy]

/-- Behind the header of a failure stands a bracket. -/
theorem printed_apart (limit : Option Nat) (fails : o.failed = true) :
    printed (block limit o) ≠ printed (okBlock o.name) := by
  obtain ⟨k, kinds, first⟩ := List.exists_cons_of_ne_nil (Outcome.kinds_ne_nil fails)
  have holds : o.Holds k := Outcome.mem_kinds_iff.mp (first ▸ List.mem_cons_self)
  obtain ⟨text, more, named⟩ := (diagnosis holds).named
  rw [block_eq, account_failing fails, first, List.map_cons, named]
  intro same
  simp [printed, okBlock, titled] at same

theorem diagnostic_in_block (limit : Option Nat) {k : FailureKind} (holds : o.Holds k) :
    diagnostic o k <:+: block limit o :=
  (diagnostic_isInfix holds).trans (account_isPrefix limit o).isInfix

theorem named_in_block (limit : Option Nat) {k : FailureKind} (holds : o.Holds k) :
    ∃ text, "[".toList ++ k.name ++ "] ".toList ++ text ∈ block limit o := by
  obtain ⟨text, more, named⟩ := (diagnosis holds).named
  refine ⟨text, (diagnostic_in_block limit holds).subset ?_⟩
  rw [named]
  exact List.mem_cons_self

theorem excerpts_in_block (limit : Option Nat) (o : Outcome) :
    o.matched.flatMap excerpt <:+: block limit o := by
  by_cases some_ : o.matched = []
  · rw [some_]
    exact List.nil_infix
  · have holds : o.Holds .logSignatureMatch := some_
    exact (List.suffix_cons _ _).isInfix.trans (diagnostic_in_block limit holds)

theorem block_tells (limit : Option Nat) (o : Outcome) : BlockTells limit o (block limit o) where
  healthy := by
    constructor
    · intro ok
      by_contra fails
      exact printed_apart limit (by simpa using fails) (congrArg printed ok)
    · exact block_healthy limit
  apart := printed_apart limit
  reason := Outcome.failed_iff
  failing fails := by
    refine ⟨o.kinds, o.kinds.map (diagnostic o),
      if o.LogDue then enclosed o.name (logBody limit o.logText) else [], ?_, o.kinds_inOrder,
      fun _ => Outcome.mem_kinds_iff, kinds_explained o, ?_, ?_⟩
    · rw [block_eq, account_failing fails]
      rfl
    · intro due
      exact ⟨_, logShown o.logText, if_pos due⟩
    · exact fun idle => if_neg idle
  named _ holds := named_in_block limit holds
  excerpts := excerpts_in_block limit o

end

/-- A report, its last line, the verdict and the exit status on the same outcomes. -/
structure SameStory (limit : Option Nat) (outcomes : List Outcome) (v : Verdict)
    (blocks : List (List Text)) : Prop where
  told : List.Forall₂ (BlockTells limit) outcomes blocks
  report : render limit outcomes v = printed (blocks.flatMap (· ++ [[]]) ++ [summary v])
  failed : v.failedServices =
    ((outcomes.zip blocks).filter fun p => p.2 ≠ okBlock p.1.name).map fun p => p.1.name
  exit : v.exitCode = 0 ↔ ∀ p ∈ outcomes.zip blocks, p.2 = okBlock p.1.name
  healthy : v.exitCode = 0 ↔ summary v =
    "All ".toList ++ (toString outcomes.length).toList ++ " services healthy".toList
  failing : v.exitCode ≠ 0 → summary v = "FAILED: ".toList ++
    (toString ((outcomes.zip blocks).countP fun p => p.2 ≠ okBlock p.1.name)).toList ++
    " of ".toList ++ (toString outcomes.length).toList ++ " services failed: ".toList ++
    List.intercalate ", ".toList v.failedServices

section
variable (limit : Option Nat) (outcomes : List Outcome)

theorem zip_blocks : outcomes.zip (outcomes.map (block limit)) =
    outcomes.map fun o => (o, block limit o) := by
  induction outcomes with
  | nil => rfl
  | cons o outcomes ih => rw [List.map_cons, List.zip_cons_cons, ih, List.map_cons]

theorem failedServices_told : (Verdict.ofOutcomes outcomes).failedServices =
    ((outcomes.zip (outcomes.map (block limit))).filter fun p => p.2 ≠ okBlock p.1.name).map
      fun p => p.1.name := by
  have same : ∀ o ∈ outcomes, o.failed = decide (block limit o ≠ okBlock o.name) := by
    intro o _
    rw [Bool.eq_iff_iff, decide_eq_true_eq, ne_eq, (block_tells limit o).healthy]
    simp
  rw [zip_blocks, List.filter_map, List.map_map]
  exact congrArg (List.map Outcome.name) (List.filter_congr same)

theorem exitCode_told : (Verdict.ofOutcomes outcomes).exitCode = 0 ↔
    ∀ p ∈ outcomes.zip (outcomes.map (block limit)), p.2 = okBlock p.1.name := by
  rw [zip_blocks, Verdict.exitCode_eq_zero_iff, Verdict.anyFailed_ofOutcomes]
  simp only [List.forall_mem_map, (block_tells limit _).healthy]

theorem blocks_tell : List.Forall₂ (BlockTells limit) outcomes (outcomes.map (block limit)) := by
  rw [List.forall₂_map_right_iff]
  exact List.forall₂_same.mpr fun o _ => block_tells limit o

end

theorem summary_healthy_iff (v : Verdict) : v.exitCode = 0 ↔ summary v =
    "All ".toList ++ (toString v.total).toList ++ " services healthy".toList := by
  rw [Verdict.exitCode_eq_zero_iff, ← natText_eq]
  unfold summary
  cases v.anyFailed <;> simp

theorem summary_failing {v : Verdict} (fails : v.exitCode ≠ 0) : summary v =
    "FAILED: ".toList ++ (toString v.failedServices.length).toList ++ " of ".toList ++
      (toString v.total).toList ++ " services failed: ".toList ++
      List.intercalate ", ".toList v.failedServices := by
  rw [ne_eq, Verdict.exitCode_eq_zero_iff, Bool.not_eq_false] at fails
  rw [summary, if_pos fails, natText_eq, natText_eq, joinWith_eq]

/-- Whatever was found out, the blocks of the report, its last line, the verdict and the exit status
agree on it. -/
theorem report_tells_verdict (limit : Option Nat) (outcomes : List Outcome) :
    ∃ blocks, SameStory limit outcomes (.ofOutcomes outcomes) blocks := by
  have failed := failedServices_told limit outcomes
  refine ⟨outcomes.map (block limit), blocks_tell limit outcomes, ?_, failed,
    exitCode_told limit outcomes, summary_healthy_iff _, ?_⟩
  · rw [List.flatMap_map]
    rfl
  · intro fails
    have count := congrArg List.length failed
    rw [List.length_map] at count
    rw [summary_failing fails, List.countP_eq_length_filter, count]
    rfl

def quietOutcome : Outcome := ⟨"db".toList, true, some 0, [], [], none⟩

theorem report_tells_verdict_noisy :
    ∃ quiet noisy, SameStory (some 1) [quietOutcome, noisyOutcome]
        (.ofOutcomes [quietOutcome, noisyOutcome]) [quiet, noisy] ∧
      quiet = ["=== db ===".toList, "OK".toList] ∧
      (∃ front shown, LogShown noisyLog shown ∧
        noisy = front ++ enclosed "svc".toList (shown (some 1))) ∧
      printed (["=== db ===", "OK", "", "=== svc ===", "[AbnormalExit] exit code 3",
        "[LogSignatureMatch] 1 matching line(s)", "--------", "ERR\r", "--------",
        "----- log for svc (may be truncated) -----", "... (2 earlier lines omitted)", "c",
        "----- end of log -----", "", "FAILED: 1 of 2 services failed: svc"].map String.toList) =
        printed ([quiet, noisy].flatMap (· ++ [[]]) ++
          ["FAILED: 1 of 2 services failed: svc".toList]) := by
  obtain ⟨blocks, story⟩ := report_tells_verdict (some 1) [quietOutcome, noisyOutcome]
  obtain ⟨quiet, behind, first, later, rfl⟩ := List.forall₂_cons_left_iff.mp story.told
  obtain ⟨noisy, none_, second, nothing, rfl⟩ := List.forall₂_cons_left_iff.mp later
  obtain rfl := List.forall₂_nil_left_iff.mp nothing
  obtain ⟨kinds, told, log, block, -, -, -, logged, -⟩ := second.failing (by decide)
  obtain ⟨shown, faithful, rfl⟩ := logged (Or.inl ⟨3, rfl, by decide⟩)
  refine ⟨quiet, noisy, story, first.healthy.mpr (by decide), ⟨_, shown, faithful, block⟩, ?_⟩
  refine Eq.trans ?_ story.report
  exact congrArg printed (by decide)

end FleetHealth.Report
