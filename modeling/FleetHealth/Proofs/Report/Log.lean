import FleetHealth.Proofs.Report.Wording
import FleetHealth.Proofs.Text.Endings
import Mathlib.Data.List.DropRight

/- The log in a report. Without a limit it is the log itself with all line ends alike; a limit takes
   lines from its front and says how many. Nothing else in a report depends on the limit. -/
namespace FleetHealth.Report

theorem printed_isInfix {ls ms : List Text} (part : ls <:+: ms) : printed ls <:+: printed ms :=
  part.flatMap _

theorem logBody_none (log : Text) : logBody none log = readLines log := by
  simp [logBody, skipped]

theorem logBody_all {limit : Nat} {log : Text} (fits : (readLines log).length ≤ limit) :
    logBody (some limit) log = readLines log := by
  simp [logBody, skipped, Nat.sub_eq_zero_of_le fits]

/-- What is left out is counted in front of what is left. -/
theorem logBody_tail {limit : Nat} {log : Text} (long : limit < (readLines log).length) :
    logBody (some limit) log =
      omission ((readLines log).length - limit) :: (readLines log).rtake limit := by
  have some_ : 0 < (readLines log).length - limit := by omega
  simp [logBody, skipped, List.rtake, some_]

/-- The line in the place of those that a limit leaves out. -/
def notice (omitted : Nat) : Text :=
  "... (".toList ++ (toString omitted).toList ++ " earlier lines omitted)".toList

theorem omission_eq (omitted : Nat) : omission omitted = notice omitted :=
  congrArg (fun t => "... (".toList ++ t ++ " earlier lines omitted)".toList) (natText_eq omitted)

/-- How lines are shown by a limit: the last ones, and the number of those in front of them. -/
structure Tail (limit : Nat) (lines : List Text) (omitted : Option Nat) (shown : List Text) :
    Prop where
  last : shown = lines.rtake (min limit lines.length)
  noticed : omitted ≠ none ↔ limit < lines.length
  counted : ∀ k ∈ omitted, k + shown.length = lines.length

theorem exists_tail (limit : Nat) (log : Text) :
    ∃ omitted shown, Tail limit (logBody none log) omitted shown ∧
      logBody (some limit) log = (omitted.map notice).toList ++ shown := by
  rw [logBody_none]
  by_cases long : limit < (readLines log).length
  · have least : min limit (readLines log).length = limit := by omega
    refine ⟨some ((readLines log).length - limit), (readLines log).rtake limit, ?_, ?_⟩
    · constructor
      · rw [least]
      · simp [long]
      · intro k counted
        obtain rfl := Option.some.inj counted
        rw [List.rtake, List.length_drop]
        omega
    · rw [logBody_tail long, omission_eq]
      rfl
  · have fits : (readLines log).length ≤ limit := by omega
    have least : min limit (readLines log).length = (readLines log).length := by omega
    refine ⟨none, readLines log, ?_, logBody_all fits⟩
    constructor
    · rw [least, List.rtake, Nat.sub_self, List.drop_zero]
    · simp [long]
    · simp

/-- What a log section shows of a log, with each limit and without one. -/
structure LogShown (log : Text) (body : Option Nat → List Text) : Prop where
  whole : printed (body none) =
    replaceAll ['\r', '\n'] ['\n'] log ++ if Ended log then [] else ['\n']
  single : ∀ line ∈ body none, '\n' ∉ line
  count : (body none).length = log.count '\n' + if Ended log then 0 else 1
  tail : ∀ limit, ∃ omitted shown, Tail limit (body none) omitted shown ∧
    body (some limit) = (omitted.map notice).toList ++ shown
  unlimited : ∀ limit, (body none).length ≤ limit → body (some limit) = body none

theorem logShown (log : Text) : LogShown log fun limit => logBody limit log where
  whole := by
    rw [logBody_none]
    exact readLines_joined log
  single line mem := by
    rw [logBody_none] at mem
    exact plain_of_mem_readLines mem
  count := by
    rw [logBody_none]
    exact length_readLines log
  tail limit := exists_tail limit log
  unlimited limit fits := by
    rw [logBody_none] at fits ⊢
    exact logBody_all fits

/-- A report taken apart: the account of each outcome and the last line are the same with every
limit, and what a log section shows is all that depends on it. -/
structure CutReport (outcomes : List Outcome) (v : Verdict) (account : Outcome → List Text)
    (shown : Outcome → Option Nat → List Text) (closing : Text) : Prop where
  report : ∀ limit, render limit outcomes v = printed
    (outcomes.flatMap (fun o =>
      account o ++ (if o.LogDue then enclosed o.name (shown o limit) else []) ++ [[]]) ++ [closing])
  accounts : ∀ o ∈ outcomes, Account o (account o)
  logs : ∀ o ∈ outcomes, LogShown o.logText (shown o)
  diagnosed : ∀ limit, ∀ o ∈ outcomes, ∀ k, o.Holds k → ∃ told, Diagnosis o k told ∧
    printed told <:+: render limit outcomes v
  quoted : ∀ limit, ∀ o ∈ outcomes, ∀ m ∈ o.matched,
    printed ["--------".toList, m.line, "--------".toList] <:+: render limit outcomes v

section
variable {o : Outcome} {outcomes : List Outcome}

theorem isInfix_flatMap {α β : Type} {f : α → List β} {x : α} {xs : List α} (mem : x ∈ xs) :
    f x <:+: xs.flatMap f := by
  rw [List.flatMap_def]
  exact List.infix_of_mem_flatten (List.mem_map_of_mem mem)

theorem account_isPrefix (limit : Option Nat) (o : Outcome) : account o <+: block limit o := by
  rw [block_eq]
  exact List.prefix_append _ _

theorem account_isInfix (limit : Option Nat) (v : Verdict) (mem : o ∈ outcomes) :
    printed (account o) <:+: render limit outcomes v := by
  apply printed_isInfix
  apply List.infix_append_of_infix_left
  have passage := isInfix_flatMap (f := fun o => block limit o ++ [[]]) mem
  have front := (account_isPrefix limit o).trans (List.prefix_append _ [[]])
  exact front.isInfix.trans passage

theorem diagnostic_isInfix {k : FailureKind} (holds : o.Holds k) :
    diagnostic o k <:+: account o := by
  rw [account_failing (Outcome.failed_iff.mpr ⟨k, holds⟩)]
  apply List.infix_cons
  exact List.infix_of_mem_flatten (List.mem_map_of_mem (Outcome.mem_kinds_iff.mpr holds))

/-- A matched line is part of the diagnostic on the matches. -/
theorem excerpt_isInfix {m : LineMatch} (found : m ∈ o.matched) :
    excerpt m <:+: diagnostic o .logSignatureMatch := by
  apply List.infix_cons
  exact isInfix_flatMap (f := excerpt) found

theorem cutReport (outcomes : List Outcome) (v : Verdict) :
    CutReport outcomes v account (fun o limit => logBody limit o.logText) (summary v) where
  report limit := by
    simp only [← block_eq]
    rfl
  accounts o _ := account_told o
  logs o _ := logShown o.logText
  diagnosed limit o mem k holds := by
    have part := printed_isInfix (diagnostic_isInfix holds)
    exact ⟨diagnostic o k, diagnosis holds, part.trans (account_isInfix limit v mem)⟩
  quoted limit o mem m found := by
    have holds : o.Holds .logSignatureMatch := List.ne_nil_of_mem found
    have part := (excerpt_isInfix found).trans (diagnostic_isInfix holds)
    exact (printed_isInfix part).trans (account_isInfix limit v mem)

end

/-- A log is shown as it is but for its line ends and as far as a limit goes, and everything else in
a report is shown with every limit. -/
theorem limit_cuts_logs_only (outcomes : List Outcome) (v : Verdict) :
    ∃ account shown closing, CutReport outcomes v account shown closing :=
  ⟨account, _, summary v, cutReport outcomes v⟩

/-- Three lines, of which the second keeps a carriage return and the last one is not ended. -/
def noisyLog : Text := "a\r\nERR\r\r\nc".toList

def noisyOutcome : Outcome :=
  ⟨"svc".toList, true, some 3, noisyLog, [⟨"ERR".toList, "ERR\r".toList⟩], none⟩

/-- The report of the three lines, of which a limit leaves one. -/
def noisyReport : List Text :=
  ["=== svc ===", "[AbnormalExit] exit code 3", "[LogSignatureMatch] 1 matching line(s)",
    "--------", "ERR\r", "--------", "----- log for svc (may be truncated) -----",
    "... (2 earlier lines omitted)", "c", "----- end of log -----", "",
    "FAILED: 1 of 1 services failed: svc"].map String.toList

theorem limit_cuts_logs_only_noisy :
    ∃ account shown closing,
      CutReport [noisyOutcome] (.ofOutcomes [noisyOutcome]) account shown closing ∧
      printed (shown noisyOutcome none) = "a\nERR\r\nc\n".toList ∧
      shown noisyOutcome (some 3) = shown noisyOutcome none ∧
      printed noisyReport = printed (account noisyOutcome ++
        enclosed "svc".toList (shown noisyOutcome (some 1)) ++ [[], closing]) ∧
      printed ["--------".toList, "ERR\r".toList, "--------".toList] <:+:
        render (some 0) [noisyOutcome] (.ofOutcomes [noisyOutcome]) := by
  obtain ⟨account, shown, closing, cut⟩ :=
    limit_cuts_logs_only [noisyOutcome] (.ofOutcomes [noisyOutcome])
  have here : noisyOutcome ∈ [noisyOutcome] := List.mem_cons_self
  have log := cut.logs noisyOutcome here
  refine ⟨account, shown, closing, cut, ?_, ?_, ?_, ?_⟩
  · exact log.whole.trans (by decide)
  · exact log.unlimited 3 (log.count.trans_le (by decide))
  · have due : noisyOutcome.LogDue := by decide
    have whole : noisyReport = lines (some 1) [noisyOutcome] (.ofOutcomes [noisyOutcome]) := by
      decide
    have report := cut.report (some 1)
    rw [List.flatMap_singleton, if_pos due, List.append_assoc] at report
    exact (congrArg printed whole).trans report
  · exact cut.quoted (some 0) noisyOutcome here ⟨"ERR".toList, "ERR\r".toList⟩ (by decide)

end FleetHealth.Report
