import FleetHealth.Proofs.Report.Log
import FleetHealth.Proofs.Signature.ByLine
import FleetHealth.Proofs.Signature.Covered
import FleetHealth.Proofs.Signature.Repeats
import FleetHealth.Proofs.Signature.Reported

/- The lines that a scan reports and those that a report prints of the same log. They are cut in two
   ways, which differ in one place: a carriage return at the very end of the log ends no line, and
   so it is printed, but it is missing in what the scan reports. -/
namespace FleetHealth

variable {d : Detector} {log : Text} {m : LineMatch} {s : Span}

/-- What a scan reports is a run of the lines of the log, each without its carriage return. -/
theorem lines_of_scan (mem : m ∈ d.scan log) :
    ∃ s : Span, s.start < s.stop ∧ s.stop ≤ log.length ∧
      cutLines m.line = lineRun (lineIndex log s.start) (lineIndex log (s.stop - 1))
        ((cutLines log).map dropReturn) := by
  obtain ⟨h, hit, rfl⟩ := hit_of_mem_scan mem
  obtain ⟨signature, -, s, found, covered⟩ := mem_hits_iff.mp hit
  obtain ⟨some_, inside⟩ := spans_within found
  refine ⟨s, some_, inside, ?_⟩
  rw [Detector.describe, ← covered, cutLines_cover some_ inside]

/-- A log that does not end with a carriage return is printed line by line as it is scanned. -/
theorem lines_printed (mem : m ∈ d.scan log) (open_ : log.getLast? ≠ some '\r') :
    cutLines m.line <:+: readLines log := by
  obtain ⟨s, some_, inside, lines⟩ := lines_of_scan mem
  have last : lineIndex log (s.stop - 1) < (readLines log).length :=
    lineIndex_lt_readLines (by omega)
  rw [lines, lineRun_of_begins (readLines_begins open_) last]
  exact lineRun_isInfix _ _ _

theorem lines_almost_printed (mem : m ∈ d.scan log) (ends : log.getLast? = some '\r') :
    ∃ earlier last, readLines log = earlier ++ [last ++ ['\r']] ∧
      cutLines m.line <:+: earlier ++ [last] := by
  obtain ⟨earlier, last, read, cut⟩ := readLines_of_return ends
  obtain ⟨s, _, _, lines⟩ := lines_of_scan mem
  refine ⟨earlier, last, read, ?_⟩
  rw [lines, ← cut]
  exact lineRun_isInfix _ _ _

/-- The printed lines are those with the match, with more behind the last one at most. -/
theorem lines_printed_before (mem : m ∈ d.scan log) :
    ∃ earlier last more, readLines log = earlier ++ [last ++ more] ∧
      cutLines m.line <:+: earlier ++ [last] := by
  by_cases ends : log.getLast? = some '\r'
  · obtain ⟨earlier, last, read, part⟩ := lines_almost_printed mem ends
    exact ⟨earlier, last, ['\r'], read, part⟩
  · have part := lines_printed mem ends
    rcases List.eq_nil_or_concat' (readLines log) with none_ | ⟨earlier, last, read⟩
    · rw [none_, List.infix_nil] at part
      exact absurd part (cutLines_ne_nil m.line)
    · rw [read] at part ⊢
      exact ⟨earlier, last, [], by rw [List.append_nil], part⟩

theorem joinLines_printed {run earlier : List Text} {last : Text} (more : Text)
    (part : run <:+: earlier ++ [last]) :
    joinLines run <:+: (earlier ++ [last ++ more]).flatMap (· ++ [newline]) := by
  refine (joinLines_isInfix part).trans ?_
  rw [joinLines_snoc, List.flatMap_append]
  exact ⟨[], more ++ [newline], by simp⟩

/-- The lines of a match are printed one behind the other in the log section of a block, unless the
log ends with a carriage return: that one is printed, and is missing in a match on the last line. -/
theorem excerpts_printed (d : Detector) (o : Outcome) (due : o.LogDue) {m : LineMatch}
    (mem : m ∈ d.scan o.logText) :
    ∃ front printed, Report.block none o = front ++ Report.enclosed o.name printed ∧
      Report.Account o front ∧
      (o.logText.getLast? ≠ some '\r' → m.line.splitOn newline <:+: printed) ∧
      (o.logText.getLast? = some '\r' → ∃ earlier last, printed = earlier ++ [last ++ ['\r']] ∧
        m.line.splitOn newline <:+: earlier ++ [last]) ∧
      m.line <:+: printed.flatMap (· ++ [newline]) := by
  refine ⟨Report.account o, readLines o.logText, ?_, Report.account_told o, ?_⟩
  · rw [Report.block_eq, if_pos due, Report.logBody_none]
  · rw [← cutLines_eq_splitOn]
    refine ⟨lines_printed mem, lines_almost_printed mem, ?_⟩
    obtain ⟨earlier, last, more, read, part⟩ := lines_printed_before mem
    have text := joinLines_printed more part
    rwa [joinLines_cutLines, ← read] at text

def errors : List Text := ["ERR".toList]

/-- One carriage return belongs to the end of the line, the other one to the line. -/
def returningOutcome : Outcome :=
  ⟨"svc".toList, true, some 0, "ok\r\nERR one\r\r\n\nbye".toList,
    [⟨"ERR".toList, "ERR one\r".toList⟩], none⟩

theorem excerpts_printed_returning :
    returningOutcome.matched = (Detector.plain errors).scan returningOutcome.logText ∧
      ∃ front printed,
        Report.block none returningOutcome = front ++ Report.enclosed "svc".toList printed ∧
        "ERR one\r".toList.splitOn newline <:+: printed := by
  have plain : ∀ t ∈ errors, newline ∉ t := by decide
  have scanned : returningOutcome.matched =
      (Detector.plain errors).scan returningOutcome.logText := by
    rw [scan_plain plain]
    decide
  have mem : (⟨"ERR".toList, "ERR one\r".toList⟩ : LineMatch) ∈
      (Detector.plain errors).scan returningOutcome.logText := by
    rw [← scanned]
    decide
  have due : returningOutcome.LogDue := by decide
  have open_ : returningOutcome.logText.getLast? ≠ some '\r' := by decide
  obtain ⟨front, printed, block, -, run, -⟩ :=
    excerpts_printed (Detector.plain errors) returningOutcome due mem
  exact ⟨scanned, front, printed, block, run open_⟩

/-- The last line of this log is not ended. -/
def openOutcome : Outcome :=
  ⟨"svc".toList, true, some 0, "ERR boom\r".toList, [⟨"ERR".toList, "ERR boom".toList⟩], none⟩

theorem open_return_not_printed :
    ¬ ∀ (d : Detector) (o : Outcome), o.matched = d.scan o.logText → ∀ m ∈ o.matched,
      ∃ front printed, Report.block none o = front ++ Report.enclosed o.name printed ∧
        m.line.splitOn newline <:+: printed := by
  intro claimed
  have plain : ∀ t ∈ errors, newline ∉ t := by decide
  have scanned : openOutcome.matched = (Detector.plain errors).scan openOutcome.logText := by
    rw [scan_plain plain]
    decide
  obtain ⟨front, printed, block, run⟩ :=
    claimed (Detector.plain errors) openOutcome scanned _ List.mem_cons_self
  have line : "ERR boom".toList ∈ printed := run.subset (by decide)
  -- A log begins with its header, and behind that one the line stands nowhere in the block.
  have behind : ["----- log for svc (may be truncated) -----".toList, "ERR boom".toList].Sublist
      (Report.block none openOutcome) := by
    rw [block]
    apply List.sublist_append_of_sublist_right
    apply List.sublist_append_of_sublist_left
    exact (List.singleton_sublist.mpr line).cons_cons _
  exact absurd behind (by decide)

end FleetHealth
