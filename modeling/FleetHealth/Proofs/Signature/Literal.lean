import FleetHealth.Proofs.Signature.ByLine
import FleetHealth.Proofs.Signature.Covered
import FleetHealth.Proofs.Signature.Repeats
import FleetHealth.Proofs.Signature.Reported

/- Signatures that are looked for as they stand, line feeds and carriage returns among them. The
   search passes over an occurrence that begins inside the one before it, and what is reported
   has lost carriage returns. Still no occurrence goes by without one of its lines, and no line is
   reported without its signature. -/
namespace FleetHealth

/-- The lines on which the characters of a span are; a line feed is on the line that it ends. -/
def linesTouched (log : Text) (s : Span) : List Text :=
  lineRun (lineIndex log s.start) (lineIndex log (s.stop - 1)) (log.splitOn newline)

/-- What is known of a log that was searched for texts. -/
structure Searched (texts : List Text) (log : Text) (ms : List LineMatch) : Prop where
  alarm : ms ≠ [] ↔ ∃ t ∈ texts, t ≠ [] ∧ t <:+: log
  noticed : ∀ t ∈ texts, t ≠ [] → ∀ n, t <+: log.drop n →
    ∃ line ∈ linesTouched log ⟨n, n + t.length⟩, ∃ m ∈ ms,
      dropReturn line ∈ m.line.splitOn newline
  known : ∀ m ∈ ms, m.signature ∈ texts ∧ m.signature ≠ []
  evident : ∀ m ∈ ms, '\r' ∉ m.signature → m.signature <:+: m.line ++ [newline]

section
variable {texts : List Text} {log t : Text} {m : LineMatch}

theorem describe_hit_of_plain {h : Hit} (here : texts[h.index]? = some t) :
    (Detector.plain texts).describe log h = ⟨t, withoutReturns (h.lines.slice log)⟩ := by
  rw [Detector.describe, Detector.plain, List.getElem?_map, here]
  rfl

/-- What is reported are the lines of an occurrence of its signature. -/
theorem origin_of_plain (mem : m ∈ (Detector.plain texts).scan log) :
    m.signature ∈ texts ∧ ∃ s ∈ occurrences m.signature log,
      m.line = withoutReturns ((s.cover log).slice log) := by
  obtain ⟨h, hit, rfl⟩ := hit_of_mem_scan mem
  obtain ⟨t, here, s, met, covered⟩ := mem_hits_plain_iff.mp hit
  rw [describe_hit_of_plain here, ← covered]
  exact ⟨List.mem_of_getElem? here, s, met, rfl⟩

theorem reported_of_plain (mem : t ∈ texts) {s : Span} (met : s ∈ occurrences t log) :
    ∃ m ∈ (Detector.plain texts).scan log,
      m.line = withoutReturns ((s.cover log).slice log) := by
  obtain ⟨i, here⟩ := List.mem_iff_getElem?.mp mem
  have hit : (⟨s.cover log, i⟩ : Hit) ∈ (Detector.plain texts).hits log :=
    mem_hits_plain_iff.mpr ⟨t, here, s, met, rfl⟩
  obtain ⟨m, found, shown⟩ := mem_scan_of_hit hit
  rw [describe_hit_of_plain here] at shown
  exact ⟨m, found, shown⟩

theorem occurs_of_met {s : Span} (met : s ∈ occurrences t log) : t ≠ [] ∧ t <:+: log := by
  by_contra nothing
  rw [(occurrences_eq_nil_iff t log).mpr nothing] at met
  simp at met

theorem alarm_iff :
    (Detector.plain texts).scan log ≠ [] ↔ ∃ t ∈ texts, t ≠ [] ∧ t <:+: log := by
  constructor
  · intro some_
    obtain ⟨m, mem⟩ := List.exists_mem_of_ne_nil _ some_
    obtain ⟨known, s, met, -⟩ := origin_of_plain mem
    exact ⟨m.signature, known, occurs_of_met met⟩
  · rintro ⟨t, mem, occurs⟩
    have met : occurrences t log ≠ [] := by
      intro nothing
      exact (occurrences_eq_nil_iff t log).mp nothing occurs
    obtain ⟨s, met⟩ := List.exists_mem_of_ne_nil _ met
    obtain ⟨m, found, -⟩ := reported_of_plain mem met
    exact List.ne_nil_of_mem found

/-- The line on which an occurrence begins is reported with the occurrence that was met there. -/
theorem line_of_occurrence (mem : t ∈ texts) (some_ : t ≠ []) {n : Nat}
    (here : t <+: log.drop n) :
    ∃ line ∈ linesTouched log ⟨n, n + t.length⟩,
      ∃ m ∈ (Detector.plain texts).scan log, dropReturn line ∈ m.line.splitOn newline := by
  obtain ⟨s, met, before, behind⟩ := occurrences_meet some_ here
  obtain ⟨m, found, shown⟩ := reported_of_plain mem met
  obtain ⟨start, inside⟩ := occurrences_within met
  have long := List.length_pos_of_ne_nil some_
  -- The first character of the occurrence is one of those that were met.
  have front : lineIndex log s.start ≤ lineIndex log n := lineIndex_mono log before
  have back : lineIndex log n ≤ lineIndex log (s.stop - 1) := lineIndex_mono log (by omega)
  have touched : lineIndex log n ≤ lineIndex log (n + t.length - 1) :=
    lineIndex_mono log (by omega)
  obtain ⟨line, at_⟩ : ∃ line, (cutLines log)[lineIndex log n]? = some line :=
    ⟨_, List.getElem?_eq_getElem (lineIndex_lt_cutLines log n)⟩
  refine ⟨line, ?_, m, found, ?_⟩
  · rw [linesTouched, ← cutLines_eq_splitOn]
    exact mem_lineRun_of_between at_ (Nat.le_refl _) touched
  · rw [← cutLines_eq_splitOn, shown, cutLines_cover start inside, ← lineRun_map]
    exact List.mem_map_of_mem (mem_lineRun_of_between at_ front back)

theorem signature_in_line (mem : m ∈ (Detector.plain texts).scan log)
    (plain : '\r' ∉ m.signature) : m.signature <:+: m.line ++ [newline] := by
  obtain ⟨-, s, met, shown⟩ := origin_of_plain mem
  rw [shown]
  apply infix_withoutReturns plain
  have part := slice_isInfix_cover (t := log) (occurrences_within met).1
  rwa [occurrences_slice met] at part

theorem searched_plain (texts : List Text) (log : Text) :
    Searched texts log ((Detector.plain texts).scan log) where
  alarm := alarm_iff
  noticed _ mem some_ _ here := line_of_occurrence mem some_ here
  known m mem := by
    obtain ⟨known, s, met, -⟩ := origin_of_plain mem
    exact ⟨known, (occurs_of_met met).1⟩
  evident _ mem plain := signature_in_line mem plain

end

/-- Texts make a detector unless one of them is too large, and the detector misses no occurrence
of them and reports nothing else. -/
theorem literal_scan_evident (texts : List Text) :
    ((∃ d, Detector.compile true texts = .ok d) ↔ ∀ t ∈ texts, Fits t) ∧
      ∀ d, Detector.compile true texts = .ok d → ∀ log, Searched texts log (d.scan log) := by
  constructor
  · constructor
    · rintro ⟨d, made⟩
      exact (compile_literal_iff.mp made).1
    · intro fits
      exact ⟨.plain texts, compile_literal_iff.mpr ⟨fits, rfl⟩⟩
  · intro d made log
    obtain ⟨-, rfl⟩ := compile_literal_iff.mp made
    exact searched_plain texts log

def returningTexts : List Text := ["a\na".toList, [], "(\r".toList]

/-- The second occurrence of the first text begins inside the first one. -/
def overlappingLog : Text := "a\na\na\r\n(\r\n".toList

theorem literal_scan_evident_overlapping :
    ∃ d, Detector.compile true returningTexts = .ok d ∧ d.scan overlappingLog =
        [⟨"a\na".toList, "a\na".toList⟩, ⟨"(\r".toList, "(".toList⟩] ∧
      "a\na".toList <+: overlappingLog.drop 2 ∧ ∃ line ∈ linesTouched overlappingLog ⟨2, 5⟩,
        ∃ m ∈ d.scan overlappingLog, dropReturn line ∈ m.line.splitOn newline := by
  have searched := (literal_scan_evident returningTexts).2 _ rfl overlappingLog
  have second : "a\na".toList <+: overlappingLog.drop 2 := by decide
  refine ⟨_, rfl, ?_, second, searched.noticed _ (by decide) (by decide) 2 second⟩
  have ordered : [⟨⟨0, 3⟩, 0⟩, ⟨⟨7, 9⟩, 2⟩].Pairwise fun a b : Hit => a.before b = true := by
    decide
  refine (scan_of_ordered ?_ ordered).trans rfl
  decide

end FleetHealth
