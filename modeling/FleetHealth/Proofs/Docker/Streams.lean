import FleetHealth.Docker.Backend
import FleetHealth.Proofs.Signature.ByLine
import FleetHealth.Proofs.Signature.Repeats

/- The log of a container is made of what it wrote and of what it wrote as errors. No line of the one
   is joined to a line of the other, so what is found in the log is what is found in the two. -/
namespace FleetHealth

/-- The lines in which a text occurs, repeats included. -/
def matchingLines (texts : List Text) (log : Text) : List LineMatch :=
  (log.splitOn newline).filterMap fun line =>
    (texts.find? (occursIn line)).map fun t => ⟨t, dropReturn line⟩

theorem matchingLines_nil (texts : List Text) : matchingLines texts [] = [] := by
  have none_ : texts.find? (occursIn []) = none := by
    simp [occursIn]
  simp [matchingLines, none_]

theorem matchingLines_line (texts : List Text) (out err : Text) :
    matchingLines texts (out ++ newline :: err) =
      matchingLines texts out ++ matchingLines texts err := by
  unfold matchingLines
  rw [List.splitOn_append_cons_self, List.filterMap_append]

/-- A line feed at the end begins no line with a text in it. -/
theorem matchingLines_ended (texts : List Text) (out : Text) :
    matchingLines texts (out ++ [newline]) = matchingLines texts out := by
  rw [matchingLines_line, matchingLines_nil, List.append_nil]

theorem matchingLines_joinStreams (texts : List Text) (out err : Text) :
    matchingLines texts (Docker.joinStreams out err) =
      matchingLines texts out ++ matchingLines texts err := by
  unfold Docker.joinStreams
  split
  · rename_i silent
    rw [List.isEmpty_iff.mp silent, matchingLines_nil, List.append_nil]
  · split
    · rename_i silent
      rw [List.isEmpty_iff.mp silent, matchingLines_nil, List.nil_append]
    · split
      · rename_i ended
        obtain ⟨lines, rfl⟩ := List.getLast?_eq_some_iff.mp ended
        rw [List.append_assoc, List.singleton_append, matchingLines_line, matchingLines_ended]
      · exact matchingLines_line texts out err

theorem scanByLine_eq (texts : List Text) (log : Text) :
    scanByLine texts log = firstOfLines [] (matchingLines texts log) :=
  (firstOfLines_eq_eraseDupsBy _).symm

theorem scanByLine_joinStreams (texts : List Text) (out err : Text) :
    scanByLine texts (Docker.joinStreams out err) =
      firstOfLines [] (scanByLine texts out ++ scanByLine texts err) := by
  rw [scanByLine_eq, scanByLine_eq, scanByLine_eq, matchingLines_joinStreams, firstOfLines_both]

theorem scan_of_joined_streams {texts : List Text} (plain : ∀ t ∈ texts, newline ∉ t)
    {d : Detector} (made : Detector.compile true texts = .ok d) (out err : Text) :
    d.scan (Docker.joinStreams out err) =
      (d.scan out ++ d.scan err).eraseDupsBy (fun a b => a.line == b.line) ∧
    (∀ m ∈ d.scan (Docker.joinStreams out err), m ∈ d.scan out ∨ m ∈ d.scan err) ∧
    ∀ m, m ∈ d.scan out ∨ m ∈ d.scan err →
      ∃ n ∈ d.scan (Docker.joinStreams out err), n.line = m.line := by
  obtain ⟨-, rfl⟩ := compile_literal_iff.mp made
  simp only [scan_plain plain, scanByLine_joinStreams]
  refine ⟨firstOfLines_eq_eraseDupsBy _, fun m mem => ?_, fun m found => ?_⟩
  · exact List.mem_append.mp (firstOfLines_subset _ _ mem)
  · have line := List.mem_map_of_mem (f := LineMatch.line) (List.mem_append.mpr found)
    have kept := (mem_lines_firstOfLines [] _ m.line).mpr (Or.inl line)
    simpa using kept

def levels : List Text := ["ERR".toList, "WARN".toList]

/-- The last line before the errors has no line feed, and the first of them repeats it. -/
def repeatedOut : Text := "ok\r\nERR one\r".toList

def repeatedErr : Text := "ERR one\nWARN two".toList

theorem scan_of_joined_streams_repeated :
    ∃ d, Detector.compile true levels = .ok d ∧
      d.scan repeatedOut = [⟨"ERR".toList, "ERR one".toList⟩] ∧
      d.scan repeatedErr =
        [⟨"ERR".toList, "ERR one".toList⟩, ⟨"WARN".toList, "WARN two".toList⟩] ∧
      d.scan (Docker.joinStreams repeatedOut repeatedErr) =
        [⟨"ERR".toList, "ERR one".toList⟩, ⟨"WARN".toList, "WARN two".toList⟩] := by
  have plain : ∀ t ∈ levels, newline ∉ t := by decide
  have fits : ∀ t ∈ levels, Fits t := by
    simp only [fits_iff_size]
    decide
  have made := compile_literal_iff.mpr ⟨fits, rfl⟩
  have out := scan_plain plain repeatedOut
  have err := scan_plain plain repeatedErr
  have joined := (scan_of_joined_streams plain made repeatedOut repeatedErr).1
  rw [out, err] at joined
  exact ⟨_, made, out.trans (by decide), err.trans (by decide), joined.trans (by decide)⟩

end FleetHealth
