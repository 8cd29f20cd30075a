import FleetHealth.Proofs.Signature.Reported

/- What the order of the signatures is good for. It decides which of several signatures a line is
   reported with, and nothing else: not which lines are reported, and not in which order. -/
namespace FleetHealth

variable {literal : Bool} {texts others : List Text} {d e : Detector} {log : Text}

/-- A hit with the place of its signature forgotten. -/
def Hit.unsigned (h : Hit) : Hit := ⟨h.lines, 0⟩

theorem Leaders.unsigned {hits kept : List Hit} (leaders : Leaders (Hit.text log) hits kept) :
    Leaders (Hit.text log) (hits.map Hit.unsigned) (kept.map Hit.unsigned) where
  ordered := by
    rw [List.pairwise_map]
    refine leaders.ordered.imp ?_
    intro a b before
    rw [Hit.before_iff] at before ⊢
    simp only [Hit.unsigned]
    omega
  found k mem := by
    obtain ⟨h, memH, rfl⟩ := List.mem_map.mp mem
    exact List.mem_map_of_mem (leaders.found h memH)
  distinct := by
    rw [List.map_map]
    exact leaders.distinct
  first h mem := by
    obtain ⟨g, memG, rfl⟩ := List.mem_map.mp mem
    obtain ⟨k, memK, same, before⟩ := leaders.first g memG
    refine ⟨k.unsigned, List.mem_map_of_mem memK, same, ?_⟩
    rw [Hit.before_iff] at before ⊢
    simp only [Hit.unsigned]
    omega

theorem lines_of_leading (d : Detector) (log : Text) :
    (d.scan log).map LineMatch.line =
      ((d.leading log).map Hit.unsigned).map (Hit.text log) := by
  rw [scan_eq_leading, List.map_map, List.map_map]
  rfl

/-- A match of the signature is on the lines of the hit. -/
def Marks (literal : Bool) (log t : Text) (h : Hit) : Prop :=
  ∃ s, Signature.compile literal t = .ok s ∧
    ∃ m ∈ s.matcher.spans log, Hit.mk (m.cover log) 0 = h

theorem mem_unsigned_iff (compiled : Detector.compile literal texts = .ok d) {h : Hit} :
    h ∈ (d.hits log).map Hit.unsigned ↔ ∃ t ∈ texts, Marks literal log t h := by
  rw [List.mem_map]
  constructor
  · rintro ⟨g, hit, rfl⟩
    obtain ⟨s, known, m, mem, covered⟩ := mem_hits_iff.mp hit
    obtain ⟨t, here, made⟩ := (signature_at_iff compiled).mp known
    exact ⟨t, List.mem_of_getElem? here, s, made, m, mem, by rw [covered, Hit.unsigned]⟩
  · rintro ⟨t, mem, s, made, m, found, rfl⟩
    obtain ⟨i, here⟩ := List.mem_iff_getElem?.mp mem
    have known := (signature_at_iff compiled).mpr ⟨t, here, made⟩
    exact ⟨⟨m.cover log, i⟩, mem_hits_iff.mpr ⟨s, known, m, found, rfl⟩, rfl⟩

/-- The same signatures, in any order and any number, are reported with the same lines. -/
theorem lines_of_same (compiled : Detector.compile literal texts = .ok d)
    (compiledToo : Detector.compile literal others = .ok e)
    (same : ∀ t, t ∈ texts ↔ t ∈ others) (log : Text) :
    (d.scan log).map LineMatch.line = (e.scan log).map LineMatch.line := by
  have hits (h : Hit) :
      h ∈ (d.hits log).map Hit.unsigned ↔ h ∈ (e.hits log).map Hit.unsigned := by
    rw [mem_unsigned_iff compiled, mem_unsigned_iff compiledToo]
    simp only [same]
  have kept := (leading_leaders d log).unsigned
  have keptToo := (leading_leaders e log).unsigned
  have keptHere : Leaders (Hit.text log) ((d.hits log).map Hit.unsigned)
      ((e.leading log).map Hit.unsigned) := by
    apply keptToo.of_few
    · exact fun h mem => (hits h).mpr mem
    · intro h mem
      exact ⟨h, (hits h).mp mem, rfl, by simpa using Hit.before_total h h⟩
  rw [lines_of_leading, lines_of_leading, kept.unique keptHere]

theorem mem_lines_iff (compiled : Detector.compile literal texts = .ok d) (log line : Text) :
    line ∈ (d.scan log).map LineMatch.line ↔
      ∃ t ∈ texts, ∃ h, Marks literal log t h ∧ h.text log = line := by
  rw [(reported_scan compiled log).lines]
  constructor
  · rintro ⟨h, found, shows⟩
    have hit := List.mem_map_of_mem (f := Hit.unsigned) ((mem_hitsIn_iff compiled).mp found)
    obtain ⟨t, mem, marks⟩ := (mem_unsigned_iff compiled).mp hit
    exact ⟨t, mem, h.unsigned, marks, shows⟩
  · rintro ⟨t, mem, h, marks, shows⟩
    have found := (mem_unsigned_iff compiled).mpr ⟨t, mem, marks⟩
    obtain ⟨g, hit, rfl⟩ := List.mem_map.mp found
    exact ⟨g, (mem_hitsIn_iff compiled).mpr hit, shows⟩

theorem compiles_of_same (same : ∀ t, t ∈ texts ↔ t ∈ others) :
    (∃ d, Detector.compile literal texts = .ok d) ↔
      ∃ e, Detector.compile literal others = .ok e := by
  rw [compiles_iff, compiles_iff]
  simp only [same]

theorem compiles_append (compiled : Detector.compile literal texts = .ok d)
    (compiledToo : Detector.compile literal others = .ok e) :
    ∃ both, Detector.compile literal (texts ++ others) = .ok both := by
  have first := compiles_iff.mp ⟨d, compiled⟩
  have second := compiles_iff.mp ⟨e, compiledToo⟩
  apply compiles_iff.mpr
  intro t mem
  rcases List.mem_append.mp mem with mem | mem
  · exact first t mem
  · exact second t mem

theorem mem_lines_append_iff {both : Detector} (compiled : Detector.compile literal texts = .ok d)
    (compiledToo : Detector.compile literal others = .ok e)
    (compiledBoth : Detector.compile literal (texts ++ others) = .ok both) (log line : Text) :
    line ∈ (both.scan log).map LineMatch.line ↔
      line ∈ (d.scan log).map LineMatch.line ∨ line ∈ (e.scan log).map LineMatch.line := by
  rw [mem_lines_iff compiledBoth, mem_lines_iff compiled, mem_lines_iff compiledToo]
  simp only [List.mem_append, or_and_right, exists_or]

theorem scan_eq_nil_of_lines {both : Detector}
    (lines : ∀ line, line ∈ (both.scan log).map LineMatch.line ↔
      line ∈ (d.scan log).map LineMatch.line ∨ line ∈ (e.scan log).map LineMatch.line) :
    both.scan log = [] ↔ d.scan log = [] ∧ e.scan log = [] := by
  have none_ (f : Detector) :
      f.scan log = [] ↔ ∀ line, line ∉ (f.scan log).map LineMatch.line := by
    rw [← List.eq_nil_iff_forall_not_mem, List.map_eq_nil_iff]
  rw [none_, none_ d, none_ e]
  simp only [lines, not_or, forall_and]

/-- Two lists of the same signatures are reported with the same lines in the same order, and two
lists together with the lines of either. -/
theorem scan_lines_by_set (literal : Bool) (texts others : List Text) :
    ((∀ t, t ∈ texts ↔ t ∈ others) →
      ((∃ d, Detector.compile literal texts = .ok d) ↔
        ∃ e, Detector.compile literal others = .ok e) ∧
      ∀ d e, Detector.compile literal texts = .ok d → Detector.compile literal others = .ok e →
        ∀ log, (d.scan log).map LineMatch.line = (e.scan log).map LineMatch.line) ∧
    ∀ d e, Detector.compile literal texts = .ok d → Detector.compile literal others = .ok e →
      ∃ both, Detector.compile literal (texts ++ others) = .ok both ∧ ∀ log,
        (∀ line, line ∈ (both.scan log).map LineMatch.line ↔
          line ∈ (d.scan log).map LineMatch.line ∨ line ∈ (e.scan log).map LineMatch.line) ∧
        (both.scan log = [] ↔ d.scan log = [] ∧ e.scan log = []) := by
  constructor
  · intro same
    refine ⟨compiles_of_same same, ?_⟩
    intro d e compiled compiledToo log
    exact lines_of_same compiled compiledToo same log
  · intro d e compiled compiledToo
    obtain ⟨both, compiledBoth⟩ := compiles_append compiled compiledToo
    refine ⟨both, compiledBoth, ?_⟩
    intro log
    have lines := mem_lines_append_iff compiled compiledToo compiledBoth log
    exact ⟨lines, scan_eq_nil_of_lines lines⟩

def labelTexts : List Text := ["ab".toList, "a".toList]

def shuffledTexts : List Text := ["a".toList, "ab".toList, "a".toList]

def labelLog : Text := "b a\r\nab\nb".toList

theorem scan_lines_by_set_shuffled :
    ∃ d e both, Detector.compile true labelTexts = .ok d ∧
      Detector.compile true shuffledTexts = .ok e ∧
      Detector.compile true (labelTexts ++ shuffledTexts) = .ok both ∧
      d.scan labelLog = [⟨"a".toList, "b a".toList⟩, ⟨"ab".toList, "ab".toList⟩] ∧
      e.scan labelLog = [⟨"a".toList, "b a".toList⟩, ⟨"a".toList, "ab".toList⟩] ∧
      (d.scan labelLog).map LineMatch.line = (e.scan labelLog).map LineMatch.line ∧
      (both.scan labelLog = [] ↔ d.scan labelLog = [] ∧ e.scan labelLog = []) := by
  have by_set := scan_lines_by_set true labelTexts shuffledTexts
  have same : ∀ t, t ∈ labelTexts ↔ t ∈ shuffledTexts := by
    simp [labelTexts, shuffledTexts, or_comm]
  obtain ⟨both, made, together⟩ := by_set.2 _ _ rfl rfl
  have first : [⟨⟨0, 4⟩, 1⟩, ⟨⟨5, 7⟩, 0⟩, ⟨⟨5, 7⟩, 1⟩].Pairwise
      fun a b : Hit => a.before b = true := by decide
  have second : [⟨⟨0, 4⟩, 0⟩, ⟨⟨0, 4⟩, 2⟩, ⟨⟨5, 7⟩, 0⟩, ⟨⟨5, 7⟩, 1⟩, ⟨⟨5, 7⟩, 2⟩].Pairwise
      fun a b : Hit => a.before b = true := by decide
  refine ⟨_, _, both, rfl, rfl, made, ?_, ?_, (by_set.1 same).2 _ _ rfl rfl labelLog,
    (together labelLog).2⟩
  · refine (scan_of_ordered ?_ first).trans rfl
    decide
  · refine (scan_of_ordered ?_ second).trans rfl
    decide

end FleetHealth
