import FleetHealth.Proofs.Pattern.Bounds
import FleetHealth.Proofs.Signature.Compiled
import FleetHealth.Proofs.Signature.Cover
import FleetHealth.Proofs.Signature.Leaders
import Mathlib.Data.Prod.Lex
import Mathlib.Data.Set.Basic

/- What a scan reports, said without the order in which it works. The hits of a log are a set: the lines
   that non-empty matches touch, with the places of their signatures. They come in the lexicographic
   order of their numbers, and the first hit with a text decides how the text is reported. -/
namespace FleetHealth

/-- The matches from left to right, those of nothing among them. -/
def Matcher.allSpans (log : Text) : Matcher → List Span
  | .literal needle =>
    if needle = [] then (List.range (log.length + 1)).map fun i => ⟨i, i⟩
    else occurrences needle log
  | .pattern a => a.matchesIn log

variable {log : Text} {s : Span}

theorem spans_eq_filter (m : Matcher) (log : Text) :
    m.spans log = (m.allSpans log).filter fun s => s.start < s.stop := by
  cases m with
  | pattern a => rfl
  | literal needle =>
    simp only [Matcher.spans, Matcher.allSpans]
    by_cases nothing : needle = []
    · simp [nothing, occurrences]
    · rw [if_neg nothing, eq_comm, List.filter_eq_self]
      exact fun s mem => decide_eq_true (occurrences_within mem).1

theorem mem_spans_iff {m : Matcher} :
    s ∈ m.spans log ↔ s ∈ m.allSpans log ∧ s.start < s.stop := by
  rw [spans_eq_filter, List.mem_filter, decide_eq_true_eq]

theorem spans_within {m : Matcher} (mem : s ∈ m.spans log) :
    s.start < s.stop ∧ s.stop ≤ log.length := by
  cases m with
  | literal needle => exact occurrences_within mem
  | pattern a =>
    obtain ⟨found, some_⟩ := mem_spans_iff.mp mem
    exact ⟨some_, Pattern.Automaton.matchesIn_stop_le found⟩

namespace Hit

/-- The numbers of a hit, which are compared one after the other. -/
def triple (h : Hit) : ℕ ×ₗ ℕ ×ₗ ℕ := toLex (h.lines.start, toLex (h.lines.stop, h.index))

/-- The text that is reported for a hit. -/
def text (log : Text) (h : Hit) : Text := withoutReturns (h.lines.slice log)

variable {a b : Hit}

theorem before_iff_triple : a.before b = true ↔ a.triple ≤ b.triple := by
  rw [before_iff, triple, triple, Prod.Lex.toLex_le_toLex, Prod.Lex.toLex_le_toLex]

theorem triple_injective (same : a.triple = b.triple) : a = b :=
  before_antisymm (before_iff_triple.mpr same.le) (before_iff_triple.mpr same.ge)

theorem triple_lt (before : a.before b = true) (other : a ≠ b) : a.triple < b.triple :=
  lt_of_le_of_ne (before_iff_triple.mp before) fun same => other (triple_injective same)

end Hit

/-- The hits that a scan reports. -/
def Detector.leading (d : Detector) (log : Text) : List Hit :=
  unseen (Hit.text log) [] ((d.hits log).mergeSort Hit.before)

theorem leading_leaders (d : Detector) (log : Text) :
    Leaders (Hit.text log) (d.hits log) (d.leading log) := by
  have kept := unseen_leaders (Hit.text log) (sorted_hits (d.hits log))
  apply kept.of_few
  · exact fun h mem => List.mem_mergeSort.mp mem
  · intro h mem
    exact ⟨h, List.mem_mergeSort.mpr mem, rfl, by simpa using Hit.before_total h h⟩

theorem scan_eq_leading (d : Detector) (log : Text) :
    d.scan log = (d.leading log).map (d.describe log) :=
  firstOfLines_map (d.describe log) [] _

/-- The lines that a non-empty match touches, and which signature it is of. -/
def hitsIn (literal : Bool) (texts : List Text) (log : Text) : Set Hit :=
  {h | ∃ t s, texts[h.index]? = some t ∧ Signature.compile literal t = .ok s ∧
    ∃ m ∈ s.matcher.allSpans log, m.start < m.stop ∧ m.cover log = h.lines}

/-- No hit with the text comes before this one. -/
structure Leads (hits : Set Hit) (log line : Text) (h : Hit) : Prop where
  found : h ∈ hits
  shows : h.text log = line
  least : ∀ g ∈ hits, g.text log = line → h.triple ≤ g.triple

theorem Leads.unique {hits : Set Hit} {line : Text} {g h : Hit} (a : Leads hits log line g)
    (b : Leads hits log line h) : g = h :=
  Hit.triple_injective
    (le_antisymm (a.least h b.found b.shows) (b.least g a.found a.shows))

structure Reported (texts : List Text) (hits : Set Hit) (log : Text) (ms : List LineMatch) :
    Prop where
  distinct : (ms.map LineMatch.line).Nodup
  lines : ∀ line, line ∈ ms.map LineMatch.line ↔ ∃ h ∈ hits, h.text log = line
  signed : ∀ m ∈ ms, ∃ h, Leads hits log m.line h ∧ texts[h.index]? = some m.signature
  ordered : ms.Pairwise fun m n =>
    ∀ g h, Leads hits log m.line g → Leads hits log n.line h → g.triple < h.triple

namespace Reported
variable {texts : List Text} {hits : Set Hit} {ms ns : List LineMatch}

theorem subset (a : Reported texts hits log ms) (b : Reported texts hits log ns) : ms ⊆ ns := by
  intro m mem
  obtain ⟨n, memN, same⟩ := List.mem_map.mp
    ((b.lines m.line).mpr ((a.lines m.line).mp (List.mem_map_of_mem mem)))
  obtain ⟨g, leads, signature⟩ := a.signed m mem
  obtain ⟨h, leadsToo, signatureToo⟩ := b.signed n memN
  rw [same] at leadsToo
  rw [leads.unique leadsToo, signatureToo] at signature
  obtain ⟨_, _⟩ := m
  obtain ⟨_, _⟩ := n
  cases same
  cases signature
  exact memN

/-- There is one way only to report hits. -/
theorem unique (a : Reported texts hits log ms) (b : Reported texts hits log ns) : ms = ns := by
  have same : ms.Perm ns :=
    (List.perm_ext_iff_of_nodup a.distinct.of_map b.distinct.of_map).mpr fun m =>
      ⟨fun mem => a.subset b mem, fun mem => b.subset a mem⟩
  refine same.eq_of_pairwise (fun m n memM memN earlier later => ?_) a.ordered b.ordered
  obtain ⟨g, leads, -⟩ := a.signed m memM
  obtain ⟨h, leadsToo, -⟩ := b.signed n memN
  exact absurd (later h g leadsToo leads) (earlier g h leads leadsToo).asymm

end Reported

section
variable {literal : Bool} {texts : List Text} {d : Detector} {h : Hit}

theorem mem_hitsIn_iff (compiled : Detector.compile literal texts = .ok d) :
    h ∈ hitsIn literal texts log ↔ h ∈ d.hits log := by
  rw [mem_hits_iff]
  simp only [signature_at_iff compiled, mem_spans_iff]
  constructor
  · rintro ⟨t, s, here, made, m, mem, some_, covered⟩
    exact ⟨s, ⟨t, here, made⟩, m, ⟨mem, some_⟩, covered⟩
  · rintro ⟨s, ⟨t, here, made⟩, m, ⟨mem, some_⟩, covered⟩
    exact ⟨t, s, here, made, m, mem, some_, covered⟩

theorem describe_signature (compiled : Detector.compile literal texts = .ok d)
    (mem : h ∈ hitsIn literal texts log) :
    texts[h.index]? = some (d.describe log h).signature := by
  obtain ⟨t, s, here, made, -⟩ := mem
  have known := (signature_at_iff compiled).mpr ⟨t, here, made⟩
  rw [here, Detector.describe, known, Option.map_some, Option.getD_some, text_of_compiled made]

theorem leads_of_kept {kept : List Hit} {k : Hit}
    (leaders : Leaders (Hit.text log) (d.hits log) kept)
    (compiled : Detector.compile literal texts = .ok d) (mem : k ∈ kept) :
    Leads (hitsIn literal texts log) log (k.text log) k where
  found := (mem_hitsIn_iff compiled).mpr (leaders.found k mem)
  shows := rfl
  least g found same := by
    obtain ⟨l, memL, sameToo, before⟩ := leaders.first g ((mem_hitsIn_iff compiled).mp found)
    obtain rfl : l = k := List.inj_on_of_nodup_map leaders.distinct memL mem (sameToo.trans same)
    exact Hit.before_iff_triple.mp before

theorem reported_of_leaders {kept : List Hit}
    (leaders : Leaders (Hit.text log) (d.hits log) kept)
    (compiled : Detector.compile literal texts = .ok d) :
    Reported texts (hitsIn literal texts log) log (kept.map (d.describe log)) where
  distinct := by
    rw [List.map_map]
    exact leaders.distinct
  lines line := by
    rw [List.map_map, List.mem_map]
    constructor
    · rintro ⟨k, mem, shows⟩
      exact ⟨k, (mem_hitsIn_iff compiled).mpr (leaders.found k mem), shows⟩
    · rintro ⟨h, found, rfl⟩
      obtain ⟨k, mem, same, -⟩ := leaders.first h ((mem_hitsIn_iff compiled).mp found)
      exact ⟨k, mem, same⟩
  signed m mem := by
    obtain ⟨k, memK, rfl⟩ := List.mem_map.mp mem
    have leads := leads_of_kept leaders compiled memK
    exact ⟨k, leads, describe_signature compiled leads.found⟩
  ordered := by
    rw [List.pairwise_map]
    have distinct := List.pairwise_map.mp leaders.distinct
    refine (leaders.ordered.and distinct).imp_of_mem ?_
    rintro k l memK memL ⟨before, other⟩ g h leads leadsToo
    rw [leads.unique (leads_of_kept leaders compiled memK),
      leadsToo.unique (leads_of_kept leaders compiled memL)]
    exact Hit.triple_lt before fun same => other (congrArg (Hit.text log) same)

theorem reported_scan (compiled : Detector.compile literal texts = .ok d) (log : Text) :
    Reported texts (hitsIn literal texts log) log (d.scan log) := by
  rw [scan_eq_leading]
  exact reported_of_leaders (leading_leaders d log) compiled

theorem hitsIn_empty (nothing : log = [] ∨ texts = []) : hitsIn literal texts log = ∅ := by
  rw [Set.eq_empty_iff_forall_notMem]
  rintro h ⟨t, s, here, -, m, mem, some_, -⟩
  rcases nothing with rfl | rfl
  · have inside := (spans_within (mem_spans_iff.mpr ⟨mem, some_⟩)).2
    rw [List.length_nil] at inside
    omega
  · simp at here

theorem reported_empty : Reported texts ∅ log [] where
  distinct := List.nodup_nil
  lines line := by simp
  signed m mem := absurd mem List.not_mem_nil
  ordered := List.Pairwise.nil

end

/-- The report on the hits of a log is what a scan gives and nothing else. -/
theorem scan_exact (literal : Bool) (texts : List Text) {d : Detector}
    (compiled : Detector.compile literal texts = .ok d) (log : Text) :
    (∀ ms, Reported texts (hitsIn literal texts log) log ms ↔ ms = d.scan log) ∧
      (log = [] ∨ texts = [] → d.scan log = []) := by
  have reported := reported_scan compiled log
  constructor
  · intro ms
    constructor
    · exact fun other => other.unique reported
    · rintro rfl
      exact reported
  · intro nothing
    rw [hitsIn_empty nothing] at reported
    exact reported.unique reported_empty

/-- Hits in order are reported as they come. -/
theorem scan_of_ordered {d : Detector} {hits : List Hit} (same : (d.hits log).Perm hits)
    (ordered : hits.Pairwise fun a b => a.before b = true) :
    d.scan log = firstOfLines [] (hits.map (d.describe log)) := by
  have sorted : (d.hits log).mergeSort Hit.before = hits :=
    ((List.mergeSort_perm _ _).trans same).eq_of_pairwise
      (fun _ _ _ _ => Hit.before_antisymm) (sorted_hits _) ordered
  rw [Detector.scan, sorted]

def nestedTexts : List Text := ["b\na".toList, "ab".toList, [], "a".toList]

/-- The line of `ab` stands alone once and in front of another line of a match once. -/
def nestedLog : Text := "a\r\nab\r\nab\na".toList

def nestedHits : List Hit := [⟨⟨0, 2⟩, 3⟩, ⟨⟨3, 6⟩, 1⟩, ⟨⟨3, 6⟩, 3⟩, ⟨⟨7, 9⟩, 1⟩, ⟨⟨7, 9⟩, 3⟩,
  ⟨⟨7, 11⟩, 0⟩, ⟨⟨10, 11⟩, 3⟩]

theorem scan_exact_nested :
    ∃ d, Detector.compile true nestedTexts = .ok d ∧ d.scan nestedLog =
        [⟨"a".toList, "a".toList⟩, ⟨"ab".toList, "ab".toList⟩,
          ⟨"b\na".toList, "ab\na".toList⟩] ∧
      Reported nestedTexts (hitsIn true nestedTexts nestedLog) nestedLog (d.scan nestedLog) := by
  refine ⟨_, rfl, ?_, ((scan_exact true nestedTexts rfl nestedLog).1 _).mpr rfl⟩
  have ordered : nestedHits.Pairwise fun a b => a.before b = true := by decide
  refine (scan_of_ordered ?_ ordered).trans rfl
  decide

end FleetHealth
