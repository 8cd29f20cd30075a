import FleetHealth.Proofs.Signature.Compiled
import FleetHealth.Proofs.Signature.Cover
import FleetHealth.Proofs.Signature.Leaders

/- A log that is read line by line, for signatures that are texts without line feeds. The scan knows
   no lines; it looks for one signature after the other in the whole log, and finds the same. -/
namespace FleetHealth

def occursIn (line t : Text) : Bool := !t.isEmpty && decide (t <:+: line)

/-- Each line in which a text that is not empty occurs, with the first such text; of lines that are
the same but for a carriage return at the end only the first stays. -/
def scanByLine (texts : List Text) (log : Text) : List LineMatch :=
  ((log.splitOn newline).filterMap fun line =>
    (texts.find? (occursIn line)).map fun t => ⟨t, dropReturn line⟩).eraseDupsBy
      fun a b => a.line == b.line

/-- A text that is looked for as it stands, with no character in it that means another. -/
def Signature.plain (t : Text) : Signature := ⟨t, .literal t⟩

/-- The automaton of the text is not too large. -/
def Fits (t : Text) : Prop := (Pattern.Term.literal t).automatonBytes ≤ Pattern.sizeLimit

theorem fits_iff_size {t : Text} : Fits t ↔ Utf8.size t ≤ 327673 := by
  have forwards : (Pattern.Term.literal t).automatonBytes = 208 + 32 * Utf8.size t := by
    simp only [Pattern.Term.automatonBytes, Pattern.Term.bytes, Pattern.overheadBytes,
      Pattern.forkBytes, Pattern.stateBytes, Pattern.branchBytes, Pattern.transitionBytes]
    omega
  rw [Fits, forwards, Pattern.sizeLimit]
  omega

theorem compile_plain_iff {t : Text} {s : Signature} :
    Signature.compile true t = .ok s ↔ Fits t ∧ s = .plain t := by
  unfold Signature.compile Matcher.ofText Fits
  rw [if_pos rfl]
  split
  · rename_i m made
    split at made
    · simp at made
    · rename_i fits
      obtain rfl := Except.ok.inj made
      simp [Nat.le_of_not_lt fits, Signature.plain, eq_comm]
  · rename_i f made
    split at made
    · rename_i large
      simp [Nat.not_le.mpr large]
    · simp at made

def Detector.plain (texts : List Text) : Detector := ⟨texts.map .plain⟩

theorem compile_literal_iff {texts : List Text} {d : Detector} :
    Detector.compile true texts = .ok d ↔
      (∀ t ∈ texts, Fits t) ∧ d = .plain texts := by
  have plain (ss : List Signature) :
      List.Forall₂ (fun t s => s = .plain t) texts ss ↔ texts.map .plain = ss := by
    rw [← List.forall₂_eq_eq_eq, List.forall₂_map_left_iff]
    simp only [eq_comm]
  rw [compile_ok_iff]
  simp only [compile_plain_iff]
  rw [List.forall₂_and_left, plain]
  obtain ⟨signatures⟩ := d
  simp [Detector.plain, eq_comm]

theorem occursIn_iff {line t : Text} : occursIn line t = true ↔ t ≠ [] ∧ t <:+: line := by
  simp [occursIn]

theorem occursIn_iff_occurrence {line t : Text} :
    occursIn line t = true ↔ ∃ m, m ∈ occurrences t line := by
  rw [occursIn_iff, ← not_iff_not, ← occurrences_eq_nil_iff, List.eq_nil_iff_forall_not_mem,
    not_exists]

/-- An occurrence is covered by a line in which the text occurs, and every such line covers one. -/
theorem cover_occurrences {needle : Text} (plain : newline ∉ needle) (log : Text) (s : Span) :
    (∃ m ∈ occurrences needle log, m.cover log = s) ↔
      ∃ p ∈ linesOf log, p.place = s ∧ occursIn p.line needle = true := by
  induction log using line_induction generalizing s with
  | last line single =>
    have covered : ∀ m ∈ occurrences needle line, m.cover line = ⟨0, line.length⟩ := by
      intro m mem
      obtain ⟨some_, inside⟩ := occurrences_within mem
      have whole := cover_inside single (Or.inl rfl) some_ inside
      rwa [List.append_nil] at whole
    rw [linesOf_last single]
    simp only [List.mem_singleton, exists_eq_left, occursIn_iff_occurrence]
    constructor
    · rintro ⟨m, mem, rfl⟩
      exact ⟨(covered m mem).symm, m, mem⟩
    · rintro ⟨rfl, m, mem⟩
      exact ⟨m, mem, covered m mem⟩
  | more line rest single ih =>
    -- No occurrence reaches across the line feed, so it is one of the line or one behind it.
    have front : ∀ m ∈ occurrences needle line,
        m.cover (line ++ newline :: rest) = ⟨0, line.length⟩ := by
      intro m mem
      obtain ⟨some_, inside⟩ := occurrences_within mem
      exact cover_inside single (Or.inr ⟨rest, rfl⟩) some_ inside
    have behind : ∀ m ∈ occurrences needle rest,
        (m.shift (line.length + 1)).cover (line ++ newline :: rest) =
          (m.cover rest).shift (line.length + 1) :=
      fun m mem => cover_behind line rest (occurrences_within mem).1
    rw [occurrences_line plain, linesOf_line single]
    constructor
    · rintro ⟨m, mem, rfl⟩
      rcases List.mem_append.mp mem with mem | mem
      · refine ⟨_, List.mem_cons_self, (front m mem).symm, ?_⟩
        exact occursIn_iff_occurrence.mpr ⟨m, mem⟩
      · obtain ⟨n, memN, rfl⟩ := List.mem_map.mp mem
        obtain ⟨p, memP, place, occurs⟩ := (ih (n.cover rest)).mp ⟨n, memN, rfl⟩
        refine ⟨p.shift (line.length + 1),
          List.mem_cons_of_mem _ (List.mem_map_of_mem memP), ?_, occurs⟩
        rw [behind n memN, ← place]
        rfl
    · rintro ⟨p, memP, rfl, occurs⟩
      rcases List.mem_cons.mp memP with rfl | memP
      · obtain ⟨m, mem⟩ := occursIn_iff_occurrence.mp occurs
        exact ⟨m, List.mem_append_left _ mem, front m mem⟩
      · obtain ⟨q, memQ, rfl⟩ := List.mem_map.mp memP
        obtain ⟨n, mem, covered⟩ := (ih q.place).mpr ⟨q, memQ, rfl, occurs⟩
        refine ⟨n.shift (line.length + 1),
          List.mem_append_right _ (List.mem_map_of_mem mem), ?_⟩
        rw [behind n mem, covered]
        rfl

section
variable {texts : List Text} {log : Text} {p : PlacedLine} {h : Hit}

theorem mem_hits_plain_iff :
    h ∈ (Detector.plain texts).hits log ↔ ∃ t, texts[h.index]? = some t ∧
      ∃ m ∈ occurrences t log, m.cover log = h.lines := by
  rw [mem_hits_iff]
  constructor
  · rintro ⟨s, known, found⟩
    obtain ⟨t, here, rfl⟩ := Option.map_eq_some_iff.mp (List.getElem?_map .. ▸ known)
    exact ⟨t, here, found⟩
  · rintro ⟨t, here, found⟩
    refine ⟨.plain t, ?_, found⟩
    rw [Detector.plain, List.getElem?_map, here]
    rfl

theorem mem_plain_hits_iff (plain : ∀ t ∈ texts, newline ∉ t) :
    h ∈ (Detector.plain texts).hits log ↔ ∃ t, texts[h.index]? = some t ∧
      ∃ p ∈ linesOf log, p.place = h.lines ∧ occursIn p.line t = true := by
  rw [mem_hits_plain_iff]
  constructor
  · rintro ⟨t, here, found⟩
    exact ⟨t, here, (cover_occurrences (plain t (List.mem_of_getElem? here)) log _).mp found⟩
  · rintro ⟨t, here, found⟩
    exact ⟨t, here, (cover_occurrences (plain t (List.mem_of_getElem? here)) log _).mpr found⟩

/-- The hit of a line, with the first of the texts that occur in it. -/
def leadingHit? (texts : List Text) (p : PlacedLine) : Option Hit :=
  (texts.findIdx? (occursIn p.line)).map (Hit.mk p.place)

def leadingHits (texts : List Text) (log : Text) : List Hit :=
  (linesOf log).filterMap (leadingHit? texts)

theorem mem_leadingHits_iff :
    h ∈ leadingHits texts log ↔ ∃ p ∈ linesOf log, p.place = h.lines ∧
      texts.findIdx? (occursIn p.line) = some h.index := by
  unfold leadingHits leadingHit?
  rw [List.mem_filterMap]
  constructor
  · rintro ⟨p, mem, leads⟩
    obtain ⟨i, first, rfl⟩ := Option.map_eq_some_iff.mp leads
    exact ⟨p, mem, rfl, first⟩
  · rintro ⟨p, mem, place, first⟩
    refine ⟨p, mem, ?_⟩
    rw [first, Option.map_some, place]

theorem leadingHits_found (plain : ∀ t ∈ texts, newline ∉ t) (mem : h ∈ leadingHits texts log) :
    h ∈ (Detector.plain texts).hits log := by
  obtain ⟨p, memP, place, first⟩ := mem_leadingHits_iff.mp mem
  obtain ⟨bound, occurs, -⟩ := List.findIdx?_eq_some_iff_getElem.mp first
  exact (mem_plain_hits_iff plain).mpr
    ⟨texts[h.index], List.getElem?_eq_getElem bound, p, memP, place, occurs⟩

/-- A hit is on the lines of a leading one, and not before it. -/
theorem leadingHits_first (plain : ∀ t ∈ texts, newline ∉ t)
    (mem : h ∈ (Detector.plain texts).hits log) :
    ∃ f ∈ leadingHits texts log, f.lines = h.lines ∧ f.before h = true := by
  obtain ⟨t, here, p, memP, place, occurs⟩ := (mem_plain_hits_iff plain).mp mem
  cases first : texts.findIdx? (occursIn p.line) with
  | none =>
    have never := List.findIdx?_eq_none_iff.mp first t (List.mem_of_getElem? here)
    simp [occurs] at never
  | some i =>
    obtain ⟨bound, known⟩ := List.getElem?_eq_some_iff.mp here
    obtain ⟨_, _, earlier⟩ := List.findIdx?_eq_some_iff_getElem.mp first
    have least : i ≤ h.index := by
      by_contra later
      exact earlier h.index (Nat.lt_of_not_le later) (known ▸ occurs)
    refine ⟨⟨p.place, i⟩, mem_leadingHits_iff.mpr ⟨p, memP, rfl, first⟩, place, ?_⟩
    rw [Hit.before_iff, place]
    exact Or.inr ⟨rfl, Or.inr ⟨rfl, least⟩⟩

theorem leadingHits_sorted (texts : List Text) (log : Text) :
    (leadingHits texts log).Pairwise fun a b => a.before b = true := by
  refine (linesOf_ordered log).filterMap (leadingHit? texts) fun p q earlier a ofP b ofQ => ?_
  obtain ⟨i, -, rfl⟩ := Option.map_eq_some_iff.mp ofP
  obtain ⟨j, -, rfl⟩ := Option.map_eq_some_iff.mp ofQ
  exact Hit.before_iff.mpr (Or.inl earlier)

theorem withoutReturns_line {line : Text} (single : newline ∉ line) :
    withoutReturns line = dropReturn line := by
  rw [withoutReturns, cutLines_last single]
  simp [joinLines, joinWith]

theorem describe_leadingHit? (mem : p ∈ linesOf log) :
    (leadingHit? texts p).map ((Detector.plain texts).describe log) =
      (texts.find? (occursIn p.line)).map fun t => ⟨t, dropReturn p.line⟩ := by
  obtain ⟨slice, single⟩ := slice_of_line mem
  rw [leadingHit?, List.find?_eq_bind_findIdx?_getElem?]
  cases first : texts.findIdx? (occursIn p.line) with
  | none => rfl
  | some i =>
    obtain ⟨bound, -⟩ := List.findIdx?_eq_some_iff_getElem.mp first
    simp [Detector.describe, Detector.plain, Signature.plain, slice, withoutReturns_line single,
      bound]

theorem describe_leadingHits (texts : List Text) (log : Text) :
    (leadingHits texts log).map ((Detector.plain texts).describe log) =
      (log.splitOn newline).filterMap fun line =>
        (texts.find? (occursIn line)).map fun t => ⟨t, dropReturn line⟩ := by
  have lines : (linesOf log).map PlacedLine.line = log.splitOn newline := by
    rw [linesOf, placeLines_lines, cutLines_eq_splitOn]
  rw [leadingHits, List.map_filterMap, ← lines, List.filterMap_map]
  exact List.filterMap_congr fun p mem => describe_leadingHit? mem

theorem scan_plain (plain : ∀ t ∈ texts, newline ∉ t) (log : Text) :
    (Detector.plain texts).scan log = scanByLine texts log := by
  have sub : ∀ f ∈ leadingHits texts log,
      f ∈ ((Detector.plain texts).hits log).mergeSort Hit.before :=
    fun f mem => List.mem_mergeSort.mpr (leadingHits_found plain mem)
  have first : ∀ h ∈ ((Detector.plain texts).hits log).mergeSort Hit.before,
      ∃ f ∈ leadingHits texts log, ((Detector.plain texts).describe log f).line =
        ((Detector.plain texts).describe log h).line ∧ f.before h = true := by
    intro h mem
    obtain ⟨f, memF, same, before⟩ := leadingHits_first plain (List.mem_mergeSort.mp mem)
    exact ⟨f, memF, by rw [Detector.describe, Detector.describe, same], before⟩
  have few := firstOfLines_eq_of_few (sorted_hits _) (leadingHits_sorted texts log) sub first
  rw [Detector.scan, few, describe_leadingHits, firstOfLines_eq_eraseDupsBy, scanByLine]

end

/-- Texts without line feeds make a detector unless one of them is too large, and what it finds in
a log is what is found line by line. -/
theorem literal_scan_by_line (texts : List Text) (plain : ∀ t ∈ texts, newline ∉ t) :
    ((∃ d, Detector.compile true texts = .ok d) ↔ ∀ t ∈ texts, Fits t) ∧
      ∀ d, Detector.compile true texts = .ok d → ∀ log, d.scan log = scanByLine texts log := by
  constructor
  · constructor
    · rintro ⟨d, made⟩
      exact (compile_literal_iff.mp made).1
    · exact fun fits => ⟨.plain texts, compile_literal_iff.mpr ⟨fits, rfl⟩⟩
  · rintro d made log
    obtain ⟨-, rfl⟩ := compile_literal_iff.mp made
    exact scan_plain plain log

/-- The point of the first text is no pattern, and the last one never comes to a line. -/
def pointedTexts : List Text := ["a.b".toList, [], "ERR".toList, "a.b".toList]

def mixedLog : Text := "aXb\r\nERR one\r\nERR one\nERR a.b\r\r".toList

theorem literal_scan_by_line_mixed :
    ∃ d, Detector.compile true pointedTexts = .ok d ∧ d.scan mixedLog =
      [⟨"ERR".toList, "ERR one".toList⟩, ⟨"a.b".toList, "ERR a.b\r".toList⟩] := by
  have scanned := literal_scan_by_line pointedTexts (by decide)
  have fits : ∀ t ∈ pointedTexts, Fits t := by
    simp only [fits_iff_size]
    decide
  obtain ⟨d, made⟩ := scanned.1.mpr fits
  have reference : scanByLine pointedTexts mixedLog =
      [⟨"ERR".toList, "ERR one".toList⟩, ⟨"a.b".toList, "ERR a.b\r".toList⟩] := by decide
  exact ⟨d, made, (scanned.2 d made mixedLog).trans reference⟩

end FleetHealth
