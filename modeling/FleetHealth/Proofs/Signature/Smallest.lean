import FleetHealth.Proofs.Signature.Covered
import FleetHealth.Proofs.Signature.Reported
import FleetHealth.Proofs.Text.Bytes

/- A cover is the smallest run of whole lines around a span, in the characters of a text and in its
   bytes, so no slice of a text is ever cut outside of it or inside a character. -/
namespace FleetHealth

open Utf8 (encode newlineByte)

/-- A run of whole lines lies between two line feeds or the ends of the text. -/
structure WholeLines {α : Type} (mark : α) (l : List α) (w : Span) : Prop where
  order : w.start ≤ w.stop
  inside : w.stop ≤ l.length
  begins : w.start = 0 ∨ l[w.start - 1]? = some mark
  ends : w.stop = l.length ∨ l[w.stop]? = some mark

/-- The line feed behind a run of lines is part of the last one, so a span may end with it. -/
def Span.Encloses (w r : Span) : Prop := w.start ≤ r.start ∧ r.stop - 1 ≤ w.stop

/-- Every run of whole lines that encloses the span has this one inside. -/
structure SmallestRun {α : Type} (mark : α) (l : List α) (r c : Span) : Prop where
  whole : WholeLines mark l c
  encloses : c.Encloses r
  least : ∀ w, WholeLines mark l w → w.Encloses r → w.start ≤ c.start ∧ c.stop ≤ w.stop

variable {t : Text} {s : Span} {n i : Nat}

/-- A span of characters as a span of bytes. -/
def Span.inBytes (t : Text) (s : Span) : Span := ⟨byteOffset t s.start, byteOffset t s.stop⟩

theorem WholeLines.inBytes {w : Span} (lines : WholeLines newline t w) :
    WholeLines newlineByte (encode t) (w.inBytes t) := by
  constructor
  · exact byteOffset_mono t lines.order
  · rw [← byteOffset_length]
    exact byteOffset_mono t lines.inside
  · rcases lines.begins with first | here
    · left
      rw [Span.inBytes, first, byteOffset_zero]
    · by_cases first : w.start = 0
      · left
        rw [Span.inBytes, first, byteOffset_zero]
      · right
        have behind := byteOffset_newline here
        rw [Nat.sub_add_cancel (Nat.pos_of_ne_zero first)] at behind
        exact newline_byte_iff.mpr ⟨w.start - 1, here, by rw [Span.inBytes, behind]; rfl⟩
  · rcases lines.ends with last | here
    · left
      rw [Span.inBytes, last, byteOffset_length]
    · right
      exact newline_byte_iff.mpr ⟨w.stop, here, rfl⟩

/-- A run of whole lines of the bytes is one of the characters. -/
theorem WholeLines.ofBytes {w : Span} (lines : WholeLines newlineByte (encode t) w) :
    ∃ v, v.inBytes t = w ∧ WholeLines newline t v := by
  obtain ⟨order, inside, begins, ends⟩ := lines
  have first : ∃ n ≤ t.length, byteOffset t n = w.start ∧ (n = 0 ∨ t[n - 1]? = some newline) := by
    by_cases zero : w.start = 0
    · exact ⟨0, Nat.zero_le _, zero.symm, Or.inl rfl⟩
    · obtain ⟨n, here, offset⟩ := newline_byte_iff.mp (begins.resolve_left zero)
      have before := (List.getElem?_eq_some_iff.mp here).1
      have next := byteOffset_newline here
      exact ⟨n + 1, before, by omega, Or.inr here⟩
  have last : ∃ n ≤ t.length, byteOffset t n = w.stop ∧
      (n = t.length ∨ t[n]? = some newline) := by
    rcases ends with whole | byte
    · exact ⟨t.length, Nat.le_refl _, by rw [byteOffset_length, whole], Or.inl rfl⟩
    · obtain ⟨n, here, offset⟩ := newline_byte_iff.mp byte
      exact ⟨n, Nat.le_of_lt (List.getElem?_eq_some_iff.mp here).1, offset, Or.inr here⟩
  obtain ⟨n, insideN, start, begins⟩ := first
  obtain ⟨m, insideM, stop, ends⟩ := last
  refine ⟨⟨n, m⟩, ?_, ?_⟩
  · rw [Span.inBytes, start, stop]
  · constructor
    · rw [← byteOffset_le_iff insideN, start, stop]
      exact order
    · exact insideM
    · exact begins
    · exact ends

/-- A run of lines encloses the characters of a span if it encloses its bytes. -/
theorem encloses_inBytes_iff {w : Span} (lines : WholeLines newline t w) (some_ : s.start < s.stop)
    (inside : s.stop ≤ t.length) :
    (w.inBytes t).Encloses (s.inBytes t) ↔ w.Encloses s := by
  have first := byteOffset_le_iff (t := t) (n := w.start) (m := s.start)
    (Nat.le_trans lines.order lines.inside)
  have last : byteOffset t s.stop - 1 ≤ byteOffset t w.stop ↔ s.stop - 1 ≤ w.stop := by
    by_cases whole : s.stop ≤ w.stop
    · have le := byteOffset_mono t whole
      omega
    · have here := lines.ends.resolve_left (by omega)
      have next := byteOffset_newline here
      have le := byteOffset_le_iff (t := t) (n := s.stop) (m := w.stop + 1) inside
      omega
  exact and_congr first last

theorem SmallestRun.inBytes {c : Span} (smallest : SmallestRun newline t s c)
    (some_ : s.start < s.stop) (inside : s.stop ≤ t.length) :
    SmallestRun newlineByte (encode t) (s.inBytes t) (c.inBytes t) := by
  constructor
  · exact smallest.whole.inBytes
  · exact (encloses_inBytes_iff smallest.whole some_ inside).mpr smallest.encloses
  · intro w lines around
    obtain ⟨v, rfl, linesV⟩ := lines.ofBytes
    have aroundV := (encloses_inBytes_iff linesV some_ inside).mp around
    obtain ⟨start, stop⟩ := smallest.least v linesV aroundV
    exact ⟨byteOffset_mono t start, byteOffset_mono t stop⟩

end FleetHealth
