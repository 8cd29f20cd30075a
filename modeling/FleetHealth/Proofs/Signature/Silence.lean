import FleetHealth.Signature.Detector
import FleetHealth.Proofs.Text.Occurrences

/- When a scan finds nothing: no signature may match a single character of the log. A text is
   searched for as it stands, so it matches wherever it occurs and is not empty. -/
namespace FleetHealth

/-- There is a match of at least one character, for a pattern among those that its search finds. -/
def Matcher.Matches (log : Text) : Matcher → Prop
  | .literal needle => needle ≠ [] ∧ needle <:+: log
  | .pattern a => ∃ m ∈ a.matchesIn log, m.start < m.stop

def Detector.Silent (d : Detector) (log : Text) : Prop :=
  ∀ s ∈ d.signatures, ¬ s.matcher.Matches log

theorem spans_eq_nil_iff (m : Matcher) (log : Text) :
    m.spans log = [] ↔ ¬ m.Matches log := by
  cases m with
  | literal needle => exact occurrences_eq_nil_iff needle log
  | pattern a => simp [Matcher.spans, Matcher.Matches, List.filter_eq_nil_iff]

theorem firstOfLines_eq_nil_iff (ms : List LineMatch) : firstOfLines [] ms = [] ↔ ms = [] := by
  cases ms <;> simp [firstOfLines]

theorem hits_eq_nil_iff (d : Detector) (log : Text) :
    d.hits log = [] ↔ ∀ s ∈ d.signatures, s.matcher.spans log = [] := by
  simp only [Detector.hits, List.flatMap_eq_nil_iff, Detector.hitsOf, List.map_eq_nil_iff]
  constructor
  · intro none_ s mem
    obtain ⟨i, here⟩ := List.mem_iff_getElem?.mp mem
    exact none_ (s, i) (List.mk_mem_zipIdx_iff_getElem?.mpr here)
  · rintro none_ ⟨s, i⟩ mem
    exact none_ s (List.fst_mem_of_mem_zipIdx mem)

theorem scan_eq_nil_iff (d : Detector) (log : Text) : d.scan log = [] ↔ d.Silent log := by
  have sorted : (d.hits log).mergeSort Hit.before = [] ↔ d.hits log = [] := by
    rw [← List.length_eq_zero_iff, List.length_mergeSort, List.length_eq_zero_iff]
  unfold Detector.scan
  rw [firstOfLines_eq_nil_iff, List.map_eq_nil_iff, sorted, hits_eq_nil_iff]
  simp only [spans_eq_nil_iff, Detector.Silent]

end FleetHealth
