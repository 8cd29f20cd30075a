import FleetHealth.Proofs.Text.Occurrences
import FleetHealth.Text.Lines

/- A text is a line, or a first line and what comes behind its line feed. The lines are followed
   together with their places, so that what is said about places can be said line by line. -/
namespace FleetHealth

theorem piecesAt_eq_splitOn (mark : Char) (t : Text) : piecesAt mark t = t.splitOn mark := by
  induction t with
  | nil => rfl
  | cons c r ih =>
    obtain ⟨p, ps, pieces⟩ := List.exists_cons_of_ne_nil (List.splitOn_ne_nil mark r)
    have step : piecesAt mark (c :: r) = consPiece mark c (piecesAt mark r) := rfl
    rw [step, ih, List.splitOn_cons_eq_if_modifyHead, pieces]
    simp [consPiece]

theorem cutLines_eq_splitOn (t : Text) : cutLines t = t.splitOn newline :=
  piecesAt_eq_splitOn newline t

theorem cutLines_last {line : Text} (plain : newline ∉ line) : cutLines line = [line] := by
  rw [cutLines_eq_splitOn, List.splitOn_eq_singleton plain]

theorem cutLines_line {line : Text} (plain : newline ∉ line) (rest : Text) :
    cutLines (line ++ newline :: rest) = line :: cutLines rest := by
  rw [cutLines_eq_splitOn, cutLines_eq_splitOn, List.splitOn_append_cons_self_of_not_mem plain]

/-- A text begins with a whole line if it ends behind it or goes on with a line feed. -/
def EndsLine (after : Text) : Prop := after = [] ∨ ∃ rest, after = newline :: rest

/-- What holds of a single line, and of a text when it holds of what is behind the first line,
holds of every text. -/
theorem line_induction {P : Text → Prop} (last : ∀ line, newline ∉ line → P line)
    (more : ∀ line rest, newline ∉ line → P rest → P (line ++ newline :: rest)) (t : Text) :
    P t := by
  induction size : t.length using Nat.strongRecOn generalizing t with
  | ind size ih =>
    by_cases several : newline ∈ t
    · obtain ⟨line, rest, rfl, plain⟩ := List.eq_append_cons_of_mem several
      refine more line rest plain (ih rest.length ?_ rest rfl)
      rw [← size, List.length_append, List.length_cons]
      omega
    · exact last t several

/-- A line with its place. -/
structure PlacedLine where
  place : Span
  line : Text

def PlacedLine.shift (n : Nat) (p : PlacedLine) : PlacedLine := ⟨p.place.shift n, p.line⟩

/-- The lines, of which the first begins at position `at_`, with a line feed behind each. -/
def placeLines (at_ : Nat) : List Text → List PlacedLine
  | [] => []
  | line :: rest =>
    ⟨⟨at_, at_ + line.length⟩, line⟩ :: placeLines (at_ + (line.length + 1)) rest

/-- The lines of a text and their places. -/
def linesOf (t : Text) : List PlacedLine := placeLines 0 (cutLines t)

theorem placeLines_lines (at_ : Nat) (lines : List Text) :
    (placeLines at_ lines).map PlacedLine.line = lines := by
  induction lines generalizing at_ with
  | nil => rfl
  | cons line rest ih => rw [placeLines, List.map_cons, ih]

theorem placeLines_shift (at_ n : Nat) (lines : List Text) :
    placeLines (at_ + n) lines = (placeLines at_ lines).map (PlacedLine.shift n) := by
  induction lines generalizing at_ with
  | nil => rfl
  | cons line rest ih =>
    have next : at_ + n + (line.length + 1) = at_ + (line.length + 1) + n := by omega
    rw [placeLines, placeLines, List.map_cons, next, ih]
    simp [PlacedLine.shift, Span.shift, Nat.add_right_comm]

theorem linesOf_last {line : Text} (plain : newline ∉ line) :
    linesOf line = [⟨⟨0, line.length⟩, line⟩] := by
  rw [linesOf, cutLines_last plain, placeLines, placeLines, Nat.zero_add]

theorem linesOf_line {line : Text} (plain : newline ∉ line) (rest : Text) :
    linesOf (line ++ newline :: rest) =
      ⟨⟨0, line.length⟩, line⟩ :: (linesOf rest).map (PlacedLine.shift (line.length + 1)) := by
  rw [linesOf, cutLines_line plain, placeLines, placeLines_shift, Nat.zero_add]
  rfl

theorem start_of_placed {at_ : Nat} {lines : List Text} {p : PlacedLine}
    (mem : p ∈ placeLines at_ lines) : at_ ≤ p.place.start := by
  induction lines generalizing at_ with
  | nil => simp [placeLines] at mem
  | cons line rest ih =>
    rcases List.mem_cons.mp mem with rfl | mem
    · exact Nat.le_refl at_
    · have later := ih mem
      omega

/-- No two lines begin at the same position. -/
theorem linesOf_ordered (t : Text) :
    (linesOf t).Pairwise fun p q => p.place.start < q.place.start := by
  unfold linesOf
  generalize 0 = at_
  induction cutLines t generalizing at_ with
  | nil => exact List.Pairwise.nil
  | cons line rest ih =>
    refine List.pairwise_cons.mpr ⟨fun q mem => ?_, ih _⟩
    have later := start_of_placed mem
    simp only
    omega

end FleetHealth
