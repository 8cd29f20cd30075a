import FleetHealth.Proofs.Signature.Cover
import FleetHealth.Proofs.Text.Runs

/- What is inside a cover: the lines from that of the first character of the span to that of its last
   one. A line feed counts as part of the line that it ends. -/
namespace FleetHealth

variable {line rest : Text} {s : Span}

/-- A span in the first line, which may go on over the line feed behind it. -/
theorem cover_first (plain : newline ∉ line) (rest : Text) (some_ : s.start < s.stop)
    (inside : s.stop ≤ line.length + 1) :
    s.cover (line ++ newline :: rest) = ⟨0, line.length⟩ := by
  by_cases short : s.stop ≤ line.length
  · exact cover_inside plain (Or.inr ⟨rest, rfl⟩) some_ short
  · have last : s.stop - 1 = line.length := by omega
    have start : lineStart (line ++ newline :: rest) s.start = 0 :=
      lineStartFrom_plain plain _ 0 0 (by omega)
    simp [Span.cover, last, start]

/-- A span that goes on behind the first line has the stop of what is left of it. -/
theorem cover_across (plain : newline ∉ line) (rest : Text) {start stop : Nat}
    (inside : start ≤ line.length) (some_ : 0 < stop) :
    Span.cover (line ++ newline :: rest) ⟨start, stop + (line.length + 1)⟩ =
      ⟨0, (Span.cover rest ⟨0, stop⟩).stop + (line.length + 1)⟩ := by
  have first : lineStart (line ++ newline :: rest) start = 0 :=
    lineStartFrom_plain plain _ 0 0 inside
  have start : lineStart rest 0 = 0 := rfl
  have last : stop + (line.length + 1) - 1 = stop - 1 + (line.length + 1) := by omega
  simp only [Span.cover, first, start, last, getElem?_behind, lineStop_behind, Nat.max_zero]
  split <;> rfl

/-- What a cover from the first character on covers, and what it covers with a line in front. -/
theorem slice_cover_across (line rest : Text) (stop : Nat) :
    Span.slice ⟨0, (Span.cover rest ⟨0, stop⟩).stop + (line.length + 1)⟩ (line ++ newline :: rest) =
      line ++ newline :: (Span.cover rest ⟨0, stop⟩).slice rest := by
  have start : (Span.cover rest ⟨0, stop⟩).start = 0 := rfl
  simp only [Span.slice, start, List.drop_zero, Nat.sub_zero, take_behind]

theorem slice_cover {t : Text} (some_ : s.start < s.stop) (inside : s.stop ≤ t.length) :
    (s.cover t).slice t =
      joinLines (lineRun (lineIndex t s.start) (lineIndex t (s.stop - 1)) (cutLines t)) := by
  induction t using line_induction generalizing s with
  | last line plain =>
    have whole := cover_inside plain (Or.inl rfl) some_ inside
    have start := lineIndex_inside plain [] (Nat.le_trans (Nat.le_of_lt some_) inside)
    have stop := lineIndex_inside plain [] (Nat.le_trans (Nat.sub_le s.stop 1) inside)
    rw [List.append_nil] at whole start stop
    rw [whole, start, stop, cutLines_last plain]
    simp [Span.slice, lineRun, joinLines_single]
  | more line rest plain ih =>
    rw [List.length_append, List.length_cons] at inside
    rw [cutLines_line plain]
    by_cases first : s.stop ≤ line.length + 1
    · rw [cover_first plain rest some_ first, lineIndex_inside plain _ (by omega),
        lineIndex_inside plain _ (by omega)]
      simp [Span.slice, lineRun, joinLines_single]
    · obtain ⟨start, stop⟩ := s
      dsimp only at some_ inside first ⊢
      obtain ⟨k, rfl⟩ := Nat.exists_eq_add_of_le' (by omega : line.length + 1 ≤ stop)
      have last : k + (line.length + 1) - 1 = k - 1 + (line.length + 1) := by omega
      rw [last, lineIndex_behind plain]
      by_cases front : start ≤ line.length
      · have later := ih (s := ⟨0, k⟩) (by dsimp only; omega) (by dsimp only; omega)
        have none_ : lineIndex rest 0 = 0 := rfl
        have some_ : lineRun 0 (lineIndex rest (k - 1)) (cutLines rest) ≠ [] :=
          lineRun_ne_nil (Nat.zero_le _) (List.length_pos_of_ne_nil (cutLines_ne_nil rest))
        rw [cover_across plain rest front (by omega), slice_cover_across, later, none_,
          lineIndex_inside plain _ front, lineRun_first, joinLines_cons line some_]
      · obtain ⟨i, rfl⟩ := Nat.exists_eq_add_of_le' (by omega : line.length + 1 ≤ start)
        have later := ih (s := ⟨i, k⟩) (by dsimp only; omega) (by dsimp only; omega)
        have shifted := cover_behind line rest (s := ⟨i, k⟩) (by dsimp only; omega)
        rw [Span.shift] at shifted
        rw [shifted, slice_behind, later, lineIndex_behind plain, lineRun_behind]

theorem cutLines_withoutReturns {lines : List Text} (some_ : lines ≠ [])
    (plain : ∀ line ∈ lines, newline ∉ line) :
    cutLines (withoutReturns (joinLines lines)) = lines.map dropReturn := by
  unfold withoutReturns
  rw [cutLines_joinLines some_ plain, cutLines_joinLines (by simpa using some_)]
  intro line mem
  obtain ⟨raw, memRaw, rfl⟩ := List.mem_map.mp mem
  exact plain_dropReturn (plain raw memRaw)

/-- The lines of what is reported of a span are those of the text, each without its carriage return. -/
theorem cutLines_cover {t : Text} (some_ : s.start < s.stop) (inside : s.stop ≤ t.length) :
    cutLines (withoutReturns ((s.cover t).slice t)) =
      lineRun (lineIndex t s.start) (lineIndex t (s.stop - 1)) ((cutLines t).map dropReturn) := by
  have order : lineIndex t s.start ≤ lineIndex t (s.stop - 1) := lineIndex_mono t (by omega)
  rw [slice_cover some_ inside, cutLines_withoutReturns, lineRun_map]
  · exact lineRun_ne_nil order (lineIndex_lt_cutLines t s.start)
  · exact fun line run => plain_of_mem_cutLines ((lineRun_isInfix _ _ _).subset run)

theorem occurrences_slice {needle t : Text} {s : Span} (mem : s ∈ occurrences needle t) :
    s.slice t = needle := by
  unfold occurrences at mem
  split at mem
  · simp at mem
  · have begins := occurrencesFrom_begins mem
    have within := occurrencesFrom_within mem
    have long : s.stop - s.start = needle.length := by omega
    rw [Nat.sub_zero] at begins
    rw [Span.slice, long]
    exact (List.prefix_iff_eq_take.mp begins).symm

theorem slice_isInfix (t : Text) {a b : Span} (starts : b.start ≤ a.start)
    (stops : a.stop ≤ b.stop) : a.slice t <:+: b.slice t := by
  have behind : (b.slice t).drop (a.start - b.start) = Span.slice ⟨a.start, b.stop⟩ t := by
    have start : b.start + (a.start - b.start) = a.start := by omega
    have long : b.stop - b.start - (a.start - b.start) = b.stop - a.start := by omega
    simp only [Span.slice]
    rw [List.drop_take, List.drop_drop, start, long]
  have begins : a.slice t <+: Span.slice ⟨a.start, b.stop⟩ t :=
    List.take_prefix_take_left (by simp only; omega)
  exact begins.isInfix.trans (behind ▸ (List.drop_suffix _ _).isInfix)

theorem slice_isInfix_cover {t : Text} {s : Span} (some_ : s.start < s.stop) :
    s.slice t <:+: (s.cover t).slice t ++ [newline] := by
  have starts := cover_start_le t s
  rcases le_cover_stop t some_ with stops | ⟨last, stop⟩
  · exact (slice_isInfix t starts stops).trans (List.prefix_append _ _).isInfix
  · have whole : (s.cover t).slice t ++ [newline] = Span.slice ⟨(s.cover t).start, s.stop⟩ t := by
      have further : s.stop - (s.cover t).start = s.stop - 1 - (s.cover t).start + 1 := by omega
      have here : (t.drop (s.cover t).start)[s.stop - 1 - (s.cover t).start]? = some newline := by
        rw [List.getElem?_drop, ← last]
        congr 1
        omega
      simp only [Span.slice, stop]
      rw [further, List.take_add_one, here]
      rfl
    rw [whole]
    exact slice_isInfix t starts (Nat.le_refl _)

/-- Carriage returns that are dropped are no part of a text without them. -/
theorem infix_dropReturns {t : Text} (plain : '\r' ∉ t) (lines : List Text) {before : Text}
    (part : t <:+: before ++ lines.flatMap (· ++ [newline])) :
    t <:+: before ++ (lines.map dropReturn).flatMap (· ++ [newline]) := by
  induction lines generalizing before with
  | nil => exact part
  | cons line rest ih =>
    simp only [List.map_cons, List.flatMap_cons] at part ⊢
    by_cases ends : line.getLast? = some '\r'
    · obtain ⟨line, rfl⟩ := List.getLast?_eq_some_iff.mp ends
      have dropped : dropReturn (line ++ ['\r']) = line := by simp [dropReturn]
      have split : before ++ (line ++ ['\r'] ++ [newline] ++ rest.flatMap (· ++ [newline])) =
          (before ++ line) ++ '\r' :: ([newline] ++ rest.flatMap (· ++ [newline])) := by simp
      rw [split] at part
      rw [dropped]
      rcases infix_beside plain part with front | behind
      · rw [← List.append_assoc, ← List.append_assoc, List.append_assoc]
        exact List.infix_append_of_infix_left front
      · rw [List.append_assoc line, ← List.append_assoc]
        exact List.infix_append_of_infix_right (ih behind)
    · have kept : dropReturn line = line := if_neg ends
      rw [kept, ← List.append_assoc]
      apply ih
      rwa [List.append_assoc]

theorem infix_withoutReturns {t u : Text} (plain : '\r' ∉ t) (part : t <:+: u ++ [newline]) :
    t <:+: withoutReturns u ++ [newline] := by
  have some_ := cutLines_ne_nil u
  have lines : t <:+: [] ++ (cutLines u).flatMap (· ++ [newline]) := by
    rwa [List.nil_append, ← joinLines_ended some_, joinLines_cutLines]
  have kept := infix_dropReturns plain (cutLines u) lines
  rwa [List.nil_append, ← joinLines_ended (by simpa using some_)] at kept

end FleetHealth
