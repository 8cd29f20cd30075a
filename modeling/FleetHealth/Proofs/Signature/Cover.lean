import FleetHealth.Proofs.Text.Lines
import FleetHealth.Signature.Cover

/- The lines around a span. A span inside a line is covered by that line, and what is in front of a
   line feed has nothing to do with what covers a span behind it. -/
namespace FleetHealth

variable {line rest : Text}

theorem lineStartFrom_shift (start at_ k n : Nat) (t : Text) :
    lineStartFrom (start + k) (at_ + k) n t = lineStartFrom start at_ n t + k := by
  induction t generalizing start at_ n with
  | nil => cases n <;> rfl
  | cons c r ih =>
    cases n with
    | zero => rfl
    | succ n =>
      have next : at_ + k + 1 = at_ + 1 + k := Nat.add_right_comm at_ k 1
      simp only [lineStartFrom, next]
      split
      · exact ih (at_ + 1) (at_ + 1) n
      · exact ih start (at_ + 1) n

theorem lineStartFrom_plain (plain : newline ∉ line) (after : Text) (start at_ : Nat) {n : Nat}
    (inside : n ≤ line.length) : lineStartFrom start at_ n (line ++ after) = start := by
  induction line generalizing at_ n with
  | nil =>
    obtain rfl : n = 0 := Nat.le_zero.mp inside
    cases after <;> rfl
  | cons c line ih =>
    rw [List.mem_cons, not_or] at plain
    cases n with
    | zero => rfl
    | succ n =>
      rw [List.cons_append, lineStartFrom, if_neg (Ne.symm plain.1)]
      exact ih plain.2 (at_ + 1) (Nat.le_of_succ_le_succ inside)

theorem lineStartFrom_line (start at_ n : Nat) (line rest : Text) :
    lineStartFrom start at_ (n + (line.length + 1)) (line ++ newline :: rest) =
      lineStartFrom (at_ + (line.length + 1)) (at_ + (line.length + 1)) n rest := by
  induction line generalizing start at_ with
  | nil => rfl
  | cons c line ih =>
    have next : at_ + 1 + (line.length + 1) = at_ + ((c :: line).length + 1) := by
      rw [List.length_cons]
      omega
    rw [List.cons_append, List.length_cons, ← Nat.add_assoc n, lineStartFrom, ih, next,
      List.length_cons]

theorem lineStart_behind (line rest : Text) (n : Nat) :
    lineStart (line ++ newline :: rest) (n + (line.length + 1)) =
      lineStart rest n + (line.length + 1) := by
  unfold lineStart
  rw [lineStartFrom_line, lineStartFrom_shift]

theorem lineStartFrom_le {start at_ : Nat} (before : start ≤ at_) (n : Nat) (t : Text) :
    lineStartFrom start at_ n t ≤ at_ + n := by
  induction t generalizing start at_ n with
  | nil => cases n <;> simp only [lineStartFrom] <;> omega
  | cons c r ih =>
    cases n with
    | zero => simp only [lineStartFrom]; omega
    | succ n =>
      rw [lineStartFrom]
      split
      · have later := ih (Nat.le_refl (at_ + 1)) n
        omega
      · have later := ih (by omega : start ≤ at_ + 1) n
        omega

theorem lineStart_le (t : Text) (n : Nat) : lineStart t n ≤ n := by
  have behind := lineStartFrom_le (Nat.le_refl 0) n t
  rwa [Nat.zero_add] at behind

theorem lineStop_inside (plain : newline ∉ line) {after : Text} (ends : EndsLine after) {n : Nat}
    (inside : n ≤ line.length) : lineStop (line ++ after) n = line.length := by
  have none_ : (line.drop n).findIdx (· == newline) = (line.drop n).length := by
    rw [List.findIdx_eq_length]
    intro c mem
    simp only [beq_eq_false_iff_ne]
    rintro rfl
    exact plain (List.mem_of_mem_drop mem)
  have stop : after.findIdx (· == newline) = 0 := by
    rcases ends with rfl | ⟨rest, rfl⟩
    · rfl
    · simp [List.findIdx_cons]
  rw [lineStop, List.drop_append_of_le_length inside, List.findIdx_append, none_, stop,
    if_neg (Nat.lt_irrefl _), List.length_drop]
  omega

theorem drop_behind (line rest : Text) (n : Nat) :
    (line ++ newline :: rest).drop (n + (line.length + 1)) = rest.drop n := by
  rw [Nat.add_comm n, ← List.drop_drop]
  simp

theorem getElem?_behind (line rest : Text) (n : Nat) :
    (line ++ newline :: rest)[n + (line.length + 1)]? = rest[n]? := by
  have here := congrArg (fun t => t[0]?) (drop_behind line rest n)
  simpa only [List.getElem?_drop, Nat.add_zero] using here

theorem lineStop_behind (line rest : Text) (n : Nat) :
    lineStop (line ++ newline :: rest) (n + (line.length + 1)) =
      lineStop rest n + (line.length + 1) := by
  rw [lineStop, lineStop, drop_behind]
  omega

theorem cover_inside (plain : newline ∉ line) {after : Text} (ends : EndsLine after) {s : Span}
    (some_ : s.start < s.stop) (inside : s.stop ≤ line.length) :
    s.cover (line ++ after) = ⟨0, line.length⟩ := by
  have before : s.stop - 1 < line.length := by omega
  have last : (line ++ after)[s.stop - 1]? ≠ some newline := by
    rw [List.getElem?_append_left before]
    exact fun here => plain (List.mem_of_getElem? here)
  have start : lineStart (line ++ after) s.start = 0 :=
    lineStartFrom_plain plain after 0 0 (by omega)
  simp [Span.cover, start, if_neg last, lineStop_inside plain ends inside]

theorem cover_behind (line rest : Text) {s : Span} (some_ : s.start < s.stop) :
    (s.shift (line.length + 1)).cover (line ++ newline :: rest) =
      (s.cover rest).shift (line.length + 1) := by
  have last : s.stop + (line.length + 1) - 1 = s.stop - 1 + (line.length + 1) := by omega
  simp only [Span.cover, Span.shift, lineStart_behind, lineStop_behind, last, getElem?_behind]
  split
  · rw [Nat.add_max_add_right]
  · rw [Nat.add_max_add_right]

theorem cover_start_le (t : Text) (s : Span) : (s.cover t).start ≤ s.start :=
  lineStart_le t s.start

/-- A cover goes on to the end of the span, but for a line feed there. -/
theorem le_cover_stop (t : Text) {s : Span} (some_ : s.start < s.stop) :
    s.stop ≤ (s.cover t).stop ∨
      t[s.stop - 1]? = some newline ∧ (s.cover t).stop = s.stop - 1 := by
  have front := lineStart_le t s.start
  unfold Span.cover
  dsimp only
  split
  · rename_i last
    exact Or.inr ⟨last, Nat.max_eq_left (by omega)⟩
  · left
    have stop : s.stop ≤ lineStop t s.stop := Nat.le_add_right _ _
    omega

theorem slice_behind (line rest : Text) (s : Span) :
    (s.shift (line.length + 1)).slice (line ++ newline :: rest) = s.slice rest := by
  unfold Span.slice Span.shift
  rw [drop_behind, Nat.add_sub_add_right]

theorem slice_of_line {t : Text} {p : PlacedLine} (mem : p ∈ linesOf t) :
    p.place.slice t = p.line ∧ newline ∉ p.line := by
  induction t using line_induction generalizing p with
  | last line plain =>
    rw [linesOf_last plain, List.mem_singleton] at mem
    subst mem
    exact ⟨by simp [Span.slice], plain⟩
  | more line rest plain ih =>
    rw [linesOf_line plain] at mem
    rcases List.mem_cons.mp mem with rfl | mem
    · exact ⟨by simp [Span.slice], plain⟩
    · obtain ⟨q, later, rfl⟩ := List.mem_map.mp mem
      have same := slice_behind line rest q.place
      exact ⟨same.trans (ih later).1, (ih later).2⟩

end FleetHealth
