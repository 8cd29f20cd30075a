import FleetHealth.Text.Substring
import Mathlib.Data.List.Infix

/- Where a text occurs in another one. There is an occurrence exactly where the text is a part of the
   other, and one without line feeds occurs in the lines of a text one by one. -/
namespace FleetHealth

theorem Text.contains_iff_infix (needle t : Text) :
    Text.contains needle t = true ↔ needle <:+: t := by
  induction t with
  | nil => simp [Text.contains]
  | cons c r ih =>
    rw [Text.contains, Bool.or_eq_true, ih, List.infix_cons_iff, List.isPrefixOf_iff_prefix]

theorem occurrencesFrom_eq_nil_iff {needle : Text} (some_ : needle ≠ []) (at_ : Nat) (t : Text) :
    occurrencesFrom needle 0 at_ t = [] ↔ ¬ needle <:+: t := by
  induction t generalizing at_ with
  | nil => simp [occurrencesFrom, some_]
  | cons c r ih =>
    rw [occurrencesFrom, List.infix_cons_iff, ← List.isPrefixOf_iff_prefix]
    split
    · rename_i here
      simp [here]
    · rename_i elsewhere
      rw [ih]
      simp [elsewhere]

theorem occurrences_eq_nil_iff (needle t : Text) :
    occurrences needle t = [] ↔ ¬ (needle ≠ [] ∧ needle <:+: t) := by
  unfold occurrences
  cases needle with
  | nil => simp
  | cons c rest =>
    rw [if_neg (by simp), occurrencesFrom_eq_nil_iff (by simp)]
    simp

/-- The span `n` characters further on. -/
def Span.shift (n : Nat) (s : Span) : Span := ⟨s.start + n, s.stop + n⟩

theorem occurrencesFrom_shift (needle : Text) (skip at_ n : Nat) (t : Text) :
    occurrencesFrom needle skip (at_ + n) t =
      (occurrencesFrom needle skip at_ t).map (Span.shift n) := by
  induction t generalizing skip at_ with
  | nil => rfl
  | cons c r ih =>
    have further := fun skip => ih skip (at_ + 1)
    simp only [Nat.add_right_comm at_ 1 n] at further
    cases skip with
    | succ k => simpa only [occurrencesFrom] using further k
    | zero =>
      simp only [occurrencesFrom]
      split
      · rw [List.map_cons, further]
        simp [Span.shift, Nat.add_right_comm]
      · exact further 0

theorem occurrencesFrom_within {needle : Text} {skip at_ : Nat} {t : Text} {s : Span}
    (mem : s ∈ occurrencesFrom needle skip at_ t) :
    at_ ≤ s.start ∧ s.stop = s.start + needle.length ∧ s.stop ≤ at_ + t.length := by
  induction t generalizing skip at_ with
  | nil => simp [occurrencesFrom] at mem
  | cons c r ih =>
    cases skip with
    | succ k =>
      have later := ih (by simpa only [occurrencesFrom] using mem)
      rw [List.length_cons]
      omega
    | zero =>
      simp only [occurrencesFrom] at mem
      split at mem
      · rename_i here
        have fits := (List.isPrefixOf_iff_prefix.mp here).length_le
        rcases List.mem_cons.mp mem with rfl | mem
        · exact ⟨Nat.le_refl _, rfl, Nat.add_le_add_left fits at_⟩
        · have later := ih mem
          rw [List.length_cons]
          omega
      · have later := ih mem
        rw [List.length_cons]
        omega

theorem occurrences_within {needle t : Text} {s : Span} (mem : s ∈ occurrences needle t) :
    s.start < s.stop ∧ s.stop ≤ t.length := by
  unfold occurrences at mem
  split at mem
  · simp at mem
  · rename_i some_
    have inside := occurrencesFrom_within mem
    have long := List.length_pos_of_ne_nil (by simpa using some_ : needle ≠ [])
    omega

theorem occurrencesFrom_begins {needle : Text} {skip at_ : Nat} {t : Text} {s : Span}
    (mem : s ∈ occurrencesFrom needle skip at_ t) : needle <+: t.drop (s.start - at_) := by
  induction t generalizing skip at_ with
  | nil => simp [occurrencesFrom] at mem
  | cons c r ih =>
    have further {k : Nat} (later : s ∈ occurrencesFrom needle k (at_ + 1) r) :
        needle <+: (c :: r).drop (s.start - at_) := by
      have behind := (occurrencesFrom_within later).1
      have next : s.start - at_ = s.start - (at_ + 1) + 1 := by omega
      rw [next, List.drop_succ_cons]
      exact ih later
    cases skip with
    | succ k =>
      apply further
      simpa only [occurrencesFrom] using mem
    | zero =>
      simp only [occurrencesFrom] at mem
      split at mem
      · rename_i here
        rcases List.mem_cons.mp mem with rfl | mem
        · simpa using List.isPrefixOf_iff_prefix.mp here
        · exact further mem
      · exact further mem

/-- What occurs is met, unless it begins on characters that are skipped: then it begins in what is met
before it. -/
theorem occurrencesFrom_meets {needle : Text} (some_ : needle ≠ []) {t : Text} {n : Nat}
    (here : needle <+: t.drop n) (skip at_ : Nat) :
    n < skip ∨ ∃ s ∈ occurrencesFrom needle skip at_ t, s.start ≤ at_ + n ∧ at_ + n < s.stop := by
  have long := List.length_pos_of_ne_nil some_
  induction t generalizing skip at_ n with
  | nil =>
    rw [List.drop_nil, List.prefix_nil] at here
    exact absurd here some_
  | cons c r ih =>
    cases n with
    | zero =>
      cases skip with
      | succ k => exact Or.inl (Nat.succ_pos k)
      | zero =>
        right
        rw [List.drop_zero] at here
        simp only [occurrencesFrom, List.isPrefixOf_iff_prefix.mpr here, if_true]
        exact ⟨_, List.mem_cons_self, Nat.le_refl at_, by simp only; omega⟩
    | succ n =>
      rw [List.drop_succ_cons] at here
      have further (k : Nat) : n < k ∨ ∃ s ∈ occurrencesFrom needle k (at_ + 1) r,
          s.start ≤ at_ + (n + 1) ∧ at_ + (n + 1) < s.stop := by
        have later := ih here k (at_ + 1)
        rwa [Nat.add_assoc, Nat.add_comm 1 n] at later
      cases skip with
      | succ k =>
        simp only [occurrencesFrom]
        rcases further k with skipped | met
        · exact Or.inl (Nat.succ_lt_succ skipped)
        · exact Or.inr met
      | zero =>
        right
        simp only [occurrencesFrom]
        split
        · rcases further (needle.length - 1) with skipped | ⟨s, mem, inside⟩
          · exact ⟨_, List.mem_cons_self, by simp only; omega, by simp only; omega⟩
          · exact ⟨s, List.mem_cons_of_mem _ mem, inside⟩
        · rcases further 0 with skipped | met
          · exact absurd skipped (Nat.not_lt_zero n)
          · exact met

theorem occurrences_meet {needle t : Text} (some_ : needle ≠ []) {n : Nat}
    (here : needle <+: t.drop n) : ∃ s ∈ occurrences needle t, s.start ≤ n ∧ n < s.stop := by
  unfold occurrences
  rw [if_neg (by simpa using some_)]
  rcases occurrencesFrom_meets some_ here 0 0 with skipped | met
  · omega
  · simpa using met

/-- A text without line feeds does not begin in one line and end in another. -/
theorem prefix_line_iff {needle rest : Text} {mark : Char} (plain : mark ∉ needle)
    (line : Text) :
    needle <+: line ++ mark :: rest ↔ needle <+: line := by
  constructor
  · intro begins
    rcases List.prefix_or_prefix_of_prefix begins (List.prefix_append line (mark :: rest)) with
      short | ⟨more, rfl⟩
    · exact short
    · rw [List.prefix_append_right_inj] at begins
      cases more with
      | nil => rw [List.append_nil]
      | cons c more =>
        obtain rfl : c = mark := (List.cons_prefix_cons.mp begins).1
        exact absurd (by simp) plain
  · exact fun begins => begins.trans (List.prefix_append line (mark :: rest))

/-- A text without the character is on one side of it. -/
theorem infix_beside {t before after : Text} {c : Char} (absent : c ∉ t)
    (part : t <:+: before ++ c :: after) : t <:+: before ∨ t <:+: after := by
  rcases List.infix_append_iff_ne_nil.mp part with front | behind | ⟨u, v, -, some_, rfl, -, begins⟩
  · exact Or.inl front
  · rcases List.infix_cons_iff.mp behind with begins | later
    · exact Or.inl (((prefix_line_iff absent []).mp begins).isInfix.trans List.nil_infix)
    · exact Or.inr later
  · have absentToo : c ∉ v := fun mem => absent (List.mem_append_right u mem)
    have nothing := (prefix_line_iff absentToo []).mp begins
    exact absurd (List.prefix_nil.mp nothing) some_

theorem occurrencesFrom_line {needle : Text} {mark : Char} (some_ : needle ≠ [])
    (plain : mark ∉ needle) (line rest : Text) {skip : Nat} (at_ : Nat)
    (inside : skip ≤ line.length) :
    occurrencesFrom needle skip at_ (line ++ mark :: rest) =
      occurrencesFrom needle skip at_ line ++
        occurrencesFrom needle 0 (at_ + (line.length + 1)) rest := by
  -- On the line: what is still skipped belongs to a match inside it, as `inside` says.
  induction line generalizing skip at_ with
  | nil =>
    obtain rfl : skip = 0 := Nat.le_zero.mp inside
    have elsewhere : needle.isPrefixOf (mark :: rest) = false := by
      rw [Bool.eq_false_iff, ne_eq, List.isPrefixOf_iff_prefix]
      intro begins
      have nothing := (prefix_line_iff plain []).mp begins
      exact some_ (List.prefix_nil.mp nothing)
    simp [occurrencesFrom, elsewhere]
  | cons c line ih =>
    have next : at_ + 1 + (line.length + 1) = at_ + ((c :: line).length + 1) := by
      rw [List.length_cons]
      omega
    rw [List.cons_append]
    cases skip with
    | succ k =>
      simp only [occurrencesFrom]
      rw [ih (at_ + 1) (Nat.le_of_succ_le_succ inside), next]
    | zero =>
      have same : needle.isPrefixOf (c :: (line ++ mark :: rest)) =
          needle.isPrefixOf (c :: line) := by
        rw [Bool.eq_iff_iff, List.isPrefixOf_iff_prefix, List.isPrefixOf_iff_prefix]
        exact prefix_line_iff plain (c :: line)
      simp only [occurrencesFrom, same]
      split
      · rename_i here
        have fits := (List.isPrefixOf_iff_prefix.mp here).length_le
        rw [List.length_cons] at fits
        rw [ih (at_ + 1) (by omega), next, List.cons_append]
      · rw [ih (at_ + 1) (Nat.zero_le _), next]

/-- Occurrences are found line by line. -/
theorem occurrences_line {needle : Text} {mark : Char} (plain : mark ∉ needle)
    (line rest : Text) :
    occurrences needle (line ++ mark :: rest) =
      occurrences needle line ++
        (occurrences needle rest).map (Span.shift (line.length + 1)) := by
  unfold occurrences
  split
  · rfl
  · rename_i some_
    rw [occurrencesFrom_line (by simpa using some_) plain line rest 0 (Nat.zero_le _),
      occurrencesFrom_shift]

end FleetHealth
