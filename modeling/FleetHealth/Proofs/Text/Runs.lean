import FleetHealth.Proofs.Text.Lines

/- Lines that follow each other: joined to a text and cut again they are the same, and they are the
   lines that are read, but for what stands behind the last line feed. -/
namespace FleetHealth

/-- The number of the line on which a position is. -/
def lineIndex (t : Text) (n : Nat) : Nat := (t.take n).count newline

/-- The lines from number `i` to number `j`. -/
def lineRun (i j : Nat) (lines : List Text) : List Text := (lines.take (j + 1)).drop i

variable {line rest t : Text} {lines : List Text}

theorem joinLines_cons (line : Text) (some_ : lines ≠ []) :
    joinLines (line :: lines) = line ++ newline :: joinLines lines := by
  obtain ⟨next, more, rfl⟩ := List.exists_cons_of_ne_nil some_
  simp [joinLines, joinWith]

theorem joinLines_single (line : Text) : joinLines [line] = line := rfl

theorem cutLines_ne_nil (t : Text) : cutLines t ≠ [] := by
  rw [cutLines_eq_splitOn]
  exact List.splitOn_ne_nil newline t

theorem length_cutLines (t : Text) : (cutLines t).length = t.count newline + 1 := by
  induction t using line_induction with
  | last line plain => rw [cutLines_last plain, List.count_eq_zero.mpr plain, List.length_singleton]
  | more line rest plain ih =>
    rw [cutLines_line plain, List.length_cons, ih, List.count_append, List.count_cons_self,
      List.count_eq_zero.mpr plain, Nat.zero_add]

theorem plain_of_mem_cutLines (mem : line ∈ cutLines t) : newline ∉ line := by
  induction t using line_induction with
  | last only plain =>
    rw [cutLines_last plain, List.mem_singleton] at mem
    exact mem ▸ plain
  | more first rest plain ih =>
    rw [cutLines_line plain] at mem
    rcases List.mem_cons.mp mem with rfl | later
    · exact plain
    · exact ih later

theorem cutLines_joinLines (some_ : lines ≠ []) (plain : ∀ line ∈ lines, newline ∉ line) :
    cutLines (joinLines lines) = lines := by
  induction lines with
  | nil => exact absurd rfl some_
  | cons line more ih =>
    obtain ⟨first, plain⟩ := List.forall_mem_cons.mp plain
    by_cases last : more = []
    · rw [last, joinLines_single, cutLines_last first]
    · rw [joinLines_cons line last, cutLines_line first, ih last plain]

theorem joinLines_cutLines (t : Text) : joinLines (cutLines t) = t := by
  induction t using line_induction with
  | last line plain => rw [cutLines_last plain, joinLines_single]
  | more line rest plain ih =>
    rw [cutLines_line plain, joinLines_cons line (cutLines_ne_nil rest), ih]

theorem joinLines_snoc (lines : List Text) (last : Text) :
    joinLines (lines ++ [last]) = lines.flatMap (· ++ [newline]) ++ last := by
  induction lines with
  | nil => rfl
  | cons line lines ih =>
    rw [List.cons_append, joinLines_cons line (by simp), ih, List.flatMap_cons]
    simp

theorem joinLines_ended {lines : List Text} (some_ : lines ≠ []) :
    joinLines lines ++ [newline] = lines.flatMap (· ++ [newline]) := by
  obtain ⟨earlier, last, rfl⟩ := List.eq_nil_or_concat' lines |>.resolve_left some_
  rw [joinLines_snoc]
  simp

theorem joinLines_isInfix {run : List Text} (part : run <:+: lines) :
    joinLines run <:+: joinLines lines := by
  obtain ⟨before, after, rfl⟩ := part
  rcases List.eq_nil_or_concat' run with rfl | ⟨run, last, rfl⟩
  · exact List.nil_infix
  · rw [joinLines_snoc]
    rcases List.eq_nil_or_concat' after with rfl | ⟨after, end_, rfl⟩
    · refine ⟨before.flatMap (· ++ [newline]), [], ?_⟩
      rw [List.append_nil, List.append_nil, ← List.append_assoc before, joinLines_snoc,
        List.flatMap_append, List.append_assoc]
    · refine ⟨before.flatMap (· ++ [newline]),
        newline :: (after.flatMap (· ++ [newline]) ++ end_), ?_⟩
      simp only [← List.append_assoc]
      rw [joinLines_snoc]
      simp

theorem plain_dropReturn (plain : newline ∉ line) : newline ∉ dropReturn line := by
  unfold dropReturn
  split
  · exact fun mem => plain (List.mem_of_mem_dropLast mem)
  · exact plain

theorem lineIndex_inside (plain : newline ∉ line) (rest : Text) {n : Nat}
    (inside : n ≤ line.length) : lineIndex (line ++ rest) n = 0 := by
  unfold lineIndex
  rw [List.take_append_of_le_length inside, List.count_eq_zero]
  exact fun mem => plain (List.mem_of_mem_take mem)

theorem take_behind (line rest : Text) (n : Nat) :
    (line ++ newline :: rest).take (n + (line.length + 1)) = line ++ newline :: rest.take n := by
  have further : n + (line.length + 1) - line.length = n + 1 := by omega
  rw [List.take_append, List.take_of_length_le (by omega), further, List.take_succ_cons]

theorem lineIndex_behind (plain : newline ∉ line) (rest : Text) (n : Nat) :
    lineIndex (line ++ newline :: rest) (n + (line.length + 1)) = lineIndex rest n + 1 := by
  unfold lineIndex
  rw [take_behind, List.count_append, List.count_cons_self, List.count_eq_zero.mpr plain,
    Nat.zero_add]

theorem lineRun_behind (i j : Nat) (line : Text) (lines : List Text) :
    lineRun (i + 1) (j + 1) (line :: lines) = lineRun i j lines := rfl

theorem lineRun_first (j : Nat) (line : Text) (lines : List Text) :
    lineRun 0 (j + 1) (line :: lines) = line :: lineRun 0 j lines := rfl

theorem lineRun_ne_nil {i j : Nat} (order : i ≤ j) (inside : i < lines.length) :
    lineRun i j lines ≠ [] := by
  rw [← List.length_pos_iff, lineRun, List.length_drop, List.length_take]
  omega

theorem lineIndex_mono (t : Text) {n k : Nat} (le : n ≤ k) : lineIndex t n ≤ lineIndex t k :=
  (List.take_sublist_take_left le).count_le newline

theorem lineIndex_lt_cutLines (t : Text) (n : Nat) : lineIndex t n < (cutLines t).length := by
  rw [length_cutLines]
  exact Nat.lt_succ_of_le ((List.take_sublist n t).count_le newline)

theorem mem_lineRun_of_between {i j k : Nat} (here : lines[k]? = some line) (first : i ≤ k)
    (last : k ≤ j) : line ∈ lineRun i j lines := by
  apply List.mem_of_getElem? (i := k - i)
  rw [lineRun, List.getElem?_drop, List.getElem?_take]
  have place : i + (k - i) = k := by omega
  rw [place, if_pos (by omega)]
  exact here

theorem lineRun_map (f : Text → Text) (i j : Nat) (lines : List Text) :
    (lineRun i j lines).map f = lineRun i j (lines.map f) := by
  unfold lineRun
  rw [List.map_drop, List.map_take]

theorem lineRun_isInfix (i j : Nat) (lines : List Text) : lineRun i j lines <:+: lines :=
  (List.drop_suffix i _).isInfix.trans (List.take_prefix (j + 1) lines).isInfix

theorem lineRun_of_begins {read cut : List Text} {i j : Nat} (begins : read <+: cut)
    (inside : j < read.length) :
    lineRun i j cut = lineRun i j read := by
  obtain ⟨more, rfl⟩ := begins
  unfold lineRun
  rw [List.take_append_of_le_length inside]

theorem readLines_last (plain : newline ∉ line) :
    readLines line = if line = [] then [] else [line] := by
  unfold readLines
  rw [cutLines_last plain]
  cases line <;> rfl

theorem readLines_line (plain : newline ∉ line) (rest : Text) :
    readLines (line ++ newline :: rest) = dropReturn line :: readLines rest := by
  obtain ⟨next, more, cut⟩ := List.exists_cons_of_ne_nil (cutLines_ne_nil rest)
  unfold readLines
  rw [cutLines_line plain, cut]
  simp only [List.dropLast_cons_cons, List.getLast?_cons_cons, List.map_cons]
  split <;> simp

theorem lineIndex_lt_readLines {n : Nat} (inside : n < t.length) :
    lineIndex t n < (readLines t).length := by
  induction t using line_induction generalizing n with
  | last line plain =>
    have some_ : line ≠ [] := List.ne_nil_of_length_pos (by omega)
    have front := lineIndex_inside plain [] (Nat.le_of_lt inside)
    rw [List.append_nil] at front
    rw [front, readLines_last plain, if_neg some_]
    exact Nat.one_pos
  | more line rest plain ih =>
    rw [readLines_line plain, List.length_cons]
    by_cases front : n ≤ line.length
    · rw [lineIndex_inside plain _ front]
      exact Nat.succ_pos _
    · obtain ⟨k, rfl⟩ := Nat.exists_eq_add_of_le' (by omega : line.length + 1 ≤ n)
      rw [List.length_append, List.length_cons] at inside
      have later := ih (n := k) (by omega)
      rw [lineIndex_behind plain]
      omega

/-- All lines are read without their carriage returns, unless the text ends with one. -/
theorem readLines_begins (open_ : t.getLast? ≠ some '\r') :
    readLines t <+: (cutLines t).map dropReturn := by
  induction t using line_induction with
  | last line plain =>
    have whole : dropReturn line = line := if_neg open_
    rw [readLines_last plain, cutLines_last plain, List.map_singleton, whole]
    split
    · exact List.nil_prefix
    · exact List.prefix_rfl
  | more line rest plain ih =>
    rw [readLines_line plain, cutLines_line plain, List.map_cons, List.prefix_cons_inj]
    apply ih
    intro ends
    apply open_
    cases rest with
    | nil => simp at ends
    | cons c rest => simpa using ends

theorem readLines_of_return (ends : t.getLast? = some '\r') :
    ∃ earlier last, readLines t = earlier ++ [last ++ ['\r']] ∧
      (cutLines t).map dropReturn = earlier ++ [last] := by
  induction t using line_induction with
  | last line plain =>
    obtain ⟨last, rfl⟩ := List.getLast?_eq_some_iff.mp ends
    refine ⟨[], last, ?_, ?_⟩
    · rw [readLines_last plain, if_neg (by simp)]
      rfl
    · rw [cutLines_last plain]
      simp [dropReturn]
  | more line rest plain ih =>
    cases rest with
    | nil => simp [newline] at ends
    | cons c rest =>
      obtain ⟨earlier, last, read, cut⟩ := ih (by simpa using ends)
      refine ⟨dropReturn line :: earlier, last, ?_, ?_⟩
      · rw [readLines_line plain, read, List.cons_append]
      · rw [cutLines_line plain, List.map_cons, cut, List.cons_append]

end FleetHealth
