import FleetHealth.Proofs.Text.Runs

/- The lines that are read from a text, put together again: the same text, but that every line ends
   with a line feed and nothing else. -/
namespace FleetHealth

/-- No characters stand behind the last line feed. -/
def Ended (t : Text) : Prop := t = [] ∨ t.getLast? = some newline

instance (t : Text) : Decidable (Ended t) := inferInstanceAs (Decidable (_ ∨ _))

variable {line rest t : Text}

theorem ended_last (plain : newline ∉ line) : Ended line ↔ line = [] := by
  constructor
  · rintro (nothing | ends)
    · exact nothing
    · exact absurd (List.mem_of_getLast? ends) plain
  · exact Or.inl

theorem ended_line (line rest : Text) : Ended (line ++ newline :: rest) ↔ Ended rest := by
  cases rest with
  | nil => simp [Ended]
  | cons c rest => simp [Ended]

theorem replaceFrom_step {c : Char} (other : c ≠ '\r' ∨ t.head? ≠ some newline) :
    replaceFrom ['\r', newline] [newline] 0 (c :: t) =
      c :: replaceFrom ['\r', newline] [newline] 0 t := by
  have elsewhere : ¬ List.isPrefixOf ['\r', newline] (c :: t) = true := by
    rw [List.isPrefixOf_iff_prefix, List.cons_prefix_cons]
    rintro ⟨rfl, _, rfl⟩
    simp at other
  rw [replaceFrom, if_neg elsewhere]

theorem dropReturn_cons {c : Char} (some_ : line ≠ []) :
    dropReturn (c :: line) = c :: dropReturn line := by
  obtain ⟨b, line, rfl⟩ := List.exists_cons_of_ne_nil some_
  unfold dropReturn
  rw [List.getLast?_cons_cons, List.dropLast_cons_cons]
  split <;> rfl

/-- The carriage return and the line feed at the end of a line give way to a line feed. -/
theorem replaceFrom_line (plain : newline ∉ line) (rest : Text) :
    replaceFrom ['\r', newline] [newline] 0 (line ++ newline :: rest) =
      dropReturn line ++ newline :: replaceFrom ['\r', newline] [newline] 0 rest := by
  induction line with
  | nil => exact replaceFrom_step (Or.inl (by decide))
  | cons c line ih =>
    rw [List.mem_cons, not_or] at plain
    have later := ih plain.2
    cases line with
    | nil =>
      by_cases return_ : c = '\r'
      · subst return_
        simp [replaceFrom, dropReturn]
      · have whole : dropReturn [c] = [c] := if_neg (by simpa using return_)
        rw [List.cons_append, replaceFrom_step (Or.inl return_), later, whole]
        rfl
    | cons b line =>
      have elsewhere : (b :: line ++ newline :: rest).head? ≠ some newline := by
        intro here
        exact plain.2 (Option.some.inj here ▸ List.mem_cons_self)
      rw [List.cons_append, replaceFrom_step (Or.inr elsewhere), later,
        dropReturn_cons (List.cons_ne_nil b line), List.cons_append]

theorem replaceFrom_last (plain : newline ∉ line) :
    replaceFrom ['\r', newline] [newline] 0 line = line := by
  induction line with
  | nil => rfl
  | cons c line ih =>
    rw [List.mem_cons, not_or] at plain
    have elsewhere : line.head? ≠ some newline := by
      intro here
      exact plain.2 (List.mem_of_mem_head? here)
    rw [replaceFrom_step (Or.inr elsewhere), ih plain.2]

theorem readLines_joined (t : Text) :
    (readLines t).flatMap (· ++ [newline]) =
      replaceAll ['\r', newline] [newline] t ++ if Ended t then [] else [newline] := by
  have search : ∀ u, replaceAll ['\r', newline] [newline] u =
      replaceFrom ['\r', newline] [newline] 0 u := fun _ => rfl
  rw [search]
  induction t using line_induction with
  | last line plain =>
    rw [readLines_last plain, replaceFrom_last plain]
    by_cases nothing : line = []
    · rw [if_pos nothing, if_pos ((ended_last plain).mpr nothing), nothing]
      rfl
    · rw [if_neg nothing, if_neg fun ended => nothing ((ended_last plain).mp ended)]
      simp
  | more line rest plain ih =>
    rw [readLines_line plain, replaceFrom_line plain, List.flatMap_cons, ih]
    simp only [ended_line, List.append_assoc, List.cons_append, List.nil_append]

theorem length_readLines (t : Text) :
    (readLines t).length = t.count newline + if Ended t then 0 else 1 := by
  induction t using line_induction with
  | last line plain =>
    rw [readLines_last plain, List.count_eq_zero.mpr plain, Nat.zero_add]
    simp only [ended_last plain]
    split <;> rfl
  | more line rest plain ih =>
    rw [readLines_line plain, List.length_cons, ih, List.count_append, List.count_cons_self,
      List.count_eq_zero.mpr plain]
    simp only [ended_line]
    omega

theorem plain_of_mem_readLines (mem : line ∈ readLines t) : newline ∉ line := by
  induction t using line_induction with
  | last only plain =>
    rw [readLines_last plain] at mem
    split at mem
    · simp at mem
    · exact List.mem_singleton.mp mem ▸ plain
  | more first rest plain ih =>
    rw [readLines_line plain] at mem
    rcases List.mem_cons.mp mem with rfl | later
    · exact plain_dropReturn plain
    · exact ih later

end FleetHealth
