import FleetHealth.Proofs.Signature.Leaders

/- What is left of matches when only the first with each text stays. It depends on the texts seen
   before, not on their order, and leaving out repeats early changes nothing. -/
namespace FleetHealth

theorem firstOfLines_congr {seen known : List Text} (same : ∀ l, l ∈ seen ↔ l ∈ known)
    (ms : List LineMatch) : firstOfLines seen ms = firstOfLines known ms := by
  rw [filter_firstOfLines, filter_firstOfLines]
  congr 1
  refine List.filter_congr fun m _ => ?_
  rw [Bool.eq_iff_iff]
  simp [same]

theorem firstOfLines_append (seen : List Text) (ms ns : List LineMatch) :
    firstOfLines seen (ms ++ ns) =
      firstOfLines seen ms ++ firstOfLines (ms.map LineMatch.line ++ seen) ns := by
  induction ms generalizing seen with
  | nil => rfl
  | cons m rest ih =>
    rw [List.cons_append, firstOfLines, firstOfLines]
    split
    · rename_i known
      simp only [List.contains_eq_mem, decide_eq_true_eq] at known
      have same : ∀ l, l ∈ rest.map LineMatch.line ++ seen ↔
          l ∈ (m :: rest).map LineMatch.line ++ seen := by
        intro l
        simp only [List.map_cons, List.cons_append, List.mem_cons, List.mem_append]
        constructor
        · exact Or.inr
        · rintro (rfl | other)
          · exact Or.inr known
          · exact other
      rw [ih, firstOfLines_congr same]
    · have same : ∀ l, l ∈ rest.map LineMatch.line ++ m.line :: seen ↔
          l ∈ (m :: rest).map LineMatch.line ++ seen := by simp [or_left_comm]
      rw [ih, List.cons_append, firstOfLines_congr same]

theorem firstOfLines_twice {before seen : List Text} (sub : before ⊆ seen) (ms : List LineMatch) :
    firstOfLines seen (firstOfLines before ms) = firstOfLines seen ms := by
  induction ms generalizing before seen with
  | nil => rfl
  | cons m rest ih =>
    by_cases known : m.line ∈ before
    · have knownToo := sub known
      simp [firstOfLines, known, knownToo, ih sub]
    · by_cases seenIt : m.line ∈ seen
      · have subToo : m.line :: before ⊆ seen := List.cons_subset.mpr ⟨seenIt, sub⟩
        simp [firstOfLines, known, seenIt, ih subToo]
      · have subToo : m.line :: before ⊆ m.line :: seen := List.cons_subset_cons _ sub
        simp [firstOfLines, known, seenIt, ih subToo]

theorem firstOfLines_subset (seen : List Text) (ms : List LineMatch) :
    firstOfLines seen ms ⊆ ms := by
  induction ms generalizing seen with
  | nil => exact List.Subset.refl _
  | cons m rest ih =>
    rw [firstOfLines]
    split
    · exact List.subset_cons_of_subset m (ih seen)
    · exact List.cons_subset_cons m (ih _)

/-- Every text is still there. -/
theorem mem_lines_firstOfLines (seen : List Text) (ms : List LineMatch) (l : Text) :
    l ∈ (firstOfLines seen ms).map LineMatch.line ∨ l ∈ seen ↔
      l ∈ ms.map LineMatch.line ∨ l ∈ seen := by
  induction ms generalizing seen with
  | nil => rfl
  | cons m rest ih =>
    rw [firstOfLines]
    split
    · rename_i known
      simp only [List.contains_eq_mem, decide_eq_true_eq] at known
      rw [ih, List.map_cons, List.mem_cons]
      constructor
      · rintro (later | old)
        · exact Or.inl (Or.inr later)
        · exact Or.inr old
      · rintro ((rfl | later) | old)
        · exact Or.inr known
        · exact Or.inl later
        · exact Or.inr old
    · have later := ih (m.line :: seen)
      simp only [List.map_cons, List.mem_cons] at later ⊢
      tauto

theorem firstOfLines_both (ms ns : List LineMatch) :
    firstOfLines [] (ms ++ ns) = firstOfLines [] (firstOfLines [] ms ++ firstOfLines [] ns) := by
  rw [firstOfLines_append, firstOfLines_append, firstOfLines_twice (List.Subset.refl []),
    firstOfLines_twice (List.nil_subset _)]
  congr 1
  refine firstOfLines_congr (fun l => ?_) ns
  have kept := mem_lines_firstOfLines [] ms l
  simpa using kept.symm

section
variable {d : Detector} {log : Text}

theorem hit_of_mem_scan {m : LineMatch} (mem : m ∈ d.scan log) :
    ∃ h ∈ d.hits log, d.describe log h = m := by
  obtain ⟨h, hit, shown⟩ := List.mem_map.mp (firstOfLines_subset _ _ mem)
  exact ⟨h, List.mem_mergeSort.mp hit, shown⟩

/-- A hit is reported, if not as it is then by one with the same text. -/
theorem mem_scan_of_hit {h : Hit} (hit : h ∈ d.hits log) :
    ∃ m ∈ d.scan log, m.line = (d.describe log h).line := by
  have found : d.describe log h ∈ ((d.hits log).mergeSort Hit.before).map (d.describe log) :=
    List.mem_map_of_mem (List.mem_mergeSort.mpr hit)
  have kept := (mem_lines_firstOfLines [] _ (d.describe log h).line).mpr
    (Or.inl (List.mem_map_of_mem found))
  rcases kept with kept | old
  · exact List.mem_map.mp kept
  · exact absurd old List.not_mem_nil

end

end FleetHealth
