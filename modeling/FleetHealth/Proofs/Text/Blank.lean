import FleetHealth.Text.Blank
import FleetHealth.Text.Basic
import Mathlib.Data.List.TakeWhile

/- White space around a text. What is trimmed is what stands between the white space at the ends. -/
namespace FleetHealth

variable {front t back : Text}

theorem isBlank_newline : isBlank newline = true := by decide

theorem isBlank_iff : Text.isBlank t = true ↔ ∀ c ∈ t, isBlank c = true := List.all_eq_true

theorem trimStart_blank (blank : Text.isBlank front = true) (t : Text) :
    trimStart (front ++ t) = trimStart t :=
  List.dropWhile_append_of_pos (isBlank_iff.mp blank)

theorem trimStart_append (some_ : ¬ Text.isBlank t = true) (back : Text) :
    trimStart (t ++ back) = trimStart t ++ back := by
  have kept : (t.dropWhile isBlank).isEmpty = false := by
    rw [List.isEmpty_eq_false_iff]
    intro nothing
    exact some_ (isBlank_iff.mpr (List.dropWhile_eq_nil_iff.mp nothing))
  simp [trimStart, List.dropWhile_append, kept]

theorem trimEnd_blank (t : Text) (blank : Text.isBlank back = true) :
    trimEnd (t ++ back) = trimEnd t := by
  unfold trimEnd
  rw [List.reverse_append, List.dropWhile_append_of_pos]
  intro c mem
  exact isBlank_iff.mp blank c (List.mem_reverse.mp mem)

theorem trimStart_eq_self (first : ∀ c ∈ t.head?, isBlank c = false) : trimStart t = t := by
  cases t with
  | nil => rfl
  | cons c t => simp [trimStart, first c rfl]

theorem trimEnd_eq_self (last : ∀ c ∈ t.getLast?, isBlank c = false) : trimEnd t = t := by
  have first : ∀ c ∈ t.reverse.head?, isBlank c = false := by rwa [List.head?_reverse]
  have kept : t.reverse.dropWhile isBlank = t.reverse := trimStart_eq_self first
  rw [trimEnd, kept, List.reverse_reverse]

/-- What is dropped from the beginning is white space, and what is left does not begin with any. -/
theorem exists_trimStart (t : Text) :
    ∃ front, Text.isBlank front = true ∧ t = front ++ trimStart t ∧
      ∀ c ∈ (trimStart t).head?, isBlank c = false := by
  refine ⟨t.takeWhile isBlank, ?_, List.takeWhile_append_dropWhile.symm, ?_⟩
  · rw [isBlank_iff]
    intro c mem
    exact List.mem_takeWhile_imp mem
  · intro c here
    have kept := List.head?_dropWhile_not isBlank t
    unfold trimStart at here
    rw [Option.mem_def.mp here] at kept
    exact kept

theorem exists_trimEnd (t : Text) :
    ∃ back, Text.isBlank back = true ∧ t = trimEnd t ++ back ∧
      ∀ c ∈ (trimEnd t).getLast?, isBlank c = false := by
  obtain ⟨front, blank, split, first⟩ := exists_trimStart t.reverse
  refine ⟨front.reverse, ?_, ?_, ?_⟩
  · rw [isBlank_iff] at blank ⊢
    intro c mem
    exact blank c (List.mem_reverse.mp mem)
  · have whole := congrArg List.reverse split
    rwa [List.reverse_reverse, List.reverse_append] at whole
  · intro c here
    unfold trimEnd at here
    rw [List.getLast?_reverse] at here
    exact first c here

theorem trimEnd_cons {c : Char} (shown : isBlank c = false) (t : Text) :
    ∃ u, trimEnd (c :: t) = c :: u := by
  obtain ⟨back, blank, split, -⟩ := exists_trimEnd (c :: t)
  cases left : trimEnd (c :: t) with
  | nil =>
    rw [left, List.nil_append] at split
    have gone := isBlank_iff.mp blank c (split ▸ List.mem_cons_self)
    rw [shown] at gone
    exact absurd gone Bool.false_ne_true
  | cons d u =>
    rw [left, List.cons_append] at split
    obtain ⟨rfl, -⟩ := List.cons.inj split
    exact ⟨u, rfl⟩

theorem trim_eq_nil_iff (t : Text) : trim t = [] ↔ Text.isBlank t = true := by
  rw [isBlank_iff]
  induction t with
  | nil => simp [trim, trimStart, trimEnd]
  | cons c t ih =>
    by_cases blank : isBlank c = true
    · simpa [trim, trimStart, List.dropWhile_cons, blank] using ih
    · have kept : trimStart (c :: t) = c :: t := by simp [trimStart, blank]
      rw [trim, kept, trimEnd, List.reverse_eq_nil_iff, List.dropWhile_eq_nil_iff]
      simp only [List.mem_reverse]

theorem trim_blank (t : Text) (blank : Text.isBlank back = true) : trim (t ++ back) = trim t := by
  by_cases nothing : Text.isBlank t = true
  · have all : Text.isBlank (t ++ back) = true := by
      rw [Text.isBlank, List.all_append, Bool.and_eq_true]
      exact ⟨nothing, blank⟩
    rw [(trim_eq_nil_iff _).mpr all, (trim_eq_nil_iff t).mpr nothing]
  · rw [trim, trimStart_append nothing, trimEnd_blank _ blank, trim]

end FleetHealth
