import FleetHealth.Pattern.Compile
import FleetHealth.Pattern.Search

/- What a pattern stands for, apart from the way in which it is searched for: the texts that a term
   matches, with the texts before and behind them, because a term can look at both sides. -/
namespace FleetHealth.Pattern

/-- The term matches the third text between the second and the fourth. A repetition matches what
as many copies of its body do, one after the other. -/
inductive Term.Matches : Term → Text → Text → Text → Prop where
  | empty {before after : Text} : Matches .empty before [] after
  | literal {t before after : Text} : Matches (.literal t) before t after
  | oneOf {s : Unicode.CharSet} {c : Char} {before after : Text} (mem : s.contains c = true) :
      Matches (.oneOf s) before [c] after
  | look {l : Look} {before after : Text}
      (holds : l.holds ⟨before.getLast?, after.head?⟩ = true) : Matches (.look l) before [] after
  | capture {i : Nat} {body : Term} {before inner after : Text}
      (m : Matches body before inner after) : Matches (.capture i body) before inner after
  | repetition {count : Count} {greedy : Bool} {body : Term} {n : Nat} {before inner after : Text}
      (least : count.min ≤ n) (most : ∀ m ∈ count.max, n ≤ m)
      (m : Matches (.concat (List.replicate n body)) before inner after) :
      Matches (.repetition count greedy body) before inner after
  | done {before after : Text} : Matches (.concat []) before [] after
  | next {item : Term} {items : List Term} {before left right after : Text}
      (first : Matches item before left (right ++ after))
      (rest : Matches (.concat items) (before ++ left) right after) :
      Matches (.concat (item :: items)) before (left ++ right) after
  | branch {t : Term} {branches : List Term} {before inner after : Text} (mem : t ∈ branches)
      (m : Matches t before inner after) : Matches (.alternation branches) before inner after

namespace Term

variable {before inner after : Text}

theorem matches_literal {t : Text} : Matches (.literal t) before inner after ↔ inner = t := by
  constructor
  · intro m
    cases m
    rfl
  · rintro rfl
    exact .literal

theorem matches_look {l : Look} :
    Matches (.look l) before inner after ↔
      inner = [] ∧ l.holds ⟨before.getLast?, after.head?⟩ = true := by
  constructor
  · intro m
    cases m with
    | look holds => exact ⟨rfl, holds⟩
  · rintro ⟨rfl, holds⟩
    exact .look holds

theorem matches_nil : Matches (.concat []) before inner after ↔ inner = [] := by
  constructor
  · intro m
    cases m
    rfl
  · rintro rfl
    exact .done

theorem matches_cons {item : Term} {items : List Term} :
    Matches (.concat (item :: items)) before inner after ↔
      ∃ left right, inner = left ++ right ∧ item.Matches before left (right ++ after) ∧
        Matches (.concat items) (before ++ left) right after := by
  constructor
  · intro m
    cases m with
    | next first rest => exact ⟨_, _, rfl, first, rest⟩
  · rintro ⟨left, right, rfl, first, rest⟩
    exact .next first rest

/-- Somewhere in the text there is a match. -/
def FoundIn (t : Term) (text : Text) : Prop :=
  ∃ before inner after, text = before ++ (inner ++ after) ∧ t.Matches before inner after

/-- A text that is all there is between the beginning and the end. -/
def whole (t : Text) : Term := .concat [.look .textStart, .literal t, .look .textEnd]

theorem whole_matches_iff {t : Text} :
    (whole t).Matches before inner after ↔ before = [] ∧ inner = t ∧ after = [] := by
  simp only [whole, matches_cons, matches_look, matches_literal, matches_nil, Look.holds,
    Option.isNone_iff_eq_none, List.getLast?_eq_none_iff, List.head?_eq_none_iff]
  constructor
  · rintro ⟨_, _, rfl, ⟨rfl, rfl⟩, _, _, rfl, rfl, _, _, rfl, ⟨rfl, end_⟩, rfl⟩
    simpa using end_
  · rintro ⟨rfl, rfl, rfl⟩
    exact ⟨[], inner, rfl, ⟨rfl, rfl⟩, inner, [], by simp, rfl, [], [], rfl, ⟨rfl, rfl⟩, rfl⟩

theorem whole_foundIn_iff (t text : Text) : (whole t).FoundIn text ↔ text = t := by
  constructor
  · rintro ⟨before, inner, after, rfl, m⟩
    obtain ⟨rfl, rfl, rfl⟩ := whole_matches_iff.mp m
    simp
  · rintro rfl
    exact ⟨[], text, [], by simp, whole_matches_iff.mpr ⟨rfl, rfl, rfl⟩⟩

end Term

/-- The term of a written pattern, whatever its automaton would take. -/
def termOf (pattern : Text) : Except Fault Term := do
  let ast ← parse pattern
  let (t, _) ← ast.meaning .initial
  .ok t

/-- The pattern can be read and is found in the text. -/
def Finds (pattern text : Text) : Prop := ∃ t, termOf pattern = .ok t ∧ t.FoundIn text

end FleetHealth.Pattern
