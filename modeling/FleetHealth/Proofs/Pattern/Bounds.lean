import FleetHealth.Pattern.Search
import Mathlib.Tactic.Common

/- No match ends behind the end of the text. The search is at a place of the text throughout, and
   what it accepts ends where it is. -/
namespace FleetHealth.Pattern.Automaton

variable {a : Automaton} {edges at_ : Nat} {before : Option Char} {marks : Marks} {rest : Text}
  {s : Span}

/-- The best match is an old one or the one that is accepted here. -/
theorem stop_le_of_accepted {best : Option Span} (known : ∀ s ∈ best, s.stop ≤ at_)
    (accepted : Option Thread) :
    ∀ s : Span, s ∈ (match accepted with
      | some t => some (Span.mk t.start at_)
      | none => best) → s.stop ≤ at_ := by
  cases accepted with
  | none => exact known
  | some t =>
    intro s found
    obtain rfl := Option.some.inj found
    exact Nat.le_refl at_

theorem searchFrom_stop_le {best : Option Span} {f : Frontier}
    (known : ∀ s ∈ best, s.stop ≤ at_)
    (found : s ∈ (a.searchFrom edges at_ before best f rest).1) :
    s.stop ≤ at_ + rest.length := by
  induction rest generalizing at_ before best f with
  | nil =>
    unfold searchFrom at found
    generalize (if best.isNone = true then
      a.reach ⟨before, List.head? []⟩ at_ edges [0] f else f) = ways at found
    exact stop_le_of_accepted known (a.cutAtAccept ways.threads.reverse).2 s found
  | cons c rest ih =>
    have onward {best : Option Span} {going : List Thread} {marks : Marks} {f : Frontier}
        (known : ∀ s ∈ best, s.stop ≤ at_)
        (found : s ∈ (if going.isEmpty && best.isSome then (best, marks)
          else a.searchFrom edges (at_ + 1) (some c) best f rest).1) :
        s.stop ≤ at_ + (c :: rest).length := by
      rw [List.length_cons]
      split at found
      · have here := known s found
        omega
      · have later := ih (fun s mem => Nat.le_succ_of_le (known s mem)) found
        omega
    unfold searchFrom at found
    generalize (if best.isNone = true then
      a.reach ⟨before, (c :: rest).head?⟩ at_ edges [0] f else f) = ways at found
    exact onward (stop_le_of_accepted known (a.cutAtAccept ways.threads.reverse).2) found

theorem find_stop_le (found : s ∈ (a.find edges at_ before marks rest).1) :
    s.stop ≤ at_ + rest.length :=
  searchFrom_stop_le (by simp) found

theorem next_stop_le {lastStop : Option Nat}
    (found : s ∈ (a.next edges lastStop at_ before marks rest).1) :
    s.stop ≤ at_ + rest.length := by
  unfold next at found
  dsimp only at found
  split at found
  · simp at found
  · rename_i first met
    split at found
    · -- The empty match is passed over, so one character less is searched.
      cases rest with
      | nil => simp at found
      | cons c rest =>
        have later := find_stop_le found
        rw [List.length_cons]
        omega
    · obtain rfl := Option.some.inj found
      exact find_stop_le met

theorem length_skipChars (n : Nat) (before : Option Char) (t : Text) :
    (skipChars n before t).2.length = t.length - n := by
  induction t generalizing n before with
  | nil => cases n <;> simp [skipChars]
  | cons c rest ih =>
    cases n with
    | zero => rfl
    | succ n => simp [skipChars, ih]

theorem matchesFrom_stop_le {steps : Nat} {lastStop : Option Nat}
    (found : s ∈ a.matchesFrom edges lastStop marks steps at_ before rest) :
    s.stop ≤ at_ + rest.length := by
  induction steps generalizing at_ before rest lastStop marks with
  | zero => simp [matchesFrom] at found
  | succ steps ih =>
    unfold matchesFrom at found
    split at found
    · simp at found
    · rename_i first marks met
      have here : first.stop ≤ at_ + rest.length := next_stop_le (by rw [met]; rfl)
      rcases List.mem_cons.mp found with rfl | mem
      · exact here
      · have later := ih mem
        rw [length_skipChars] at later
        omega

theorem matchesIn_stop_le {t : Text} (found : s ∈ a.matchesIn t) : s.stop ≤ t.length := by
  have within := matchesFrom_stop_le found
  rwa [Nat.zero_add] at within

end FleetHealth.Pattern.Automaton
