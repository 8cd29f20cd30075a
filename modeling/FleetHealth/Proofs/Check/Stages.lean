import FleetHealth.Check
import Mathlib.Tactic.Common

/- The stages of a check against an instance: when each is begun and answered, what its answer does
   with the check, and which stages are reached at all. -/
namespace FleetHealth

/-- What becomes of a check by the answer to one of its queries. -/
inductive Turn where
  | onward
  | absent
  | failed (e : BackendError)
  | crashed
  deriving DecidableEq, Repr

namespace Answer

def turn {α : Type} : Answer α → Turn
  | .value _ => .onward
  | .failure e => .failed e
  | .crash => .crashed

/-- The answer that there is no instance ends the check. -/
def turnFound : Answer Bool → Turn
  | .value true => .onward
  | .value false => .absent
  | .failure e => .failed e
  | .crash => .crashed

def value? {α : Type} : Answer α → Option α
  | .value a => some a
  | _ => none

section
variable {α : Type} {a : Answer α}

theorem turn_onward : a.turn = .onward ↔ ∃ v, a = .value v := by
  cases a <;> simp [turn]

theorem turn_failed {e : BackendError} : a.turn = .failed e ↔ a = .failure e := by
  cases a <;> simp [turn]

theorem turn_crashed : a.turn = .crashed ↔ a = .crash := by
  cases a <;> simp [turn]

end

theorem turnFound_injective : Function.Injective turnFound := by
  rintro ((_ | _) | _ | _) ((_ | _) | _ | _) same <;> simp_all [turnFound]

end Answer

namespace Stage

def earlier : Stage → List Stage
  | .resolve => []
  | .exitCode => [.resolve]
  | .logs => [.resolve, .exitCode]

/-- The queries of a check whose last one is that of this stage. -/
def upTo (s : Stage) : List Stage := s.earlier ++ [s]

theorem eq_or_earlier (s t : Stage) : s = t ∨ s ∈ t.earlier ∨ t ∈ s.earlier := by
  cases s <;> cases t <;> simp [earlier]

theorem upTo_prefix (s : Stage) : s.upTo <+: [.resolve, .exitCode, .logs] := by
  cases s <;> decide

theorem logs_mem_upTo {s : Stage} : .logs ∈ s.upTo ↔ s = .logs := by
  cases s <;> simp [upTo, earlier]

end Stage

/-- Whether a time is not behind the limit, if there is one. -/
def InTime (limit : Option Nat) (t : Nat) : Prop := ∀ l ∈ limit, t ≤ l

theorem inTime_none (t : Nat) : InTime none t := nofun

theorem inTime_some_iff {l t : Nat} : InTime (some l) t ↔ t ≤ l := by simp [InTime]

theorem Check.inTime_iff (limit : Option Nat) (t : Nat) :
    InTime limit t ↔ overrun limit t = none := by
  cases limit with
  | none => simp [InTime, overrun]
  | some l => simp [InTime, overrun_some]

namespace Instance

section
variable (i : Instance)

def turn : Stage → Turn
  | .resolve => i.resolve.answer.turnFound
  | .exitCode => i.exitCode.answer.turn
  | .logs => i.logs.answer.turn

/-- When the query of a stage is made, if it is made. -/
def begins : Stage → Nat
  | .resolve => 0
  | .exitCode => i.resolve.delay
  | .logs => i.resolve.delay + i.exitCode.delay

/-- When it is answered. -/
def ends : Stage → Nat
  | .resolve => i.resolve.delay
  | .exitCode => i.resolve.delay + i.exitCode.delay
  | .logs => i.resolve.delay + i.exitCode.delay + i.logs.delay

/-- The evidence with which a stage is begun. -/
def known (name : ServiceName) : Stage → Outcome
  | .resolve => .unprobed name
  | .exitCode => { Outcome.unprobed name with found := true }
  | .logs =>
    { Outcome.unprobed name with found := true, exitCode := i.exitCode.answer.value? }

/-- The answers to all queries that either check comes to, given time, are the same. -/
structure Alike (i j : Instance) : Prop where
  resolve : i.resolve.answer = j.resolve.answer
  exitCode : i.resolve.answer = .value true → i.exitCode.answer = j.exitCode.answer
  logs : i.resolve.answer = .value true → ∀ code, i.exitCode.answer = .value code →
    i.logs.answer = j.logs.answer

/-- All stages before this one were answered in time, and the check went on behind them. -/
structure Reached (limit : Option Nat) (s : Stage) : Prop where
  onward : ∀ p ∈ s.earlier, i.turn p = .onward
  inTime : InTime limit (i.begins s)

end

variable {i : Instance} {limit : Option Nat} {s t : Stage}

theorem turn_resolve_onward : i.turn .resolve = .onward ↔ i.resolve.answer = .value true :=
  Answer.turnFound_injective.eq_iff' rfl

theorem turn_resolve_absent : i.turn .resolve = .absent ↔ i.resolve.answer = .value false :=
  Answer.turnFound_injective.eq_iff' rfl

theorem turn_resolve_failed {e : BackendError} :
    i.turn .resolve = .failed e ↔ i.resolve.answer = .failure e :=
  Answer.turnFound_injective.eq_iff' rfl

theorem turn_resolve_crashed : i.turn .resolve = .crashed ↔ i.resolve.answer = .crash :=
  Answer.turnFound_injective.eq_iff' rfl

theorem known_blank (i : Instance) (name : ServiceName) (s : Stage) :
    (i.known name s).name = name ∧ (i.known name s).logText = [] ∧ (i.known name s).matched = [] ∧
      (i.known name s).probeError = none := by
  cases s <;> exact ⟨rfl, rfl, rfl, rfl⟩

theorem known_exitCode_iff {name : ServiceName} {code : Int} :
    (i.known name s).exitCode = some code ↔ s = .logs ∧ i.exitCode.answer = .value code := by
  -- Not even the stage that asks for the exit code begins with one.
  cases s with
  | resolve => simp [known, Outcome.unprobed]
  | exitCode => simp [known, Outcome.unprobed]
  | logs => cases answered : i.exitCode.answer <;> simp [known, answered, Answer.value?]

theorem begins_le_ends (i : Instance) (s : Stage) : i.begins s ≤ i.ends s := by
  cases s <;> simp [begins, ends]

theorem ends_le_begins (i : Instance) (earlier : s ∈ t.earlier) : i.ends s ≤ i.begins t := by
  cases s <;> cases t <;> simp_all [Stage.earlier, begins, ends]

theorem ends_le_ends_logs (i : Instance) (s : Stage) : i.ends s ≤ i.ends .logs := by
  cases s <;> dsimp only [ends] <;> omega

theorem reached_resolve (i : Instance) (limit : Option Nat) : i.Reached limit .resolve :=
  ⟨by simp [Stage.earlier], fun l _ => Nat.zero_le l⟩

theorem reached_exitCode_iff :
    i.Reached limit .exitCode ↔ i.resolve.answer = .value true ∧ InTime limit i.resolve.delay := by
  rw [← turn_resolve_onward]
  constructor
  · rintro ⟨onward, inTime⟩
    exact ⟨onward _ (by simp [Stage.earlier]), inTime⟩
  · rintro ⟨there, inTime⟩
    exact ⟨by simp [Stage.earlier, there], inTime⟩

theorem reached_logs_iff :
    i.Reached limit .logs ↔ i.resolve.answer = .value true ∧
      (∃ code, i.exitCode.answer = .value code) ∧
      InTime limit (i.resolve.delay + i.exitCode.delay) := by
  rw [← turn_resolve_onward, ← Answer.turn_onward]
  constructor
  · rintro ⟨onward, inTime⟩
    exact ⟨onward .resolve (by simp [Stage.earlier]), onward .exitCode (by simp [Stage.earlier]),
      inTime⟩
  · rintro ⟨there, exits, inTime⟩
    refine ⟨fun p before => ?_, inTime⟩
    rcases List.mem_cons.mp before with rfl | before
    · exact there
    · obtain rfl := List.mem_singleton.mp before
      exact exits

theorem Reached.of_earlier (reached : i.Reached limit t) (earlier : s ∈ t.earlier) :
    i.Reached limit s := by
  refine ⟨fun p before => reached.onward p ?_, fun l limited => ?_⟩
  · cases s <;> cases t <;> simp_all [Stage.earlier]
  · have begins := reached.inTime l limited
    have ends := i.ends_le_begins earlier
    have order := i.begins_le_ends s
    omega

theorem Reached.limited (reached : i.Reached none s) {l : Nat} (inTime : i.begins s ≤ l) :
    i.Reached (some l) s :=
  ⟨reached.onward, inTime_some_iff.mpr inTime⟩

theorem Reached.unlimited (reached : i.Reached limit s) : i.Reached none s :=
  ⟨reached.onward, inTime_none _⟩

/-- A stage behind which nothing is reached is the last one. -/
theorem mem_upTo_iff (reached : i.Reached limit t)
    (last : ∀ u, t ∈ u.earlier → ¬ i.Reached limit u) : s ∈ t.upTo ↔ i.Reached limit s := by
  unfold Stage.upTo
  rw [List.mem_append, List.mem_singleton]
  constructor
  · rintro (before | rfl)
    · exact reached.of_earlier before
    · exact reached
  · intro here
    rcases s.eq_or_earlier t with same | before | behind
    · exact Or.inr same
    · exact Or.inl before
    · exact absurd here (last s behind)

theorem not_reached_of_turn (stops : i.turn t ≠ .onward) (behind : t ∈ s.earlier) :
    ¬ i.Reached limit s :=
  fun reached => stops (reached.onward t behind)

theorem not_reached_of_late {l : Nat} (late : l < i.ends t) (behind : t ∈ s.earlier) :
    ¬ i.Reached (some l) s := by
  intro reached
  have begins := inTime_some_iff.mp reached.inTime
  have ends := i.ends_le_begins behind
  omega

theorem exitCode_known_iff {l : Nat} {name : ServiceName}
    (last : ∀ u, u ∈ s.upTo ↔ i.Reached (some l) u) {code : Int} :
    (i.known name s).exitCode = some code ↔ i.resolve.answer = .value true ∧
      i.exitCode.answer = .value code ∧ i.resolve.delay + i.exitCode.delay ≤ l := by
  have logs : s = .logs ↔ i.Reached (some l) .logs := Stage.logs_mem_upTo.symm.trans (last .logs)
  rw [known_exitCode_iff, logs, reached_logs_iff, inTime_some_iff]
  constructor
  · rintro ⟨⟨there, _, inTime⟩, exits⟩
    exact ⟨there, exits, inTime⟩
  · rintro ⟨there, exits, inTime⟩
    exact ⟨⟨there, ⟨code, exits⟩, inTime⟩, exits⟩

end Instance

end FleetHealth
