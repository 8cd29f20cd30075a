import FleetHealth.Report
import Mathlib.Data.List.Forall2

/- The words of a report. What is printed of an outcome is spelled out here as lines, in terms of
   the outcome alone, and a block is shown to consist of nothing else: an account of the outcome,
   and behind it, when there is reason to read the log, the log between two lines. -/
namespace FleetHealth

def FailureKind.inOrder : List FailureKind :=
  [.instanceNotFound, .abnormalExit, .logSignatureMatch]

namespace Outcome

/-- The outcome is a failure of this kind. -/
def Holds (o : Outcome) : FailureKind → Prop
  | .instanceNotFound => o.found = false
  | .abnormalExit => ∃ code, o.exitCode = some code ∧ code ≠ 0
  | .logSignatureMatch => o.matched ≠ []

/-- There is reason to read the log. -/
def LogDue (o : Outcome) : Prop := o.Holds .abnormalExit ∨ o.Holds .logSignatureMatch

variable {o : Outcome}

theorem abnormalExit_iff : o.abnormalExit = true ↔ o.Holds .abnormalExit := by
  unfold abnormalExit Holds
  cases o.exitCode <;> simp

theorem logDue_iff : (o.abnormalExit || !o.matched.isEmpty) = true ↔ o.LogDue := by
  rw [Bool.or_eq_true, abnormalExit_iff]
  simp [LogDue, Holds]

instance : Decidable o.LogDue := decidable_of_iff _ logDue_iff

theorem mem_kinds_iff {k : FailureKind} : k ∈ o.kinds ↔ o.Holds k := by
  cases k with
  | instanceNotFound => simp [kinds, Holds]
  | abnormalExit => simp [kinds, ← abnormalExit_iff]
  | logSignatureMatch => simp [kinds, Holds]

theorem kinds_inOrder (o : Outcome) : o.kinds.Sublist FailureKind.inOrder := by
  have missing : (if o.found then [] else [FailureKind.instanceNotFound]).Sublist
      [.instanceNotFound] := by split <;> simp
  have exit : (if o.abnormalExit then [FailureKind.abnormalExit] else []).Sublist
      [.abnormalExit] := by split <;> simp
  have lines : (if o.matched.isEmpty then [] else [FailureKind.logSignatureMatch]).Sublist
      [.logSignatureMatch] := by split <;> simp
  exact (missing.append exit).append lines

theorem failed_iff : o.failed = true ↔ ∃ k, o.Holds k := by
  unfold failed
  rw [Bool.or_eq_true, Bool.or_eq_true, abnormalExit_iff]
  constructor
  · rintro ((missing | exit) | lines)
    · exact ⟨.instanceNotFound, by simpa [Holds] using missing⟩
    · exact ⟨.abnormalExit, exit⟩
    · exact ⟨.logSignatureMatch, by simpa [Holds] using lines⟩
  · rintro ⟨k, holds⟩
    cases k with
    | instanceNotFound => exact Or.inl (Or.inl (by simpa [Holds] using holds))
    | abnormalExit => exact Or.inl (Or.inr holds)
    | logSignatureMatch => exact Or.inr (by simpa [Holds] using holds)

theorem kinds_eq_nil_iff : o.kinds = [] ↔ o.failed = false := by
  rw [← Bool.not_eq_true, failed_iff, List.eq_nil_iff_forall_not_mem, not_exists]
  simp only [mem_kinds_iff]

theorem kinds_ne_nil (fails : o.failed = true) : o.kinds ≠ [] := by
  rw [ne_eq, kinds_eq_nil_iff, fails]
  decide

theorem not_holds_of_healthy (healthy : o.failed = false) (k : FailureKind) : ¬ o.Holds k := by
  intro holds
  have fails := failed_iff.mpr ⟨k, holds⟩
  exact absurd (healthy.symm.trans fails) (by decide)

/-- Only the log of a failure is read. -/
theorem not_logDue_of_healthy (healthy : o.failed = false) : ¬ o.LogDue := by
  rintro (exit | lines)
  · exact not_holds_of_healthy healthy _ exit
  · exact not_holds_of_healthy healthy _ lines

end Outcome

namespace Report

/-- Lines as they are printed, each with its end. -/
def printed (lines : List Text) : Text := lines.flatMap (· ++ ['\n'])

/-- The block of an outcome, from its first line on. -/
def titled (name : ServiceName) (lines : List Text) : List Text :=
  ("=== ".toList ++ name ++ " ===".toList) :: lines

/-- The block of an outcome that has not failed. -/
def okBlock (name : ServiceName) : List Text := titled name ["OK".toList]

/-- A matched line between the two lines that set it off. -/
def excerpt (m : LineMatch) : List Text := ["--------".toList, m.line, "--------".toList]

/-- The lines of a log between the two that say whose log it is and where it ends. -/
def enclosed (name : ServiceName) (body : List Text) : List Text :=
  ("----- log for ".toList ++ name ++ " (may be truncated) -----".toList) :: body ++
    ["----- end of log -----".toList]

/-- What is printed of an outcome because it is a failure of a kind. -/
inductive Diagnosis (o : Outcome) : FailureKind → List Text → Prop
  | missing (unexplained : o.probeError = none) :
    Diagnosis o .instanceNotFound
      ["[InstanceNotFound] container for ".toList ++ o.name ++ " not found".toList]
  | unreached {reason : Text} (explained : o.probeError = some reason) :
    Diagnosis o .instanceNotFound
      ["[InstanceNotFound] container for ".toList ++ o.name ++ " not found".toList,
        "  reason: ".toList ++ reason]
  | exit {code : Int} (exited : o.exitCode = some code) :
    Diagnosis o .abnormalExit ["[AbnormalExit] exit code ".toList ++ (toString code).toList]
  | lines :
    Diagnosis o .logSignatureMatch
      (("[LogSignatureMatch] ".toList ++ (toString o.matched.length).toList ++
        " matching line(s)".toList) :: o.matched.flatMap excerpt)

/-- The lines of a block in front of the log: that nothing is wrong, or everything that is, in the
order of the kinds. -/
inductive Account (o : Outcome) : List Text → Prop
  | fine (healthy : ∀ k, ¬ o.Holds k) : Account o (okBlock o.name)
  | failing {kinds : List FailureKind} {told : List (List Text)} (present : kinds ≠ [])
    (ordered : kinds.Sublist FailureKind.inOrder) (all : ∀ k, k ∈ kinds ↔ o.Holds k)
    (explained : List.Forall₂ (Diagnosis o) kinds told) : Account o (titled o.name told.flatten)

theorem natText_eq (n : Nat) : natText n = (toString n).toList := by
  rw [natText, Nat.toString_eq_repr, Nat.repr, String.toList_ofList]

theorem intText_eq (i : Int) : intText i = (toString i).toList := by
  cases i with
  | ofNat n => exact natText_eq n
  | negSucc n =>
    have minus : toString (Int.negSucc n) = "-" ++ toString (n + 1) := rfl
    rw [minus, String.toList_append, intText, natText_eq]
    rfl

theorem joinWith_eq (mark : Text) (ts : List Text) : joinWith mark ts = mark.intercalate ts := by
  induction ts using joinWith.induct with
  | case1 => rfl
  | case2 t => simp [joinWith]
  | case3 t u rest ih => rw [joinWith, ih, List.intercalate_cons_cons, List.append_assoc]

section
variable {o : Outcome} {k : FailureKind}

theorem diagnosis (holds : o.Holds k) : Diagnosis o k (diagnostic o k) := by
  cases k with
  | instanceNotFound =>
    cases probed : o.probeError with
    | none => simpa [diagnostic, probed] using Diagnosis.missing probed
    | some reason => simpa [diagnostic, probed] using Diagnosis.unreached probed
  | abnormalExit =>
    obtain ⟨code, exited, -⟩ := holds
    simpa [diagnostic, exited, intText_eq] using Diagnosis.exit exited
  | logSignatureMatch =>
    rw [diagnostic, natText_eq]
    exact Diagnosis.lines

theorem kinds_explained (o : Outcome) :
    List.Forall₂ (Diagnosis o) o.kinds (o.kinds.map (diagnostic o)) := by
  rw [List.forall₂_map_right_iff]
  exact List.forall₂_same.mpr fun k mem => diagnosis (Outcome.mem_kinds_iff.mp mem)

/-- A diagnosis names the kind of the failure in brackets. -/
theorem Diagnosis.named {told : List Text} (diagnosis : Diagnosis o k told) :
    ∃ text more, told = ("[".toList ++ k.name ++ "] ".toList ++ text) :: more := by
  cases diagnosis with
  | missing => exact ⟨"container for ".toList ++ o.name ++ " not found".toList, _, rfl⟩
  | unreached => exact ⟨"container for ".toList ++ o.name ++ " not found".toList, _, rfl⟩
  | @exit code => exact ⟨"exit code ".toList ++ (toString code).toList, _, rfl⟩
  | lines => exact ⟨(toString o.matched.length).toList ++ " matching line(s)".toList, _, rfl⟩

/-- The lines of a block that no limit can change. -/
def account (o : Outcome) : List Text :=
  titled o.name (if o.failed then (o.kinds.map (diagnostic o)).flatten else ["OK".toList])

theorem account_healthy (healthy : o.failed = false) : account o = okBlock o.name := by
  rw [account, healthy]
  rfl

theorem account_failing (fails : o.failed = true) :
    account o = titled o.name (o.kinds.map (diagnostic o)).flatten := by
  rw [account, if_pos fails]

theorem account_told (o : Outcome) : Account o (account o) := by
  cases failed : o.failed with
  | false =>
    rw [account_healthy failed]
    exact Account.fine (Outcome.not_holds_of_healthy failed)
  | true =>
    rw [account_failing failed]
    exact Account.failing (Outcome.kinds_ne_nil failed) o.kinds_inOrder
      (fun _ => Outcome.mem_kinds_iff) (kinds_explained o)

theorem block_eq (limit : Option Nat) (o : Outcome) :
    block limit o = account o ++
      if o.LogDue then enclosed o.name (logBody limit o.logText) else [] := by
  cases failed : o.failed with
  | false =>
    rw [if_neg (Outcome.not_logDue_of_healthy failed), List.append_nil, account_healthy failed,
      block, Outcome.kinds_eq_nil_iff.mpr failed]
    rfl
  | true =>
    have several : ¬ o.kinds.isEmpty = true :=
      mt List.isEmpty_iff.mp (Outcome.kinds_ne_nil failed)
    rw [block, if_neg several, account_failing failed, List.flatMap_def, titled,
      List.cons_append]
    simp only [Outcome.logDue_iff]
    rfl

end
end Report
end FleetHealth
