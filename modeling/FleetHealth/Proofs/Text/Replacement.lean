import FleetHealth.Proofs.Text.Occurrences

/- What a replacement tells about the value that was put in: everything, as soon as it was put in
   once. The length of the result gives the length of the value away, and the first place where it
   was put in the value itself. -/
namespace FleetHealth

theorem length_replaceFrom (mark value : Text) (skip at_ : Nat) (t : Text) :
    (replaceFrom mark value skip t).length =
      (replaceFrom mark [] skip t).length +
        (occurrencesFrom mark skip at_ t).length * value.length := by
  induction t generalizing skip at_ with
  | nil => simp [replaceFrom, occurrencesFrom]
  | cons c r ih =>
    cases skip with
    | succ k => simpa only [replaceFrom, occurrencesFrom] using ih k (at_ + 1)
    | zero =>
      simp only [replaceFrom, occurrencesFrom]
      split
      · simp only [List.length_append, List.length_nil, List.length_cons, ih _ (at_ + 1)]
        rw [Nat.add_mul]
        omega
      · simp only [List.length_cons, ih 0 (at_ + 1)]
        omega

theorem value_of_replaceFrom {mark v w : Text} (long : v.length = w.length) {skip at_ : Nat}
    {t : Text} (occurs : occurrencesFrom mark skip at_ t ≠ [])
    (same : replaceFrom mark v skip t = replaceFrom mark w skip t) : v = w := by
  induction t generalizing skip at_ with
  | nil => simp [occurrencesFrom] at occurs
  | cons c r ih =>
    cases skip with
    | succ k =>
      simp only [replaceFrom, occurrencesFrom] at same occurs
      exact ih occurs same
    | zero =>
      simp only [replaceFrom, occurrencesFrom] at same occurs
      split at same
      · exact (List.append_inj same long).1
      · rename_i elsewhere
        rw [if_neg elsewhere] at occurs
        exact ih occurs (List.cons.inj same).2

theorem replaceAll_injective {mark t : Text} (some_ : mark ≠ []) (occurs : mark <:+: t) :
    Function.Injective fun value => replaceAll mark value t := by
  intro v w same
  have found : occurrencesFrom mark 0 0 t ≠ [] := fun none_ =>
    (occurrencesFrom_eq_nil_iff some_ 0 t).mp none_ occurs
  simp only [replaceAll, List.isEmpty_eq_false_iff.mpr some_, Bool.false_eq_true, if_false] at same
  have lengths := congrArg List.length same
  rw [length_replaceFrom mark v 0 0, length_replaceFrom mark w 0 0] at lengths
  have long : v.length = w.length :=
    Nat.eq_of_mul_eq_mul_left (List.length_pos_of_ne_nil found) (Nat.add_left_cancel lengths)
  exact value_of_replaceFrom long found same

end FleetHealth
