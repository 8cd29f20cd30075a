import FleetHealth.Text.Basic

/- Occurrences of one text in another. Occurrences are met from left to right, and the search
   goes on behind the end of the one that was met, so they never overlap. -/
namespace FleetHealth

/-- A run of characters given by the positions of its first character and of the one after its last. -/
structure Span where
  start : Nat
  stop : Nat
  deriving DecidableEq, Repr

def Text.contains (needle : Text) : Text → Bool
  | [] => needle.isEmpty
  | c :: r => needle.isPrefixOf (c :: r) || Text.contains needle r

/-- The spans of a needle of `width` characters in the text that begins at position `at_`;
`skip` counts the characters that the last occurrence still covers. -/
def occurrencesFrom (needle : Text) (skip at_ : Nat) : Text → List Span
  | [] => []
  | c :: r =>
    match skip with
    | k + 1 => occurrencesFrom needle k (at_ + 1) r
    | 0 =>
      if needle.isPrefixOf (c :: r) then
        ⟨at_, at_ + needle.length⟩ :: occurrencesFrom needle (needle.length - 1) (at_ + 1) r
      else occurrencesFrom needle 0 (at_ + 1) r

/-- No span for an empty needle. -/
def occurrences (needle t : Text) : List Span :=
  if needle.isEmpty then [] else occurrencesFrom needle 0 0 t

def replaceFrom (mark value : Text) (skip : Nat) : Text → Text
  | [] => []
  | c :: r =>
    match skip with
    | k + 1 => replaceFrom mark value k r
    | 0 =>
      if mark.isPrefixOf (c :: r) then value ++ replaceFrom mark value (mark.length - 1) r
      else c :: replaceFrom mark value 0 r

/-- Every occurrence of `mark` gives way to `value`, which is not searched again. -/
def replaceAll (mark value t : Text) : Text :=
  if mark.isEmpty then t else replaceFrom mark value 0 t

end FleetHealth
