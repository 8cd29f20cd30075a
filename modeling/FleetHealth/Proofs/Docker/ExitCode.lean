import FleetHealth.Docker.Backend
import FleetHealth.Proofs.Docker.Rewording
import FleetHealth.Proofs.Json.Reading

/- The exit code that an inspection gives: the one of the first entry, exactly, or none at all. -/
namespace FleetHealth.Docker

open Json (Tree SpellsDocument)

variable {b : Backend} {h : Handle} {stdout stderr : Text}

theorem exitCode_of_answer (answered : b.ask (.inspect h) = .ok (stdout, stderr)) :
    b.exitCode h = match inspect stdout with
      | .ok s => .ok s.exitCode
      | .error f => .error (.output f stdout) := by
  rw [Backend.exitCode, answered]
  rfl

theorem exitCode_ok_iff (answered : b.ask (.inspect h) = .ok (stdout, stderr)) {n : Int} :
    b.exitCode h = .ok n ↔ ∃ s, inspect stdout = .ok s ∧ s.exitCode = n := by
  rw [exitCode_of_answer answered]
  cases inspect stdout <;> simp

theorem exitCode_error (answered : b.ask (.inspect h) = .ok (stdout, stderr))
    (refused : ∀ s, inspect stdout ≠ .ok s) :
    ∃ f, b.exitCode h = .error (.output f stdout) := by
  rw [exitCode_of_answer answered]
  cases read : inspect stdout with
  | error f => exact ⟨f, rfl⟩
  | ok s => exact absurd read (refused s)

theorem inspect_spelled_iff {s : ContainerState} :
    inspect stdout = .ok s ↔ ∃ t, SpellsDocument stdout t ∧ TellsFirst t s := by
  simp only [inspect_iff, Json.tree?_ofText_iff]

/-- A code is given by the documents that tell one, and it is the one told. Any other document is an
error of its own kind. Two documents that differ by rewordings give the same code. -/
theorem inspection_exact (b : Backend) (h : Handle) {stdout stderr : Text}
    (answered : b.ask (.inspect h) = .ok (stdout, stderr)) :
    (∀ n, b.exitCode h = .ok n ↔
      ∃ t s, SpellsDocument stdout t ∧ TellsFirst t s ∧ s.exitCode = n) ∧
    ((¬ ∃ t s, SpellsDocument stdout t ∧ TellsFirst t s) →
      ∃ trouble reason, b.exitCode h = .error trouble ∧ trouble.error = .parse reason) ∧
    ∀ t t', SpellsDocument stdout t → Relation.EqvGen Reworded t t' →
      ∀ (b' : Backend) (h' : Handle) (stdout' stderr' : Text),
        b'.ask (.inspect h') = .ok (stdout', stderr') → SpellsDocument stdout' t' →
        ∀ n, b.exitCode h = .ok n ↔ b'.exitCode h' = .ok n := by
  refine ⟨?_, ?_, ?_⟩
  · intro n
    rw [exitCode_ok_iff answered]
    simp only [inspect_spelled_iff]
    constructor
    · rintro ⟨s, ⟨t, spelled, told⟩, code⟩
      exact ⟨t, s, spelled, told, code⟩
    · rintro ⟨t, s, spelled, told, code⟩
      exact ⟨s, ⟨t, spelled, told⟩, code⟩
  · intro nothing
    have refused : ∀ s, inspect stdout ≠ .ok s := by
      intro s read
      obtain ⟨t, spelled, told⟩ := inspect_spelled_iff.mp read
      exact nothing ⟨t, s, spelled, told⟩
    obtain ⟨f, failed⟩ := exitCode_error answered refused
    exact ⟨_, f.message stdout, failed, rfl⟩
  · intro t t' spelled same b' h' stdout' stderr' answered' spelled' n
    have told : ∀ s, inspect stdout = .ok s ↔ inspect stdout' = .ok s := by
      intro s
      rw [inspect_iff, inspect_iff, Json.tree?_ofText_iff.mpr spelled,
        Json.tree?_ofText_iff.mpr spelled']
      simp only [Option.some.injEq, exists_eq_left', tellsFirst_rewordings same]
    rw [exitCode_ok_iff answered, exitCode_ok_iff answered']
    simp only [told]

/-- Docker with one answer to every inspection. -/
def inspector (document : Text) : Backend :=
  let rules : List Rule :=
    [⟨"inspect".toList, none, ⟨document.flatMap String.utf8EncodeChar, [], some 0⟩⟩]
  ⟨Script.program ⟨rules⟩ Script.installed, Script.installed, servicePlaceholder⟩

def numeral (digits : String) (exponent : Option Int) : Tree :=
  .scalar (.number ⟨false, digits.toList, none, exponent⟩)

def exited : Option Text × Tree := (some statusKey, .scalar (.text (some "exited".toList)))

def code137 : Option Text × Tree := (some exitCodeKey, numeral "137" none)

/-- A container that was killed. -/
def killed : Text :=
  "[\x7b\"State\":\x7b\"Status\":\"exited\",\"ExitCode\":137\x7d\x7d]".toList

def killedTree : Tree := .array [.object [(some stateKey, .object [exited, code137])]]

/-- The same container with more said of it, and another one behind it. -/
def killedAtLength : Text :=
  ("[\x7b\"Id\":0,\"State\":\x7b\"ExitCode\":137,\"Pid\":1e3,\"Status\":\"exited\"\x7d\x7d, " ++
    "[[\"running\",0]]]").toList

def killedAtLengthTree : Tree :=
  .array [.object [(some "Id".toList, numeral "0" none),
      (some stateKey, .object [code137, (some "Pid".toList, numeral "1" (some 3)), exited])],
    .array [.array [.scalar (.text (some "running".toList)), numeral "0" none]]]

theorem killed_spells : SpellsDocument killed killedTree := by
  rw [← Json.tree?_ofText_iff]
  cbv

theorem killedAtLength_spells : SpellsDocument killedAtLength killedAtLengthTree := by
  rw [← Json.tree?_ofText_iff]
  cbv

theorem killed_tells : TellsFirst killedTree ⟨"exited".toList, 137, false⟩ := by
  refine .entries (.object (by simp [Named]) rfl (.object (by simp [Named, exited, code137]) ?_)) nofun
  refine ⟨⟨_, rfl, rfl⟩, ⟨_, rfl, _, rfl, ⟨rfl, rfl, by decide, nofun⟩, by decide, by decide⟩, ?_⟩
  exact Or.inl ⟨rfl, rfl⟩

theorem running_tells :
    TellsEntry (.array [.array [.scalar (.text (some "running".toList)), numeral "0" none]])
      ⟨"running".toList, 0, false⟩ := by
  refine .array (.array ⟨⟨_, rfl, rfl⟩, ⟨_, rfl, _, rfl, ?_, by decide, by decide⟩, Or.inl ⟨rfl, rfl⟩⟩)
  exact ⟨rfl, rfl, by decide, nofun⟩

theorem killed_reworded : Relation.EqvGen Reworded killedTree killedAtLengthTree := by
  have members : SameMembers stateKeys [exited, code137]
      [code137, (some "Pid".toList, numeral "1" (some 3)), exited] := .swap code137 exited []
  have entry : SameMembers [stateKey]
      [(some stateKey, .object [code137, (some "Pid".toList, numeral "1" (some 3)), exited])]
      [(some "Id".toList, numeral "0" none),
        (some stateKey, .object [code137, (some "Pid".toList, numeral "1" (some 3)), exited])] :=
    .refl _
  have state := Reworded.entry [] [] (.state [] [] members)
  have longer := Reworded.entry [] [] (.entry entry)
  refine .trans _ _ _ (.rel _ _ state) (.trans _ _ _ (.rel _ _ longer) (.rel _ _ ?_))
  exact .more _ [] [] ⟨_, running_tells⟩

theorem inspection_exact_killed :
    (inspector killed).ask (.inspect []) = .ok (killed, []) ∧
    (inspector killed).exitCode [] = .ok 137 ∧
    (inspector killedAtLength).exitCode [] = .ok 137 ∧
    ∃ trouble reason, (inspector "[]".toList).exitCode [] = .error trouble ∧
      trouble.error = .parse reason := by
  have answered : (inspector killed).ask (.inspect []) = .ok (killed, []) := by decide
  have answeredAtLength :
      (inspector killedAtLength).ask (.inspect []) = .ok (killedAtLength, []) := by decide
  have answeredEmpty : (inspector "[]".toList).ask (.inspect []) = .ok ("[]".toList, []) := by decide
  have code : (inspector killed).exitCode [] = .ok 137 :=
    ((inspection_exact _ [] answered).1 137).mpr ⟨_, _, killed_spells, killed_tells, rfl⟩
  have same := (inspection_exact _ [] answered).2.2 _ _ killed_spells killed_reworded _ [] _ _
    answeredAtLength killedAtLength_spells 137
  refine ⟨answered, code, same.mp code, (inspection_exact _ [] answeredEmpty).2.1 ?_⟩
  rintro ⟨t, s, spelled, told⟩
  have empty : (Json.Document.ofText "[]".toList).tree? = some (.array []) := by cbv
  rw [spelled.unique (Json.tree?_ofText_iff.mp empty)] at told
  cases told

end FleetHealth.Docker
