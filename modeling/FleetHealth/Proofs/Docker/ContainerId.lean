import FleetHealth.Docker.Backend
import FleetHealth.Proofs.Text.Blank
import FleetHealth.Proofs.Text.Runs

/- The identifier that is read from a listing of containers: what stands between white space on the
   first line with anything else on it. The lines behind that one are not looked at. -/
namespace FleetHealth.Docker

structure IsIdentifier (h : Handle) : Prop where
  some_ : h ≠ []
  line : newline ∉ h
  first : ∀ c ∈ h.head?, isBlank c = false
  last : ∀ c ∈ h.getLast?, isBlank c = false

/-- White space may stand in front of an identifier, blank lines among it, white space behind it, and
anything on the lines that follow. -/
structure Lists (stdout : Text) (h : Handle) : Prop where
  identifier : IsIdentifier h
  framed : ∃ front back after, stdout = front ++ (h ++ back ++ after) ∧
    Text.isBlank front = true ∧ Text.isBlank back = true ∧ newline ∉ back ∧ EndsLine after

/-- The text from the first character on that is no white space to the end of its line, without the
white space at that end. -/
def firstWritten (stdout : Text) : Text :=
  trimEnd ((trimStart stdout).takeWhile (· != newline))

variable {h : Handle} {line rest stdout after : Text}

theorem takeWhile_line (plain : newline ∉ line) (ends : EndsLine after) :
    (line ++ after).takeWhile (· != newline) = line := by
  have inside : ∀ c ∈ line, (c != newline) = true := by
    intro c mem
    rw [bne_iff_ne]
    rintro rfl
    exact plain mem
  rw [List.takeWhile_append_of_pos inside]
  rcases ends with rfl | ⟨rest, rfl⟩
  · simp
  · simp

theorem plain_trimStart (plain : newline ∉ line) : newline ∉ trimStart line :=
  fun mem => plain ((List.dropWhile_suffix isBlank).subset mem)

theorem firstWritten_last (plain : newline ∉ line) : firstWritten line = trim line := by
  have whole := takeWhile_line (plain_trimStart plain) (Or.inl rfl)
  rw [List.append_nil] at whole
  rw [firstWritten, whole, trim]

theorem firstWritten_line (plain : newline ∉ line) (some_ : ¬ Text.isBlank line = true)
    (rest : Text) : firstWritten (line ++ newline :: rest) = trim line := by
  rw [firstWritten, trimStart_append some_,
    takeWhile_line (plain_trimStart plain) (Or.inr ⟨rest, rfl⟩), trim]

theorem firstWritten_blank (blank : Text.isBlank line = true) (rest : Text) :
    firstWritten (line ++ newline :: rest) = firstWritten rest := by
  have front : Text.isBlank (line ++ [newline]) = true := by
    rw [Text.isBlank, List.all_append, Bool.and_eq_true]
    exact ⟨blank, rfl⟩
  have split : line ++ newline :: rest = (line ++ [newline]) ++ rest := by simp
  rw [firstWritten, split, trimStart_blank front, firstWritten]

theorem trim_dropReturn (line : Text) : trim (dropReturn line) = trim line := by
  unfold dropReturn
  split
  · rename_i ends
    obtain ⟨line, rfl⟩ := List.getLast?_eq_some_iff.mp ends
    rw [List.dropLast_concat, trim_blank line rfl]
  · rfl

theorem containerId?_last (plain : newline ∉ line) :
    containerId? line = if trim line = [] then none else some (trim line) := by
  unfold containerId?
  rw [readLines_last plain]
  by_cases nothing : line = []
  · subst nothing
    rfl
  · rw [if_neg nothing]
    by_cases blank : trim line = [] <;> simp [blank]

theorem containerId?_line (plain : newline ∉ line) (rest : Text) :
    containerId? (line ++ newline :: rest) =
      if trim line = [] then containerId? rest else some (trim line) := by
  unfold containerId?
  rw [readLines_line plain, List.map_cons, trim_dropReturn, List.find?_cons]
  by_cases blank : trim line = []
  · simp [blank]
  · rw [if_neg blank, List.isEmpty_eq_false_iff.mpr blank]
    rfl

theorem containerId?_eq (stdout : Text) :
    containerId? stdout =
      if Text.isBlank stdout = true then none else some (firstWritten stdout) := by
  induction stdout using line_induction with
  | last line plain =>
    simp only [containerId?_last plain, firstWritten_last plain, trim_eq_nil_iff]
  | more line rest plain ih =>
    rw [containerId?_line plain, ih]
    simp only [trim_eq_nil_iff]
    by_cases blank : Text.isBlank line = true
    · have same : Text.isBlank (line ++ newline :: rest) = Text.isBlank rest := by
        simp only [Text.isBlank, List.all_append, List.all_cons] at blank ⊢
        rw [blank, isBlank_newline, Bool.true_and, Bool.true_and]
      rw [if_pos blank, same, firstWritten_blank blank]
    · have some_ : ¬ Text.isBlank (line ++ newline :: rest) = true := by
        rw [Text.isBlank, List.all_append, Bool.and_eq_true]
        exact fun all => blank all.1
      rw [if_neg blank, if_neg some_, firstWritten_line plain blank]

theorem firstWritten_of_lists (lists : Lists stdout h) :
    ¬ Text.isBlank stdout = true ∧ firstWritten stdout = h := by
  obtain ⟨identifier, front, back, after, rfl, blankFront, blankBack, plain, ends⟩ := lists
  obtain ⟨c, rest, rfl⟩ := List.exists_cons_of_ne_nil identifier.some_
  have first : isBlank c = false := identifier.first c rfl
  constructor
  · intro all
    have blank := isBlank_iff.mp all c (by simp)
    rw [first] at blank
    exact Bool.false_ne_true blank
  · have written : newline ∉ c :: rest ++ back := by
      rw [List.mem_append, not_or]
      exact ⟨identifier.line, plain⟩
    have kept : trimStart (c :: rest ++ back ++ after) = c :: rest ++ back ++ after :=
      trimStart_eq_self identifier.first
    rw [firstWritten, trimStart_blank blankFront, kept, takeWhile_line written ends,
      trimEnd_blank _ blankBack, trimEnd_eq_self identifier.last]

theorem endsLine_dropWhile (t : Text) : EndsLine (t.dropWhile (· != newline)) := by
  cases left : t.dropWhile (· != newline) with
  | nil => exact Or.inl rfl
  | cons c rest =>
    have stops := List.head?_dropWhile_not (· != newline) t
    rw [left] at stops
    have here : c = newline := by simpa using stops
    exact Or.inr ⟨rest, by rw [here]⟩

theorem lists_firstWritten (some_ : ¬ Text.isBlank stdout = true) :
    Lists stdout (firstWritten stdout) := by
  obtain ⟨front, blankFront, split, first⟩ := exists_trimStart stdout
  have left : trimStart stdout ≠ [] := by
    intro nothing
    rw [nothing, List.append_nil] at split
    exact some_ (split ▸ blankFront)
  obtain ⟨c, rest, begins⟩ := List.exists_cons_of_ne_nil left
  have shown : isBlank c = false := first c (by rw [begins]; rfl)
  have inside : c ≠ newline := by
    rintro rfl
    rw [isBlank_newline] at shown
    exact absurd shown.symm Bool.false_ne_true
  have line : (c :: rest).takeWhile (· != newline) = c :: rest.takeWhile (· != newline) := by
    simp [inside]
  have cut : c :: rest =
      (c :: rest).takeWhile (· != newline) ++ (c :: rest).dropWhile (· != newline) :=
    List.takeWhile_append_dropWhile.symm
  have plain : ∀ d ∈ (c :: rest).takeWhile (· != newline), d ≠ newline := by
    intro d mem
    simpa using List.mem_takeWhile_imp mem
  obtain ⟨back, blankBack, written, last⟩ := exists_trimEnd ((c :: rest).takeWhile (· != newline))
  have whole : firstWritten stdout = trimEnd ((c :: rest).takeWhile (· != newline)) := by
    rw [firstWritten, begins]
  obtain ⟨u, head⟩ := trimEnd_cons shown (rest.takeWhile (· != newline))
  rw [← line] at head
  rw [whole]
  constructor
  · constructor
    · rw [head]
      exact List.cons_ne_nil c u
    · intro mem
      exact plain newline (written ▸ List.mem_append_left back mem) rfl
    · rw [head]
      intro d here
      exact Option.some.inj here ▸ shown
    · exact last
  · refine ⟨front, back, (c :: rest).dropWhile (· != newline), ?_, blankFront, blankBack, ?_,
      endsLine_dropWhile (c :: rest)⟩
    · rw [← written, ← cut, ← begins, ← split]
    · intro mem
      exact plain newline (written ▸ List.mem_append_right _ mem) rfl

theorem lists_iff :
    Lists stdout h ↔ ¬ Text.isBlank stdout = true ∧ firstWritten stdout = h := by
  constructor
  · exact firstWritten_of_lists
  · rintro ⟨some_, rfl⟩
    exact lists_firstWritten some_

theorem resolve_of_answer {b : Backend} {service : ServiceName} {stderr : Text}
    (answered : b.ask (.find service) = .ok (stdout, stderr)) :
    b.resolve service = .ok (containerId? stdout) := by
  rw [Backend.resolve, answered]
  rfl

/-- No container is found when nothing is listed. Otherwise the handle is what is written first, and
every listing with that identifier gives it, whatever stands around it. -/
theorem identifier_exact (b : Backend) (service : ServiceName) {stdout stderr : Text}
    (answered : b.ask (.find service) = .ok (stdout, stderr)) :
    (b.resolve service = .ok none ↔ ∀ c ∈ stdout, isBlank c = true) ∧
    ((∃ c ∈ stdout, isBlank c = false) →
      b.resolve service = .ok (some (firstWritten stdout)) ∧ IsIdentifier (firstWritten stdout)) ∧
    ∀ h, b.resolve service = .ok (some h) ↔ Lists stdout h := by
  rw [resolve_of_answer answered, containerId?_eq]
  by_cases blank : Text.isBlank stdout = true
  · rw [if_pos blank]
    refine ⟨⟨fun _ => isBlank_iff.mp blank, fun _ => rfl⟩, ?_, ?_⟩
    · rintro ⟨c, mem, shown⟩
      rw [isBlank_iff.mp blank c mem] at shown
      exact absurd shown.symm Bool.false_ne_true
    · intro h
      rw [lists_iff]
      exact ⟨nofun, fun lists => absurd blank lists.1⟩
  · rw [if_neg blank]
    refine ⟨⟨nofun, fun all => absurd (isBlank_iff.mpr all) blank⟩, ?_, ?_⟩
    · intro _
      exact ⟨rfl, (lists_firstWritten blank).identifier⟩
    · intro h
      rw [lists_iff, Except.ok.injEq, Option.some.injEq]
      exact ⟨fun same => ⟨blank, same⟩, fun lists => lists.2⟩

/-- Two containers are listed, with a blank line and an indentation in front of the first. -/
def listing : Text := " \t\r\n\u2003 c0ffee \u00a0\r\nbeef\n".toList

def lister : Backend :=
  let rules : List Rule := [⟨"ps".toList, none, ⟨listing.flatMap String.utf8EncodeChar, [], some 0⟩⟩]
  ⟨Script.program ⟨rules⟩ Script.installed, Script.installed, servicePlaceholder⟩

theorem identifier_exact_indented :
    lister.ask (.find "api".toList) = .ok (listing, []) ∧ (∃ c ∈ listing, isBlank c = false) ∧
      lister.resolve "api".toList = .ok (some "c0ffee".toList) := by
  have answered : lister.ask (.find "api".toList) = .ok (listing, []) := by decide
  have shown : ∃ c ∈ listing, isBlank c = false := ⟨'c', by decide, by decide⟩
  exact ⟨answered, shown, ((identifier_exact lister "api".toList answered).2.1 shown).1⟩

end FleetHealth.Docker
