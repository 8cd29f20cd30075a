import FleetHealth.Proofs.Pattern.Language

/- Reading an escaped text. Each of its characters is read as one that stands for itself, so between
   the signs for the beginning and the end of a text it matches that text and no other. -/
namespace FleetHealth.Pattern

/-- A character as it is written where it means nothing else. -/
def escapeChar (c : Char) : Text := if isMeta c then ['\\', c] else [c]

theorem escape_cons (c : Char) (t : Text) : escape (c :: t) = escapeChar c ++ escape t := rfl

theorem length_le_escape (t : Text) : t.length ≤ (escape t).length := by
  induction t with
  | nil => simp
  | cons c t ih =>
    rw [escape_cons, List.length_append, List.length_cons, escapeChar]
    split <;> simp <;> omega

/-- The item that a character is read as. -/
def plainItem (c : Char) : Ast := .literal ⟨c, false⟩

theorem readPart_plain (s : ParseState) {c : Char} (plain : isMeta c = false) (rest : Text) :
    readPart s c rest = .ok (s.push (plainItem c), rest) := by
  unfold readPart
  split
  split
  case h_13 => rfl
  all_goals simp [isMeta] at plain

theorem readPart_escaped (s : ParseState) {c : Char} (special : isMeta c = true) (rest : Text) :
    readPart s '\\' (c :: rest) = .ok (s.push (plainItem c), rest) := by
  simp only [isMeta, List.mem_cons, List.not_mem_nil, or_false, decide_eq_true_eq] at special
  rcases special with rfl | rfl | rfl | rfl | rfl | rfl | rfl | rfl | rfl | rfl | rfl | rfl | rfl |
    rfl | rfl | rfl | rfl | rfl <;> rfl

/-- One round of reading takes one part off the pattern. -/
theorem parseRest_round {s next : ParseState} {c : Char} {r rest : Text} (open_ : s.verbose = false)
    (part : readPart s c r = .ok (next, rest)) (rounds : Nat) :
    parseRest (rounds + 1) s (c :: r) = parseRest rounds next rest := by
  rw [parseRest, open_]
  simp only [skipSpace, Bool.false_eq_true, if_false, part]
  rfl

theorem parseRest_end (s : ParseState) (open_ : s.verbose = false) (rounds : Nat) :
    parseRest rounds s [] = finish s := by
  cases rounds with
  | zero => rfl
  | succ rounds =>
    rw [parseRest, open_]
    rfl

theorem parseRest_escapeChar (c : Char) (rest : Text) (rounds : Nat) {s : ParseState}
    (open_ : s.verbose = false) :
    parseRest (rounds + 1) s (escapeChar c ++ rest) =
      parseRest rounds (s.push (plainItem c)) rest := by
  unfold escapeChar
  split
  · rename_i special
    exact parseRest_round open_ (readPart_escaped s special rest) rounds
  · rename_i plain
    exact parseRest_round open_ (readPart_plain s (by simpa using plain) rest) rounds

theorem parseRest_escape (t rest : Text) (rounds : Nat) {s : ParseState}
    (open_ : s.verbose = false) :
    parseRest (t.length + rounds) s (escape t ++ rest) =
      parseRest rounds { s with items := (t.map plainItem).reverse ++ s.items } rest := by
  induction t generalizing s with
  | nil => simp [escape]
  | cons c t ih =>
    rw [List.length_cons, Nat.add_right_comm, escape_cons, List.append_assoc,
      parseRest_escapeChar c _ _ open_, ih (s := s.push (plainItem c)) open_]
    simp [ParseState.push]

/-- The items of an escaped text between the signs for beginning and end. -/
def wholeItems (t : Text) : List Ast :=
  .anchor .caret :: (t.map plainItem ++ [.anchor .dollar])

theorem finish_whole (t : Text) :
    finish { ParseState.initial with items := (wholeItems t).reverse } =
      .ok (.concat (wholeItems t)) := by
  have several : concatOf (wholeItems t).reverse = .concat (wholeItems t).reverse.reverse := by
    unfold wholeItems concatOf
    rw [List.reverse_cons, List.reverse_append]
    cases (t.map plainItem).reverse <;> rfl
  rw [List.reverse_reverse] at several
  simp [finish, ParseState.initial, several]

theorem depths_whole (t : Text) : Ast.depth.depths (wholeItems t) = 0 := by
  have plain : Ast.depth.depths (t.map plainItem ++ [.anchor .dollar]) = 0 := by
    induction t with
    | nil => rfl
    | cons c t ih => simp [Ast.depth.depths, Ast.depth, plainItem, ih]
  simp [wholeItems, Ast.depth.depths, Ast.depth, plain]

theorem parse_whole (t : Text) :
    parse ('^' :: (escape t ++ ['$'])) = .ok (.concat (wholeItems t)) := by
  -- There are rounds enough, because no character is written in less than one.
  obtain ⟨more, long⟩ := Nat.exists_eq_add_of_le (length_le_escape t)
  have rounds : ('^' :: (escape t ++ ['$'])).length + 1 = t.length + (more + 1 + 1) + 1 := by
    simp [long]
    omega
  have read : parseRest (('^' :: (escape t ++ ['$'])).length + 1) .initial
      ('^' :: (escape t ++ ['$'])) = .ok (.concat (wholeItems t)) := by
    rw [rounds, parseRest_round (s := .initial) rfl rfl, parseRest_escape t _ _ rfl,
      parseRest_round rfl rfl, parseRest_end _ rfl, ← finish_whole]
    simp [wholeItems, ParseState.push, ParseState.initial]
  unfold parse
  rw [read]
  simp [bind, Except.bind, Ast.depth, depths_whole, nestLimit]

theorem meaning_plain (c : Char) :
    (plainItem c).meaning .initial = .ok (.literal [c], .initial) := by
  simp [plainItem, Ast.meaning, Flags.literal, Flags.initial, Except.map]

theorem meanings_plain (t : Text) :
    Ast.meaning.meanings .initial (t.map plainItem ++ [.anchor .dollar]) =
      .ok (t.map (fun c => .literal [c]) ++ [.look .textEnd], .initial) := by
  induction t with
  | nil => rfl
  | cons c t ih =>
    rw [List.map_cons, List.cons_append, Ast.meaning.meanings, meaning_plain]
    simp [bind, Except.bind, ih]

theorem meaning_whole (t : Text) :
    (Ast.concat (wholeItems t)).meaning .initial =
      .ok (.joined (.look .textStart :: (t.map (fun c => .literal [c]) ++ [.look .textEnd])),
        .initial) := by
  have caret : (Ast.anchor .caret).meaning .initial = .ok (.look .textStart, .initial) := rfl
  rw [wholeItems, Ast.meaning, Ast.meaning.meanings, caret]
  simp [bind, Except.bind, meanings_plain]

/-- Neighbouring characters become one text. -/
theorem consItem_chars (c : Char) (t : Text) :
    ((c :: t).map fun c => Term.literal [c]).foldr Term.consItem [.look .textEnd] =
      [.literal (c :: t), .look .textEnd] := by
  induction t generalizing c with
  | nil => rfl
  | cons d t ih =>
    rw [List.map_cons, List.foldr_cons, ih]
    rfl

theorem joined_whole {t : Text} (some_ : t ≠ []) :
    Term.joined (.look .textStart :: (t.map (fun c => .literal [c]) ++ [.look .textEnd])) =
      .whole t := by
  have kept : (t.map fun c => Term.literal [c]).flatMap Term.itemsOf =
      t.map fun c => Term.literal [c] := by
    rw [List.flatMap_map, List.map_eq_flatMap]
    rfl
  obtain ⟨c, r, rfl⟩ := List.exists_cons_of_ne_nil some_
  unfold Term.joined
  have joined : ([Term.look .textEnd].flatMap Term.itemsOf).foldr Term.consItem [] =
      [.look .textEnd] := rfl
  rw [List.flatMap_cons, List.flatMap_append, kept, List.foldr_append, List.foldr_append, joined,
    consItem_chars]
  rfl

/-- Between the signs for beginning and end an escaped text stands for itself. -/
theorem termOf_whole {t : Text} (some_ : t ≠ []) :
    termOf ('^' :: (escape t ++ ['$'])) = .ok (.whole t) := by
  unfold termOf
  rw [parse_whole]
  simp [bind, Except.bind, meaning_whole, joined_whole some_]

theorem finds_whole_iff {t : Text} (some_ : t ≠ []) (text : Text) :
    Finds ('^' :: (escape t ++ ['$'])) text ↔ text = t := by
  unfold Finds
  rw [termOf_whole some_]
  simp [Term.whole_foundIn_iff]

end FleetHealth.Pattern
