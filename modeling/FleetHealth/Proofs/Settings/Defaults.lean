import FleetHealth.Proofs.Settings.Entries
import FleetHealth.Proofs.Settings.Places
import FleetHealth.Proofs.Text.Utf8
import FleetHealth.Settings.Load
import Mathlib

/- Defaults. They are given for a run without a document, for a document without a section and for a
   section without a key, and it makes no difference which of these is at work. -/
namespace FleetHealth.Settings

open Toml (Node Entries Key)

theorem fields_uniform : ∀ p ∈ sections, ∀ f ∈ p.2.fields, f.Uniform := by
  simp only [sections, registrySection, detectorSection, backendSection, verifierSection,
    reportSection, loggingSection, List.forall_mem_cons, List.not_mem_nil, false_implies,
    implies_true, and_true]
  and_intros <;> exact Field.uniform_of

/-- No field sets what another one of its section sets. -/
theorem fields_apart : ∀ p ∈ sections, ∀ f ∈ p.2.fields, ∀ g ∈ p.2.fields, f.name ≠ g.name →
    f.Apart g := by
  simp only [sections, registrySection, detectorSection, backendSection, verifierSection,
    reportSection, loggingSection, List.forall_mem_cons, List.not_mem_nil, false_implies,
    implies_true, and_true, Field.of_name, ne_eq, not_true_eq_false, String.reduceEq,
    not_false_eq_true, true_implies, true_and]
  and_intros <;> exact Field.apart_of fun _ _ _ => rfl

/-- No field sets what one of another section sets. -/
theorem sections_apart : ∀ p ∈ sections, ∀ q ∈ sections, p.1 ≠ q.1 → ∀ f ∈ p.2.fields,
    ∀ g ∈ q.2.fields, f.Apart g := by
  simp only [sections, registryKey, registrySection, detectorSection, backendSection,
    verifierSection, reportSection, loggingSection, List.forall_mem_cons, List.not_mem_nil,
    false_implies, implies_true, and_true, ne_eq, not_true_eq_false, String.reduceEq,
    not_false_eq_true, true_implies, true_and]
  and_intros <;> exact Field.apart_of fun _ _ _ => rfl

theorem reset_eq_absent : ∀ p ∈ sections, ∀ s, p.2.reset s = p.2.absent s := by
  simp only [sections, List.forall_mem_cons, List.not_mem_nil, false_implies, implies_true,
    and_true]
  exact ⟨fun _ => rfl, fun _ => rfl, fun _ => rfl, fun _ => rfl, fun _ => rfl, fun _ => rfl⟩

theorem read_composed {A : (Settings → Settings) → Prop} (whole : A id)
    (comp : ∀ u v, A u → A v → A (v ∘ u)) {p : String × Section} (known : p ∈ sections)
    (fields : ∀ f ∈ p.2.fields, ∀ u, f.Writes u → A u) {n : Node} {s t : Settings}
    (given : p.2.read n s = .ok t) : ∃ u, A u ∧ ∀ s, p.2.read n s = .ok (u s) := by
  refine Section.read_composed whole comp (fun f field n s t given => ?_)
    (fun f field => fields f field f.unset .unset) given
  obtain ⟨u, puts⟩ := fields_uniform p known f field n s t given
  exact ⟨u, fields f field u (.read puts), puts⟩

/-- Sections are read independently of each other. -/
theorem document_apart : ∀ f ∈ documentSection.fields, ∀ g ∈ documentSection.fields,
    f.name ≠ g.name → f.Apart g := by
  intro f field g other names u writes
  obtain ⟨p, known, rfl⟩ := List.mem_map.mp field
  obtain ⟨q, known', rfl⟩ := List.mem_map.mp other
  have apart : ∀ f ∈ p.2.fields, ∀ u, f.Writes u → ∀ g ∈ q.2.fields, g.Leaves u :=
    fun f field u writes g other => sections_apart p known q known' names f field g other u writes
  have whole : ∀ g ∈ q.2.fields, g.Leaves id := fun g _ => g.leaves_id
  have comp : ∀ u v : Settings → Settings, (∀ g ∈ q.2.fields, g.Leaves u) →
      (∀ g ∈ q.2.fields, g.Leaves v) → ∀ g ∈ q.2.fields, g.Leaves (v ∘ u) :=
    fun u v first second g other => (second g other).comp (first g other)
  have leaves : ∀ g ∈ q.2.fields, g.Leaves u := by
    rcases writes with _ | given
    · dsimp only
      rw [← funext (reset_eq_absent p known)]
      exact Section.reset_composed whole comp fun f field => apart f field f.unset .unset
    · obtain ⟨v, left, puts⟩ := read_composed whole comp known apart (given defaults)
      obtain rfl : u = v := funext fun s => Except.ok.inj ((given s).symm.trans (puts s))
      exact left
  refine ⟨fun n s => Section.read_leaves leaves n s, fun s => ?_⟩
  dsimp only
  rw [← reset_eq_absent q known', ← reset_eq_absent q known', Section.reset_leaves leaves]

theorem document_uniform : ∀ f ∈ documentSection.fields, f.Uniform := by
  intro f field n s t given
  obtain ⟨p, known, rfl⟩ := List.mem_map.mp field
  obtain ⟨u, -, puts⟩ := read_composed (A := fun _ => True) trivial (fun _ _ _ _ => trivial) known
    (fun _ _ _ _ => trivial) given
  exact ⟨u, puts⟩

theorem absent_defaults : ∀ p ∈ sections, p.2.absent defaults = defaults := by
  simp only [sections, List.forall_mem_cons, List.not_mem_nil, false_implies, implies_true,
    and_true]
  exact ⟨rfl, rfl, rfl, rfl, rfl, rfl⟩

theorem unset_reset : ∀ p ∈ sections, ∀ f ∈ p.2.fields, ∀ s,
    f.unset (p.2.reset s) = p.2.reset s := by
  simp only [sections, registrySection, detectorSection, backendSection, verifierSection,
    reportSection, loggingSection, List.forall_mem_cons, List.not_mem_nil, false_implies,
    implies_true, and_true]
  exact ⟨fun _ => rfl, ⟨fun _ => rfl, fun _ => rfl⟩, ⟨fun _ => rfl, fun _ => rfl, fun _ => rfl⟩,
    fun _ => rfl, fun _ => rfl, fun _ => rfl⟩

theorem section_unique : ∀ p ∈ sections, ∀ q ∈ sections, p.1 = q.1 → p.2 = q.2 := by
  simp only [sections, registryKey, List.forall_mem_cons, List.not_mem_nil, false_implies,
    implies_true, and_true, String.reduceEq]

def writtenText (t : String) : Node := .scalar 0 (.text t.toList)

/-- The values in force where a key is not written, as one would write them. -/
def writtenDefaults : List (String × String × Node) := [
  ("registry", "services", .array 0 []),
  ("detector", "signatures", .array 0
    [writtenText "FileNotFoundError", writtenText "Traceback", writtenText "ERROR",
      writtenText "Errno"]),
  ("detector", "literal", .scalar 0 (.boolean true)),
  ("backend", "docker_binary", writtenText "docker"),
  ("backend", "container_name_template", writtenText "\x7bservice\x7d"),
  ("backend", "timeout_seconds", .scalar 0 (.integer 30)),
  ("verifier", "concurrency", .scalar 0 (.integer 8)),
  ("logging", "format", writtenText "text")]

def HoldsDefault (table key : String) (n : Node) : Prop := (table, key, n.bare) ∈ writtenDefaults

theorem read_writtenDefault : ∀ p ∈ sections, ∀ f ∈ p.2.fields, ∀ n,
    (p.1, f.name, n) ∈ writtenDefaults → ∀ s, f.read n s = .ok (f.unset s) := by
  simp only [sections, registryKey, registrySection, detectorSection, backendSection,
    verifierSection, reportSection, loggingSection, List.forall_mem_cons, List.not_mem_nil,
    false_implies, implies_true, and_true, Field.of_name]
  simp only [writtenDefaults, List.mem_cons, Prod.mk.injEq, String.reduceEq, List.not_mem_nil,
    false_and, and_false, or_false, false_or, true_and, false_implies, implies_true]
  and_intros <;> rintro n rfl s <;> rfl

theorem read_default {p : String × Section} (known : p ∈ sections) {f : Field}
    (field : f ∈ p.2.fields) {n : Node} (held : HoldsDefault p.1 f.name n) (s : Settings) :
    f.read n s = .ok (f.unset s) := by
  have same := fields_placeless p known f field s n
  dsimp only at same
  rw [read_writtenDefault p known f field n.bare held s] at same
  exact toOption_eq_some_iff.mp same

/-- The values in a section by the names of their keys, whether it is written as a table or as a
list. -/
def Section.values (sec : Section) : Node → List (Text × Node)
  | .table _ _ es => es.map fun e => (e.1.name, e.2)
  | n => (itemsOf? n).elim [] fun items => (sec.fields.map fun f => f.name.toList).zip items

def AllDefault (table : String) (sec : Section) (n : Node) : Prop :=
  ∀ f ∈ sec.fields, ∀ v, (f.name.toList, v) ∈ sec.values n → HoldsDefault table f.name v

theorem readItems_defaults {p : String × Section} (known : p ∈ sections) {fields : List Field}
    (sub : ∀ f ∈ fields, f ∈ p.2.fields) {place : Option Toml.Left} {index : Nat}
    {items : List Node} {s t : Settings} (unset : ∀ f ∈ fields, f.unset s = s)
    (held : ∀ f ∈ fields, ∀ v, (f.name.toList, v) ∈ (fields.map fun f => f.name.toList).zip items →
      HoldsDefault p.1 f.name v)
    (given : p.2.readItems place index fields items s = .ok t) : t = s := by
  induction fields generalizing index items with
  | nil =>
    simp only [Section.readItems, Except.ok.injEq] at given
    exact given.symm
  | cons f fields ih =>
    cases items with
    | nil => exact Section.readItems_nil given
    | cons n ns =>
      obtain ⟨u, first, rest⟩ := Section.readItems_cons.mp given
      have here := held f (by simp) n (by simp)
      rw [read_default known (sub f (by simp)) here, unset f (by simp)] at first
      cases first
      refine ih (fun g mem => sub g (by simp [mem])) (fun g mem => unset g (by simp [mem])) ?_ rest
      exact fun g mem v pair => held g (by simp [mem]) v (by simp [pair])

theorem read_allDefault {p : String × Section} (known : p ∈ sections) {n : Node} {s t : Settings}
    (held : AllDefault p.1 p.2 n) (given : p.2.read n s = .ok t) : t = p.2.absent s := by
  rw [← reset_eq_absent p known]
  have unset : ∀ f ∈ p.2.fields, f.unset (p.2.reset s) = p.2.reset s :=
    fun f field => unset_reset p known f field s
  have listed {items : List Node} {place : Option Toml.Left}
      (values : p.2.values n = (p.2.fields.map fun f => f.name.toList).zip items)
      (given : p.2.readItems place 0 p.2.fields items (p.2.reset s) = .ok t) : t = p.2.reset s :=
    readItems_defaults known (fun _ field => field) unset
      (fun f field v pair => held f field v (values ▸ pair)) given
  cases n with
  | table start origin es =>
    refine Section.readEntries_idle (fun e mem f field named u first => ?_) given
    have here := held f field e.2 (by simpa [Section.values, named] using ⟨e.1, mem, rfl⟩)
    rw [read_default known field here, unset f field] at first
    exact (Except.ok.inj first).symm
  | scalar start v =>
    cases v with
    | date => exact (Except.ok.inj given).symm
    | _ => exact absurd given nofun
  | array start items => exact listed rfl given
  | tables items => exact listed rfl given

def entriesOf : Node → Entries
  | .table _ _ es => es
  | _ => []

def withoutKey (key : String) : Node → Node
  | .table start origin es => .table start origin (Entries.erase es key.toList)
  | n => n

/-- One key or one section is left out that says no more than the defaults do. Where a text has gone
back to a table, this may also change the order of the tables. -/
inductive LeavesOut (es : Entries) : Entries → Prop
  | key (table key : String)
      (held : ∀ e ∈ es, e.1.name = table.toList → ∀ v ∈ entriesOf e.2, v.1.name = key.toList →
        HoldsDefault table key v.2) :
      LeavesOut es (es.map fun e =>
        (e.1, if e.1.name = table.toList then withoutKey key e.2 else e.2))
  | table {p : String × Section} (known : p ∈ sections) (optional : p.1 ≠ registryKey)
      (held : ∀ e ∈ es, e.1.name = p.1.toList → AllDefault p.1 p.2 e.2) :
      LeavesOut es (Entries.erase es p.1.toList)
  | order (before : Entries) {after : Entries} {e e' : Key × Node}
      (sides : es = before ++ e :: e' :: after) (other : e.1.name ≠ e'.1.name) :
      LeavesOut es (before ++ e' :: e :: after)

theorem read_withoutKey {p : String × Section} (known : p ∈ sections) {key : String} {n : Node}
    {s t : Settings}
    (held : ∀ v ∈ entriesOf n, v.1.name = key.toList → HoldsDefault p.1 key v.2)
    (given : p.2.read n s = .ok t) : p.2.read (withoutKey key n) s = .ok t := by
  cases n with
  | table start origin es =>
    refine Section.readEntries_filter (fun v => v.1.name == key.toList)
      (P := fun u => ∀ f ∈ p.2.fields, f.name = key → f.unset u = u) ?_ ?_
      (fun f field _ => unset_reset p known f field s) given
    · intro v mem out f field named u w start first
      have meant := eq_of_beq out
      obtain rfl := String.toList_injective (named.trans meant)
      rw [read_default known field (held v mem meant), start f field rfl] at first
      exact (Except.ok.inj first).symm
    · intro v mem stays f field named u w start first g other meant
      have apart : g.name ≠ f.name := by
        intro same
        rw [← named, ← same, meant] at stays
        simp at stays
      exact (fields_apart p known g other f field apart _ .unset).keeps (start g other meant) first
  | _ => exact given

theorem decode_table_iff {start : Option Toml.Left} {origin : Toml.Origin} {es : Entries}
    {s : Settings} :
    decode (.table start origin es) = .ok s ↔
      documentSection.readEntries es defaults = .ok s ∧
        ∃ e ∈ es, e.1.name = registryKey.toList := by
  have read : documentSection.read (.table start origin es) defaults =
      documentSection.readEntries es defaults := rfl
  have present : (Entries.find? es registryKey.toList).isNone = false ↔
      ∃ e ∈ es, e.1.name = registryKey.toList := by
    simp [Entries.find?]
  unfold decode
  rw [read, ← present]
  cases documentSection.readEntries es defaults with
  | error m => simp [bind, Except.bind]
  | ok u =>
    dsimp only [bind, Except.bind]
    cases (Entries.find? es registryKey.toList).isNone <;> simp

theorem readEntries_withoutTable {p : String × Section} (known : p ∈ sections) {es : Entries}
    {s : Settings} (held : ∀ e ∈ es, e.1.name = p.1.toList → AllDefault p.1 p.2 e.2)
    (given : documentSection.readEntries es defaults = .ok s) :
    documentSection.readEntries (Entries.erase es p.1.toList) defaults = .ok s := by
  refine Section.readEntries_filter (fun e => e.1.name == p.1.toList)
    (P := fun u => p.2.absent u = u) ?_ ?_ (absent_defaults p known) given
  · intro e mem out f field named u v start first
    obtain ⟨q, known', rfl⟩ := List.mem_map.mp field
    have meant := eq_of_beq out
    have same := section_unique q known' p known (String.toList_injective (named.trans meant))
    dsimp only at first
    rw [same] at first
    rw [read_allDefault known (held e mem meant) first, start]
  · intro e mem stays f field named u v start first
    have apart : p.1 ≠ f.name := by
      intro same
      rw [← named, ← same] at stays
      simp at stays
    have leaves := document_apart _ (List.mem_map_of_mem known) f field apart _ .unset
    exact leaves.keeps start first

theorem decode_leavesOut {start : Option Toml.Left} {origin : Toml.Origin} {es es' : Entries}
    {s : Settings} (step : LeavesOut es es') (given : decode (.table start origin es) = .ok s) :
    decode (.table start origin es') = .ok s := by
  obtain ⟨given, e, mem, registry⟩ := decode_table_iff.mp given
  rw [decode_table_iff]
  cases step with
  | key table key held =>
    refine ⟨Section.readEntries_map (fun e mem f field named u v given => ?_) given, ?_⟩
    · obtain ⟨p, known, rfl⟩ := List.mem_map.mp field
      dsimp only at named given ⊢
      split
      · rename_i meant
        obtain rfl := String.toList_injective (named.trans meant)
        exact read_withoutKey known (held e mem meant) given
      · exact given
    · exact ⟨_, List.mem_map_of_mem mem, registry⟩
  | table known optional held =>
    refine ⟨readEntries_withoutTable known held given, e, List.mem_filter.mpr ⟨mem, ?_⟩, registry⟩
    rw [registry, bne_iff_ne]
    exact fun same => optional (String.toList_injective same).symm
  | @order before after e₁ e₂ sides other =>
    subst sides
    obtain ⟨u, first, rest⟩ := Section.readEntries_append.mp given
    refine ⟨Section.readEntries_append.mpr ⟨u, first, ?_⟩, e, ?_, registry⟩
    · exact Section.readEntries_swap document_apart document_uniform other rest
    · simp only [List.mem_append, List.mem_cons] at mem ⊢
      rwa [or_left_comm (a := e = e₂)]

theorem decode_leavesOuts {start : Option Toml.Left} {origin : Toml.Origin} {es es' : Entries}
    {s : Settings} (steps : Relation.ReflTransGen LeavesOut es es')
    (given : decode (.table start origin es) = .ok s) :
    decode (.table start origin es') = .ok s := by
  induction steps with
  | refl => exact given
  | tail _ step ih => exact decode_leavesOut step ih

/-- A document in which the registry is named and nothing else. -/
def emptyRegistry : Node :=
  .table none .header [(⟨registryKey.toList, 0⟩, .table none .header [])]

theorem decode_emptyRegistry : decode emptyRegistry = .ok defaults :=
  decode_table_iff.mpr ⟨rfl, _, List.mem_singleton_self _, rfl⟩

/-- What keeps a configuration from being read. -/
inductive Unreadable (o : Overrides) : Stored → ReadFault → Prop
  | missing (unnamed : o.services = []) : Unreadable o .missing .notFound
  | directory : Unreadable o .directory .isDirectory
  | belowFile : Unreadable o .belowFile .notDirectory
  | bytes {content : List UInt8} (broken : ¬content.toByteArray.IsValidUTF8) :
      Unreadable o (.bytes content) .notText

section
variable {o : Overrides} {s : Settings} {document : Text} {f : ReadFault}

theorem finish_readable : s.finish o ≠ .error (.unreadable f) := by
  unfold finish
  split <;> simp

theorem ofText_readable : ofText o document ≠ .error (.unreadable f) := by
  cases shaped : read document with
  | ok s => exact ofText_of_read shaped ▸ finish_readable
  | error e =>
    have passed : ofText o document = .error e := by rw [ofText, shaped]; rfl
    rw [passed]
    rintro ⟨rfl⟩
    unfold read at shaped
    split at shaped
    · cases shaped
    · split at shaped <;> cases shaped

theorem load_unreadable_iff {stored : Stored} :
    load o stored = .error (.unreadable f) ↔ Unreadable o stored f := by
  constructor
  · intro unread
    cases stored with
    | missing =>
      rw [load] at unread
      split at unread
      · rename_i unnamed
        cases unread
        exact .missing (List.isEmpty_iff.mp unnamed)
      · exact absurd unread finish_readable
    | directory =>
      cases unread
      exact .directory
    | belowFile =>
      cases unread
      exact .belowFile
    | bytes content =>
      rw [load] at unread
      split at unread
      · rename_i broken
        cases unread
        exact .bytes (Utf8.decode?_eq_none_iff.mp broken)
      · exact absurd unread ofText_readable
  · intro unread
    cases unread with
    | missing unnamed => rw [load, if_pos (List.isEmpty_iff.mpr unnamed)]
    | directory => rfl
    | belowFile => rfl
    | bytes broken => rw [load, Utf8.decode?_eq_none_iff.mpr broken]

end

/-- All ways to leave something unwritten lead to the same settings or to the same error. -/
theorem defaults_agree (o : Overrides) :
    (o.services ≠ [] → ∀ document n, Toml.parse document = .ok n → n.bare = emptyRegistry →
      load o .missing = ofText o document) ∧
    (∀ written shorter start origin es es' n s, Toml.parse written = .ok (.table start origin es) →
      read written = .ok s → Relation.ReflTransGen LeavesOut es es' →
      Toml.parse shorter = .ok n → n.bare = (Node.table start origin es').bare →
      ofText o shorter = ofText o written) ∧
    ∀ stored f, load o stored = .error (.unreadable f) ↔ Unreadable o stored f := by
  refine ⟨fun named document n parsed same => ?_, ?_, fun stored f => load_unreadable_iff⟩
  · have given : read document = .ok defaults := by
      refine read_of_bare parsed ?_ decode_emptyRegistry
      rw [same]
      rfl
    rw [ofText_of_read given, load, if_neg (by simpa using named)]
  · intro written shorter start origin es es' n s parsed given steps parsedToo same
    obtain ⟨m, again, decoded⟩ := read_ok_iff.mp given
    obtain rfl : Node.table start origin es = m := Except.ok.inj (parsed.symm.trans again)
    have shorterGiven := read_of_bare parsedToo same.symm (decode_leavesOuts steps decoded)
    rw [ofText_of_read given, ofText_of_read shorterGiven]

/-- A document in which a key with its default stands before another table, and a section that says
no more than the defaults at the end. -/
def writtenDocument : Text :=
  "detector.literal=true\nverifier.concurrency=4\ndetector.signatures=[]\n[registry]\n[logging]\n".toList

def shorterDocument : Text :=
  "verifier.concurrency=4\ndetector.signatures=[]\n[registry]\n".toList

def writtenEntries : Entries := [
  (⟨"detector".toList, 89⟩, .table none .dotted [
    (⟨"literal".toList, 80⟩, .scalar 72 (.boolean true)),
    (⟨"signatures".toList, 35⟩, .array 24 [])]),
  (⟨"verifier".toList, 67⟩,
    .table none .dotted [(⟨"concurrency".toList, 58⟩, .scalar 46 (.integer 4))]),
  (⟨"registry".toList, 20⟩, .table (some 21) .header []),
  (⟨"logging".toList, 9⟩, .table (some 10) .header [])]

def nameOnly : Overrides := { Overrides.none with services := ["api".toList] }

theorem leavesOut_literal : LeavesOut writtenEntries
    ((⟨"detector".toList, 89⟩, .table none .dotted [(⟨"signatures".toList, 35⟩, .array 24 [])]) ::
      writtenEntries.tail) := by
  have held : HoldsDefault "detector" "literal" (.scalar 72 (.boolean true)) := by
    simp [HoldsDefault, writtenDefaults, Node.bare]
  refine .key "detector" "literal" ?_
  unfold writtenEntries
  simp only [List.forall_mem_cons, List.not_mem_nil, false_implies, implies_true, and_true,
    entriesOf]
  refine ⟨fun _ => ⟨fun _ => held, fun keyed => ?_⟩, fun named => ?_⟩
  · exact absurd keyed (by decide)
  · exact absurd named (by decide)

theorem defaults_agree_interleaved :
    load nameOnly .missing = ofText nameOnly "[registry]\n".toList ∧
      ofText nameOnly shorterDocument = ofText nameOnly writtenDocument ∧
      load .none .missing = .error (.unreadable .notFound) := by
  obtain ⟨missing, left, -⟩ := defaults_agree nameOnly
  obtain ⟨-, -, unread⟩ := defaults_agree .none
  refine ⟨missing (by decide) _ (.table (some 11) .header
    [(⟨"registry".toList, 10⟩, .table (some 11) .header [])]) (by cbv) rfl, ?_,
    (unread _ _).mpr (.missing rfl)⟩
  have parsed : Toml.parse writtenDocument = .ok (.table (some 89) .header writtenEntries) := by
    cbv
  have parsedToo : Toml.parse shorterDocument = .ok (.table (some 57) .header [
      (⟨"verifier".toList, 57⟩,
        .table none .dotted [(⟨"concurrency".toList, 48⟩, .scalar 36 (.integer 4))]),
      (⟨"detector".toList, 34⟩, .table none .dotted [(⟨"signatures".toList, 25⟩, .array 14 [])]),
      (⟨"registry".toList, 10⟩, .table (some 11) .header [])]) := by
    cbv
  obtain ⟨s, decoded⟩ : ∃ s, decode (.table (some 89) .header writtenEntries) = .ok s := ⟨_, rfl⟩
  have empty {start : Option Toml.Left} {origin : Toml.Origin} :
      AllDefault "logging" loggingSection (.table start origin []) := by
    intro f field v mem
    exact absurd mem List.not_mem_nil
  refine left _ _ _ _ _ _ _ s parsed (read_ok_iff.mpr ⟨_, parsed, decoded⟩)
    (((Relation.ReflTransGen.single leavesOut_literal).tail
      (.order [] rfl (by decide))).tail
      (.table (p := ("logging", loggingSection)) (by simp [sections]) (by decide) ?_)) parsedToo rfl
  simp only [List.nil_append, List.forall_mem_cons, List.not_mem_nil, false_implies, implies_true,
    and_true]
  refine ⟨fun named => ?_, fun named => ?_, fun named => ?_, fun _ => empty⟩
  all_goals exact absurd named (by decide)

end FleetHealth.Settings
