import FleetHealth.Signature.Detector
import Mathlib.Data.List.Nodup

/- Which hits a scan reports. Of the hits that show one text it keeps the first in the order of hits,
   so the set of all hits decides what is kept, however often and in which order they were found. -/
namespace FleetHealth

namespace Hit

variable {a b c : Hit}

theorem before_iff :
    a.before b = true ↔ a.lines.start < b.lines.start ∨ a.lines.start = b.lines.start ∧
      (a.lines.stop < b.lines.stop ∨ a.lines.stop = b.lines.stop ∧ a.index ≤ b.index) := by
  simp [before]

theorem before_trans (ab : a.before b = true) (bc : b.before c = true) : a.before c = true := by
  rw [before_iff] at ab bc ⊢
  omega

theorem before_total (a b : Hit) : (a.before b || b.before a) = true := by
  rw [Bool.or_eq_true, before_iff, before_iff]
  omega

theorem before_antisymm (ab : a.before b = true) (ba : b.before a = true) : a = b := by
  rw [before_iff] at ab ba
  have start : a.lines.start = b.lines.start := by omega
  have stop : a.lines.stop = b.lines.stop := by omega
  have index : a.index = b.index := by omega
  obtain ⟨⟨_, _⟩, _⟩ := a
  obtain ⟨⟨_, _⟩, _⟩ := b
  simp_all

end Hit

/-- The first hit of each text, in order. -/
structure Leaders (text : Hit → Text) (hits kept : List Hit) : Prop where
  ordered : kept.Pairwise fun a b => a.before b = true
  found : ∀ k ∈ kept, k ∈ hits
  distinct : (kept.map text).Nodup
  first : ∀ h ∈ hits, ∃ k ∈ kept, text k = text h ∧ k.before h = true

namespace Leaders

variable {text : Hit → Text} {hits few kept other : List Hit}

theorem subset (a : Leaders text hits kept) (b : Leaders text hits other) {k : Hit}
    (mem : k ∈ kept) : k ∈ other := by
  obtain ⟨o, memO, sameText, before⟩ := b.first k (a.found k mem)
  obtain ⟨l, memL, sameToo, first⟩ := a.first o (b.found o memO)
  obtain rfl : l = k := List.inj_on_of_nodup_map a.distinct memL mem (sameToo.trans sameText)
  rw [Hit.before_antisymm first before]
  exact memO

/-- The hits decide which of them are kept. -/
theorem unique (a : Leaders text hits kept) (b : Leaders text hits other) : kept = other := by
  -- Each is a part of the other, and a list in order is known by its members.
  have same : kept.Perm other :=
    (List.perm_ext_iff_of_nodup a.distinct.of_map b.distinct.of_map).mpr fun _ =>
      ⟨a.subset b, b.subset a⟩
  exact same.eq_of_pairwise (fun _ _ _ _ => Hit.before_antisymm) a.ordered b.ordered

/-- Hits that are not before others with the same text may as well be missing. -/
theorem of_few (kept_ : Leaders text few kept) (sub : ∀ h ∈ few, h ∈ hits)
    (first : ∀ h ∈ hits, ∃ f ∈ few, text f = text h ∧ f.before h = true) :
    Leaders text hits kept where
  ordered := kept_.ordered
  found k mem := sub k (kept_.found k mem)
  distinct := kept_.distinct
  first h mem := by
    obtain ⟨f, memF, same, before⟩ := first h mem
    obtain ⟨k, memK, sameToo, earlier⟩ := kept_.first f memF
    exact ⟨k, memK, sameToo.trans same, Hit.before_trans earlier before⟩

end Leaders

/-- The hits whose texts were not seen before. -/
def unseen (text : Hit → Text) (seen : List Text) : List Hit → List Hit
  | [] => []
  | h :: rest =>
    if seen.contains (text h) then unseen text seen rest
    else h :: unseen text (text h :: seen) rest

section
variable {text : Hit → Text} {seen : List Text} {hits : List Hit}

theorem unseen_sublist (text : Hit → Text) (seen : List Text) (hits : List Hit) :
    (unseen text seen hits).Sublist hits := by
  induction hits generalizing seen with
  | nil => exact List.Sublist.slnil
  | cons h rest ih =>
    rw [unseen]
    split
    · exact (ih seen).cons h
    · exact (ih _).cons_cons h

theorem unseen_fresh {k : Hit} (mem : k ∈ unseen text seen hits) : text k ∉ seen := by
  induction hits generalizing seen with
  | nil => simp [unseen] at mem
  | cons h rest ih =>
    rw [unseen] at mem
    split at mem
    · exact ih mem
    · rename_i fresh
      rcases List.mem_cons.mp mem with rfl | mem
      · simpa using fresh
      · exact fun known => ih mem (List.mem_cons_of_mem _ known)

theorem unseen_nodup (text : Hit → Text) (seen : List Text) (hits : List Hit) :
    ((unseen text seen hits).map text).Nodup := by
  induction hits generalizing seen with
  | nil => exact List.nodup_nil
  | cons h rest ih =>
    rw [unseen]
    split
    · exact ih seen
    · refine List.nodup_cons.mpr ⟨fun again => ?_, ih _⟩
      obtain ⟨k, mem, same⟩ := List.mem_map.mp again
      exact unseen_fresh mem (by simp [same])

theorem unseen_first (sorted : hits.Pairwise fun a b => a.before b = true) {h : Hit}
    (mem : h ∈ hits) (fresh : text h ∉ seen) :
    ∃ k ∈ unseen text seen hits, text k = text h ∧ k.before h = true := by
  induction hits generalizing seen with
  | nil => simp at mem
  | cons g rest ih =>
    obtain ⟨least, sorted⟩ := List.pairwise_cons.mp sorted
    have own : g.before g = true := by simpa using Hit.before_total g g
    rw [unseen]
    split
    · rename_i known
      rcases List.mem_cons.mp mem with rfl | mem
      · exact absurd (by simpa using known) fresh
      · exact ih sorted mem fresh
    · by_cases same : text g = text h
      · refine ⟨g, by simp, same, ?_⟩
        rcases List.mem_cons.mp mem with rfl | mem
        · exact own
        · exact least h mem
      · rcases List.mem_cons.mp mem with rfl | mem
        · exact absurd rfl same
        · have freshToo : text h ∉ text g :: seen := by simp [fresh, Ne.symm same]
          obtain ⟨k, memK, found⟩ := ih sorted mem freshToo
          exact ⟨k, List.mem_cons_of_mem g memK, found⟩

theorem unseen_leaders (text : Hit → Text)
    (sorted : hits.Pairwise fun a b => a.before b = true) :
    Leaders text hits (unseen text [] hits) where
  ordered := sorted.sublist (unseen_sublist text [] hits)
  found _ mem := (unseen_sublist text [] hits).mem mem
  distinct := unseen_nodup text [] hits
  first _ mem := unseen_first sorted mem (by simp)

theorem firstOfLines_map (describe : Hit → LineMatch) (seen : List Text) (hits : List Hit) :
    firstOfLines seen (hits.map describe) =
      (unseen (fun h => (describe h).line) seen hits).map describe := by
  induction hits generalizing seen with
  | nil => rfl
  | cons h rest ih =>
    rw [List.map_cons, firstOfLines, unseen]
    split
    · exact ih seen
    · rw [List.map_cons, ih]

end

/-- What is reported of hits in order, as long as it is what is reported of all hits in order. -/
theorem firstOfLines_eq_of_few {describe : Hit → LineMatch} {all few : List Hit}
    (sorted : all.Pairwise fun a b => a.before b = true)
    (sortedToo : few.Pairwise fun a b => a.before b = true) (sub : ∀ h ∈ few, h ∈ all)
    (first : ∀ h ∈ all, ∃ f ∈ few, (describe f).line = (describe h).line ∧ f.before h = true) :
    firstOfLines [] (all.map describe) = firstOfLines [] (few.map describe) := by
  have kept := unseen_leaders (fun h => (describe h).line) sorted
  have keptToo := (unseen_leaders (fun h => (describe h).line) sortedToo).of_few sub first
  rw [firstOfLines_map, firstOfLines_map, kept.unique keptToo]

theorem mem_hits_iff {d : Detector} {log : Text} {h : Hit} :
    h ∈ d.hits log ↔ ∃ s, d.signatures[h.index]? = some s ∧
      ∃ m ∈ s.matcher.spans log, m.cover log = h.lines := by
  unfold Detector.hits
  rw [List.mem_flatMap]
  constructor
  · rintro ⟨⟨s, i⟩, known, mem⟩
    obtain ⟨m, memM, rfl⟩ := List.mem_map.mp mem
    exact ⟨s, List.mk_mem_zipIdx_iff_getElem?.mp known, m, memM, rfl⟩
  · rintro ⟨s, known, m, mem, covered⟩
    refine ⟨(s, h.index), List.mk_mem_zipIdx_iff_getElem?.mpr known, ?_⟩
    exact List.mem_map.mpr ⟨m, mem, by rw [covered]⟩

theorem sorted_hits (hits : List Hit) :
    (hits.mergeSort Hit.before).Pairwise fun a b => a.before b = true := by
  have trans : ∀ a b c : Hit, a.before b = true → b.before c = true → a.before c = true :=
    fun _ _ _ => Hit.before_trans
  exact List.pairwise_mergeSort trans Hit.before_total hits

theorem filter_firstOfLines (seen : List Text) (ms : List LineMatch) :
    firstOfLines seen ms =
      (ms.filter fun m => !seen.contains m.line).eraseDupsBy fun a b => a.line == b.line := by
  induction ms generalizing seen with
  | nil => rfl
  | cons m rest ih =>
    rw [firstOfLines]
    split
    · rename_i known
      rw [ih, List.filter_cons_of_neg (by simpa using known)]
    · rename_i fresh
      rw [ih, List.filter_cons_of_pos (by simpa using fresh), List.eraseDupsBy_cons,
        List.filter_filter]
      congr 2
      refine List.filter_congr fun n _ => ?_
      simp

theorem firstOfLines_eq_eraseDupsBy (ms : List LineMatch) :
    firstOfLines [] ms = ms.eraseDupsBy fun a b => a.line == b.line := by
  rw [filter_firstOfLines]
  simp

end FleetHealth
