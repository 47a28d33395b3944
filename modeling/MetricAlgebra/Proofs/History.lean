import Mathlib.Data.Set.Card
import MetricAlgebra.Lookback.Store

/-!
# The store remembers the last write

A store of past values stands for a plain map from series and instants to values, in which a later
write at the same instant takes the place of an earlier one. `Store.pointsOf` is the view of a store
through which the two are compared: the points of one series, in rising order of instants. Each
command does to this view what it does to the map (`Refines.apply`), so that after any run of
commands the points of a series are the entries of the map (`Refines.run`). What the store answers
follows: a lookup is the entry of the greatest instant that is not too late, and the number of
series is the number of those with an entry (`Store.run_refines_history`).
-/

namespace MetricAlgebra

open Search (Rising at? put mem_put rising_put)

/-! ## The points of a series -/

namespace Track

/-- The points that eviction leaves are those not before the instant. -/
theorem drop_cut_eq_filter (t : Track) (instant : Timestamp) :
    t.points.drop (Search.cut (fun p => p.timestamp < instant) t.points) =
      t.points.filter fun p => decide (instant ≤ p.timestamp) := by
  rw [t.rising.drop_cut]
  · refine List.filter_congr fun p _ => ?_
    rw [← decide_not, decide_eq_decide, Int64.not_lt]
  · intro a b hab hb
    have hlt : a.timestamp < b.timestamp := Std.compare_eq_lt.1 hab
    simp only [decide_eq_true_eq] at hb ⊢
    exact Int64.lt_trans hlt hb

/-- The point at an instant is the last of those not behind it. -/
theorem at?_eq_getLast? (t : Track) (instant : Timestamp) :
    t.at? instant = (t.points.filter fun p => decide (p.timestamp ≤ instant)).getLast? := by
  have hdown : ∀ a b : Point, compare a.timestamp b.timestamp = .lt →
      decide (b.timestamp ≤ instant) = true → decide (a.timestamp ≤ instant) = true := by
    intro a b hab hb
    have hlt : a.timestamp < b.timestamp := Std.compare_eq_lt.1 hab
    simp only [decide_eq_true_eq] at hb ⊢
    exact Int64.le_trans (Int64.le_of_lt hlt) hb
  unfold Track.at?
  split
  · rename_i hzero
    rw [t.rising.cut_eq_length hdown, List.length_eq_zero_iff] at hzero
    rw [hzero, List.getLast?_nil]
  · rename_i i hsucc
    exact t.rising.getElem?_cut hdown hsucc

end Track

namespace Store

/-- The points of a series, none if there is no track of it. -/
def pointsOf (store : Store) (labels : LabelSet) : List Point :=
  ((store.tracks.lookup labels).map (·.points)).getD []

/-- The points of a series are in rising order of instants. -/
theorem rising_pointsOf (store : Store) (labels : LabelSet) :
    Rising Point.timestamp (store.pointsOf labels) := by
  unfold pointsOf
  cases store.tracks.lookup labels with
  | none => exact .nil
  | some track => exact track.rising

/-- The empty store has no points. -/
theorem pointsOf_empty (labels : LabelSet) : empty.pointsOf labels = [] := rfl

/-- Recording a point changes the track of its series alone. -/
theorem lookup_recordInto (labels series : LabelSet) (p : Point)
    (tracks : List (LabelSet × Track)) :
    (Track.recordInto labels p tracks).lookup series =
      if series = labels then
        some (((tracks.lookup labels).map (·.record p)).getD (Track.single p))
      else tracks.lookup series := by
  induction tracks with
  | nil =>
    by_cases h : series = labels
    · simp [Track.recordInto, h]
    · simp [Track.recordInto, h]
  | cons head rest ih =>
    obtain ⟨key, track⟩ := head
    simp only [Track.recordInto]
    by_cases hkey : key = labels
    · subst hkey
      by_cases h : series = key
      · simp [h]
      · simp [List.lookup_cons, h, beq_eq_false_iff_ne.2 h]
    · have hkey' : (labels == key) = false := beq_eq_false_iff_ne.2 (Ne.symm hkey)
      rw [if_neg hkey, List.lookup_cons, ih]
      by_cases h : series = key
      · subst h
        simp [hkey]
      · simp [List.lookup_cons, beq_eq_false_iff_ne.2 h, hkey']

/-- Recording puts the point among those of its series. -/
theorem pointsOf_record (store : Store) (labels series : LabelSet) (timestamp : Timestamp)
    (value : Float) :
    (store.record labels timestamp value).pointsOf series =
      if series = labels then put Point.timestamp ⟨timestamp, value⟩ (store.pointsOf labels)
      else store.pointsOf series := by
  unfold pointsOf record
  dsimp only
  rw [lookup_recordInto]
  by_cases h : series = labels
  · simp only [h, if_true]
    cases store.tracks.lookup labels with
    | none => rfl
    | some track => rfl
  · simp only [h, if_false]

/-- Eviction is done in each track. -/
theorem lookup_evictFrom (instant : Timestamp) (series : LabelSet)
    {tracks : List (LabelSet × Track)} (h : (tracks.map Prod.fst).Nodup) :
    (evictFrom instant tracks).lookup series =
      (tracks.lookup series).bind (·.evictBefore? instant) := by
  induction tracks with
  | nil => rfl
  | cons head rest ih =>
    obtain ⟨key, track⟩ := head
    obtain ⟨hkey, hrest⟩ := List.nodup_cons.1 h
    have ih := ih hrest
    unfold evictFrom at ih ⊢
    rw [List.filterMap_cons]
    by_cases hs : series = key
    · subst hs
      cases hleft : track.evictBefore? instant with
      | none =>
        -- The track goes, and the series has no other.
        have hnone : rest.lookup series = none := by
          rw [List.lookup_eq_none_iff]
          rintro ⟨other, track'⟩ hmem
          rw [bne_iff_ne]
          rintro rfl
          exact hkey (List.mem_map.2 ⟨_, hmem, rfl⟩)
        simp [hleft, ih, hnone]
      | some left => simp [hleft]
    · have hs' : (series == key) = false := beq_eq_false_iff_ne.2 hs
      cases hleft : track.evictBefore? instant with
      | none => simp [ih, List.lookup_cons, hs']
      | some left => simp [ih, List.lookup_cons, hs']

/-- Eviction leaves the points of a series that are not before the instant. -/
theorem pointsOf_evictBefore (store : Store) (instant : Timestamp) (series : LabelSet) :
    (store.evictBefore instant).pointsOf series =
      (store.pointsOf series).filter fun p => decide (instant ≤ p.timestamp) := by
  unfold pointsOf evictBefore
  dsimp only
  rw [lookup_evictFrom instant series store.distinct]
  cases store.tracks.lookup series with
  | none => rfl
  | some track =>
    simp only [Option.bind_some, Option.map_some, Option.getD_some, Track.evictBefore?]
    rw [← track.drop_cut_eq_filter]
    split
    · rfl
    · rename_i hnil
      exact (not_not.1 hnil).symm

/-- A lookup is the last point of the series that is not behind the instant. -/
theorem lookup_eq_getLast? (store : Store) (q : Query) :
    store.lookup q =
      ((store.pointsOf q.labels).filter fun p => decide (p.timestamp ≤ q.timestamp)).getLast? := by
  unfold lookup pointsOf
  cases store.tracks.lookup q.labels with
  | none => rfl
  | some track => exact track.at?_eq_getLast? q.timestamp

/-- The series with a track are those with points. -/
theorem mem_keys_iff (store : Store) (labels : LabelSet) :
    labels ∈ store.tracks.map Prod.fst ↔ store.pointsOf labels ≠ [] := by
  unfold pointsOf
  cases hlookup : store.tracks.lookup labels with
  | none =>
    simp only [Option.map_none, Option.getD_none, ne_eq, not_true_eq_false, iff_false]
    rintro hmem
    obtain ⟨entry, hentry, rfl⟩ := List.mem_map.1 hmem
    have := List.lookup_eq_none_iff.1 hlookup entry hentry
    simp at this
  | some track =>
    simp only [Option.map_some, Option.getD_some, ne_eq, track.nonempty, not_false_eq_true,
      iff_true]
    obtain ⟨before, after, heq, -⟩ := List.lookup_eq_some_iff.1 hlookup
    rw [heq]
    simp

end Store

/-! ## Histories -/

/-- What was last written at each instant of each series. -/
abbrev History := LabelSet → Timestamp → Option Float

namespace History

/-- The history of nothing. -/
def empty : History := fun _ _ => none

/-- A write takes the place of what was written before at the instant. -/
def record (h : History) (labels : LabelSet) (timestamp : Timestamp) (value : Float) : History :=
  fun series instant =>
    if series = labels ∧ instant = timestamp then some value else h series instant

/-- The writes of samples, in order. -/
def recordAll (h : History) (samples : List Sample) : History :=
  samples.foldl (fun h s => h.record s.labels s.timestamp s.value) h

/-- What was written before an instant is deleted. -/
def evictBefore (h : History) (instant : Timestamp) : History :=
  fun series written => if written < instant then none else h series written

/-- `p` is the entry of a series with the greatest instant not behind `instant`. -/
structure IsLast (h : History) (labels : LabelSet) (instant : Timestamp) (p : Point) : Prop where
  /-- The point is an entry. -/
  entry : h labels p.timestamp = some p.value
  /-- It is not behind the instant. -/
  le : p.timestamp ≤ instant
  /-- No entry between the two is later. -/
  greatest : ∀ written, written ≤ instant → h labels written ≠ none → written ≤ p.timestamp

end History

/-- The commands that change a store. -/
inductive Store.Command where
  /-- Records a value of a series at an instant. -/
  | record (labels : LabelSet) (timestamp : Timestamp) (value : Float)
  /-- Records every sample of a family. -/
  | recordFamily (f : Family)
  /-- Drops what is before an instant. -/
  | evictBefore (instant : Timestamp)
  /-- Drops everything. -/
  | clear

namespace Store.Command

/-- What a command makes of a store. -/
def apply : Command → Store → Store
  | .record labels timestamp value, store => store.record labels timestamp value
  | .recordFamily f, store => store.recordFamily f
  | .evictBefore instant, store => store.evictBefore instant
  | .clear, _ => .empty

/-- What a command makes of a history. -/
def note : Command → History → History
  | .record labels timestamp value, h => h.record labels timestamp value
  | .recordFamily f, h => h.recordAll f.samples
  | .evictBefore instant, h => h.evictBefore instant
  | .clear, _ => .empty

end Store.Command

/-- The store after commands, from the empty one on. -/
def Store.run (commands : List Store.Command) : Store :=
  commands.foldl (fun store c => c.apply store) .empty

/-- The history of commands. -/
def History.run (commands : List Store.Command) : History :=
  commands.foldl (fun h c => c.note h) .empty

/-- The points of a store are the entries of a history. -/
def Refines (store : Store) (h : History) : Prop :=
  ∀ labels p, p ∈ store.pointsOf labels ↔ h labels p.timestamp = some p.value

namespace Refines

/-- The empty store has the history of nothing. -/
theorem empty : Refines .empty .empty := by
  intro labels p
  rw [Store.pointsOf_empty]
  simp [History.empty]

/-- Recording a value is a write to the history. -/
theorem record {store : Store} {h : History} (hr : Refines store h) (labels : LabelSet)
    (timestamp : Timestamp) (value : Float) :
    Refines (store.record labels timestamp value) (h.record labels timestamp value) := by
  intro series p
  rw [Store.pointsOf_record]
  unfold History.record
  by_cases hs : series = labels
  · subst hs
    rw [if_pos rfl, mem_put (store.rising_pointsOf series), hr series p]
    by_cases ht : p.timestamp = timestamp
    · -- The old point of the instant, if there was one, has given way.
      simp only [ht, and_self, if_true, Option.some.injEq, ne_eq, not_true_eq_false, and_false,
        or_false]
      constructor
      · rintro rfl
        rfl
      · rintro rfl
        rw [← ht]
    · have hne : p ≠ ⟨timestamp, value⟩ := fun heq => ht (by rw [heq])
      simp [ht, hne]
  · rw [if_neg hs, if_neg (fun hc => hs hc.1)]
    exact hr series p

/-- Recording samples is a write for each. -/
theorem recordAll {store : Store} {h : History} (hr : Refines store h) (samples : List Sample) :
    Refines (samples.foldl (fun store s => store.record s.labels s.timestamp s.value) store)
      (h.recordAll samples) := by
  induction samples generalizing store h with
  | nil => exact hr
  | cons s rest ih => exact ih (hr.record s.labels s.timestamp s.value)

/-- Eviction deletes from the history what is before the instant. -/
theorem evictBefore {store : Store} {h : History} (hr : Refines store h) (instant : Timestamp) :
    Refines (store.evictBefore instant) (h.evictBefore instant) := by
  intro series p
  rw [Store.pointsOf_evictBefore, List.mem_filter, hr series p, decide_eq_true_eq]
  unfold History.evictBefore
  by_cases ht : p.timestamp < instant
  · simp [ht, Int64.not_le.2 ht]
  · simp [ht, Int64.not_lt.1 ht]

/-- A command does to the store what it does to the history. -/
theorem apply {store : Store} {h : History} (hr : Refines store h) (c : Store.Command) :
    Refines (c.apply store) (c.note h) := by
  cases c with
  | record labels timestamp value => exact hr.record labels timestamp value
  | recordFamily f => exact hr.recordAll f.samples
  | evictBefore instant => exact hr.evictBefore instant
  | clear => exact Refines.empty

/-- After any commands, the points of the store are the entries of the history. -/
theorem run (commands : List Store.Command) : Refines (.run commands) (.run commands) := by
  have hfold : ∀ store h, Refines store h →
      Refines (commands.foldl (fun store c => c.apply store) store)
        (commands.foldl (fun h c => c.note h) h) := by
    induction commands with
    | nil => exact fun _ _ hr => hr
    | cons c rest ih => exact fun _ _ hr => ih _ _ (hr.apply c)
  exact hfold _ _ Refines.empty

variable {store : Store} {h : History}

/-- A lookup finds exactly the entry of the greatest instant that is not too late. -/
theorem lookup_eq_some_iff (hr : Refines store h) {labels : LabelSet} {instant : Timestamp}
    {p : Point} : store.lookup ⟨labels, instant⟩ = some p ↔ h.IsLast labels instant p := by
  have hrising := (store.rising_pointsOf labels).sublist
    (List.filter_sublist (p := fun p : Point => decide (p.timestamp ≤ instant)))
  rw [Store.lookup_eq_getLast?, hrising.getLast?_eq_some_iff, List.mem_filter, hr labels p,
    decide_eq_true_eq]
  constructor
  · rintro ⟨⟨hentry, hle⟩, hmax⟩
    refine ⟨hentry, hle, fun written hw hsome => ?_⟩
    obtain ⟨value, hvalue⟩ := Option.ne_none_iff_exists'.1 hsome
    have hmem : (⟨written, value⟩ : Point) ∈ store.pointsOf labels := (hr labels _).2 hvalue
    have hle' := hmax ⟨written, value⟩ (List.mem_filter.2 ⟨hmem, by simpa using hw⟩)
    exact Std.isLE_compare.1 (Ordering.isLE_iff_ne_gt.2 hle')
  · rintro ⟨hentry, hle, hmax⟩
    refine ⟨⟨hentry, hle⟩, fun q hq => ?_⟩
    obtain ⟨hmem, hq'⟩ := List.mem_filter.1 hq
    have hvalue := (hr labels q).1 hmem
    have hle' := hmax q.timestamp (by simpa using hq') (by simp [hvalue])
    exact Ordering.isLE_iff_ne_gt.1 (Std.isLE_compare.2 hle')

/-- A lookup finds nothing exactly if there is no entry up to the instant. -/
theorem lookup_eq_none_iff (hr : Refines store h) {labels : LabelSet} {instant : Timestamp} :
    store.lookup ⟨labels, instant⟩ = none ↔
      ∀ written, written ≤ instant → h labels written = none := by
  rw [Store.lookup_eq_getLast?, List.getLast?_eq_none_iff, List.filter_eq_nil_iff]
  constructor
  · intro hnone written hw
    by_contra hsome
    obtain ⟨value, hvalue⟩ := Option.ne_none_iff_exists'.1 hsome
    exact hnone ⟨written, value⟩ ((hr labels _).2 hvalue) (by simpa using hw)
  · intro hnone p hp hle
    have hvalue := (hr labels p).1 hp
    rw [hnone p.timestamp (by simpa using hle)] at hvalue
    cases hvalue

/-- The series of a store are those with an entry. -/
theorem mem_keys_iff (hr : Refines store h) {labels : LabelSet} :
    labels ∈ store.tracks.map Prod.fst ↔ ∃ written, h labels written ≠ none := by
  rw [Store.mem_keys_iff]
  constructor
  · intro hne
    obtain ⟨p, hp⟩ := List.exists_mem_of_ne_nil _ hne
    exact ⟨p.timestamp, by simp [(hr labels p).1 hp]⟩
  · rintro ⟨written, hsome⟩
    obtain ⟨value, hvalue⟩ := Option.ne_none_iff_exists'.1 hsome
    have hmem : (⟨written, value⟩ : Point) ∈ store.pointsOf labels := (hr labels _).2 hvalue
    exact List.ne_nil_of_mem hmem

/-- The number of series is the number of label sets with an entry. -/
theorem seriesCount_eq_encard (hr : Refines store h) :
    (store.seriesCount : ℕ∞) = {labels | ∃ written, h labels written ≠ none}.encard := by
  have hset : {labels | ∃ written, h labels written ≠ none} =
      ((store.tracks.map Prod.fst).toFinset : Set LabelSet) := by
    ext labels
    simp only [Set.mem_ofPred_eq, List.coe_toFinset]
    exact hr.mem_keys_iff.symm
  rw [hset, Set.encard_coe_eq_coe_finsetCard, List.toFinset_card_of_nodup store.distinct,
    List.length_map, Store.seriesCount]

end Refines

/-- After any commands, a lookup is the last entry of the history not behind its instant, or nothing
if there is none, and there are as many series as label sets with an entry. -/
theorem Store.run_refines_history (commands : List Store.Command) :
    (∀ labels instant p, (Store.run commands).lookup ⟨labels, instant⟩ = some p ↔
      (History.run commands).IsLast labels instant p) ∧
    (∀ labels instant, (Store.run commands).lookup ⟨labels, instant⟩ = none ↔
      ∀ written, written ≤ instant → History.run commands labels written = none) ∧
    ((Store.run commands).seriesCount : ℕ∞) =
      {labels | ∃ written, History.run commands labels written ≠ none}.encard := by
  have hr := Refines.run commands
  exact ⟨fun _ _ _ => hr.lookup_eq_some_iff, fun _ _ => hr.lookup_eq_none_iff,
    hr.seriesCount_eq_encard⟩

end MetricAlgebra
