import MetricAlgebra.Lookback
import MetricAlgebra.Family

/-!
# A store of past values

Every recorded point by series, in memory. The points of a series are kept in rising order of
instants, at most one at each, and a series without points is not kept.
-/

namespace MetricAlgebra

/-- The recorded points of one series: at least one, in strictly rising order of instants. -/
structure Track where
  /-- The points. -/
  points : List Point
  /-- Instants rise strictly, so that none occurs twice. -/
  rising : Search.Rising Point.timestamp points
  /-- There is a point. -/
  nonempty : points ≠ []

namespace Track

/-- The track of a single point. -/
def single (p : Point) : Track := ⟨[p], List.pairwise_singleton .., by simp⟩

/-- The track with a point recorded, in place of one at the same instant. -/
def record (t : Track) (p : Point) : Track :=
  ⟨Search.put Point.timestamp p t.points, Search.rising_put t.rising p,
    List.ne_nil_of_mem ((Search.mem_put t.rising).2 (.inl rfl))⟩

/-- The track without the points before an instant, if any are left. -/
def evictBefore? (t : Track) (instant : Timestamp) : Option Track :=
  let left := t.points.drop (Search.cut (fun p => p.timestamp < instant) t.points)
  if h : left ≠ [] then some ⟨left, t.rising.sublist (List.drop_sublist ..), h⟩ else none

/-- The last point at or before an instant. -/
def at? (t : Track) (instant : Timestamp) : Option Point :=
  match Search.cut (fun p => p.timestamp ≤ instant) t.points with
  | 0 => none
  | i + 1 => t.points[i]?

end Track

/-- Puts a point into the track of a series, which is new if it has none. -/
def Track.recordInto (labels : LabelSet) (p : Point) :
    List (LabelSet × Track) → List (LabelSet × Track)
  | [] => [(labels, Track.single p)]
  | (series, track) :: rest =>
    if series = labels then (series, track.record p) :: rest
    else (series, track) :: recordInto labels p rest

/-- Recording adds no other series than the recorded one. -/
theorem Track.mem_keys_recordInto {labels series : LabelSet} {p : Point}
    {tracks : List (LabelSet × Track)}
    (h : series ∈ (Track.recordInto labels p tracks).map Prod.fst) :
    series = labels ∨ series ∈ tracks.map Prod.fst := by
  induction tracks with
  | nil => simpa [recordInto] using h
  | cons head rest ih =>
    obtain ⟨key, track⟩ := head
    simp only [recordInto] at h
    split at h
    · exact .inr (by simpa using h)
    · rcases List.mem_cons.1 h with rfl | h
      · simp
      · rcases ih h with h | h
        · exact .inl h
        · exact .inr (List.mem_cons_of_mem _ h)

/-- Recording keeps the series apart. -/
theorem Track.nodup_keys_recordInto (labels : LabelSet) (p : Point)
    {tracks : List (LabelSet × Track)} (h : (tracks.map Prod.fst).Nodup) :
    ((Track.recordInto labels p tracks).map Prod.fst).Nodup := by
  induction tracks with
  | nil => simp [recordInto]
  | cons head rest ih =>
    obtain ⟨key, track⟩ := head
    obtain ⟨hkey, hrest⟩ := List.nodup_cons.1 h
    simp only [recordInto]
    split
    · exact h
    · rename_i hne
      refine List.nodup_cons.2 ⟨fun hmem => ?_, ih hrest⟩
      rcases mem_keys_recordInto hmem with h | h
      · exact hne h
      · exact hkey h

/-- A store of past values: a track per series, in no order that counts. -/
structure Store where
  /-- The tracks with the labels of their series. -/
  tracks : List (LabelSet × Track)
  /-- No two tracks are of one series. -/
  distinct : (tracks.map Prod.fst).Nodup

namespace Store

/-- The store of nothing. -/
def empty : Store := ⟨[], .nil⟩

instance : Inhabited Store := ⟨empty⟩

/-- Records the value of a series at an instant, in place of one recorded there before. -/
def record (store : Store) (labels : LabelSet) (timestamp : Timestamp) (value : Float) : Store :=
  ⟨Track.recordInto labels ⟨timestamp, value⟩ store.tracks,
    Track.nodup_keys_recordInto _ _ store.distinct⟩

/-- Records every sample of a family, in order. -/
def recordFamily (store : Store) (f : Family) : Store :=
  f.samples.foldl (fun store s => store.record s.labels s.timestamp s.value) store

/-- The tracks without the points before an instant; a track left without points goes. -/
def evictFrom (instant : Timestamp) (tracks : List (LabelSet × Track)) :
    List (LabelSet × Track) :=
  tracks.filterMap fun entry => (entry.2.evictBefore? instant).map fun left => (entry.1, left)

/-- Eviction leaves some of the series, in order. -/
theorem keys_evictFrom_sublist (instant : Timestamp) (tracks : List (LabelSet × Track)) :
    ((evictFrom instant tracks).map Prod.fst).Sublist (tracks.map Prod.fst) := by
  induction tracks with
  | nil => simp [evictFrom]
  | cons head rest ih =>
    unfold evictFrom at ih ⊢
    rw [List.filterMap_cons]
    cases head.2.evictBefore? instant with
    | none => exact ih.cons _
    | some left => exact ih.cons_cons _

/-- Drops all points before an instant, and the series that have no others. -/
def evictBefore (store : Store) (instant : Timestamp) : Store :=
  ⟨evictFrom instant store.tracks,
    (keys_evictFrom_sublist instant store.tracks).nodup store.distinct⟩

/-- The number of series. -/
def seriesCount (store : Store) : Nat := store.tracks.length

/-- The value of a series at an instant, or the last one before it. -/
def lookup (store : Store) (q : Query) : Option Point :=
  (store.tracks.lookup q.labels).bind fun track => track.at? q.timestamp

/-- The store as a resolver, which never fails. -/
def resolver (store : Store) {m : Type → Type} [Monad m] : Resolver m :=
  fun queries => pure (queries.map store.lookup)

/-- The store as a source, which answers a batch in its own way. -/
def source (store : Store) {m : Type → Type} [Monad m] : Source m :=
  ⟨fun q => pure (store.lookup q), store.resolver⟩

end Store

end MetricAlgebra
