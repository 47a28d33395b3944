import Mathlib.Data.List.Basic
import MetricAlgebra.LruMap

/-!
# What a map that forgets promises

A map that forgets is seen through what it remembers: its entries with the one used last in front.
`LruMap.Spec` is what its documentation promises of them, one operation at a time: a request that
finds an entry and every insertion are uses, and an insertion drops the entry that has not been used
for the longest time if there is no room left. From this each operation is one on a list
(`LruMap.Spec.view_insert`). Lists themselves make such a map (`LruMap.ofLists_spec`).
-/

namespace MetricAlgebra

namespace RecentEntries

variable {α : Type} {r : RecentEntries α} {key : String} {a : α}

/-! ## Entries in a list -/

/-- The keys of the entries, the one used last first. -/
def keys (r : RecentEntries α) : List String := r.entries.map Prod.fst

/-- At most `n` keys with one in front, and not elsewhere. -/
def touch (n : Nat) (key : String) (keys : List String) : List String :=
  (key :: keys.filter (· != key)).take n

/-- To put an entry in touches its key. -/
theorem keys_put (r : RecentEntries α) (key : String) (a : α) :
    (r.put key a).keys = touch r.capacity key r.keys := by
  show ((moveToFront key a r.entries).take r.capacity).map Prod.fst = _
  rw [List.map_take, moveToFront, List.map_cons, touch, keys, List.filter_map]
  rfl

/-- There are no more keys than there is room for. -/
theorem length_keys_le (r : RecentEntries α) : r.keys.length ≤ r.capacity := by
  rw [keys, List.length_map]
  exact r.length_le

/-- What is found is an entry of the key. -/
theorem mem_of_find? (h : r.find? key = some a) : (key, a) ∈ r.entries := by
  obtain ⟨before, after, heq, -⟩ := List.lookup_eq_some_iff.1 h
  rw [heq]
  simp

/-- The key of an entry that is found is there. -/
theorem mem_keys_of_find? (h : r.find? key = some a) : key ∈ r.keys :=
  List.mem_map_of_mem (mem_of_find? h)

/-- No entry is found exactly if the key is not there. -/
theorem find?_eq_none_iff : r.find? key = none ↔ key ∉ r.keys := by
  unfold find? keys
  rw [List.lookup_eq_none_iff]
  constructor
  · intro hother hmem
    obtain ⟨entry, hentry, rfl⟩ := List.mem_map.1 hmem
    simpa using hother entry hentry
  · intro hkey entry hentry
    rw [bne_iff_ne]
    rintro rfl
    exact hkey (List.mem_map_of_mem hentry)

/-- Touching a key drops no other than the last one. -/
theorem getLast?_of_dropped {n : Nat} {keys : List String} (hn : keys.length ≤ n) {dropped : String}
    (hmem : dropped ∈ keys) (hdropped : dropped ∉ touch n key keys) :
    keys.getLast? = some dropped := by
  obtain ⟨before, last, rfl⟩ : ∃ before last, keys = before ++ [last] :=
    ⟨_, _, (List.dropLast_concat_getLast (List.ne_nil_of_mem hmem)).symm⟩
  rw [List.getLast?_concat, Option.some.injEq]
  by_contra hne
  have hbefore : dropped ∈ before := by
    rcases List.mem_append.1 hmem with h | h
    · exact h
    · exact absurd (List.mem_singleton.1 h).symm hne
  -- All keys before the last one have a place behind the touched key.
  have hkept : (key :: before.filter (· != key)).length ≤ n := by
    have hfilter := List.length_filter_le (· != key) before
    rw [List.length_append, List.length_singleton] at hn
    rw [List.length_cons]
    omega
  refine hdropped ?_
  rw [touch, List.filter_append, ← List.cons_append, List.take_append, List.take_of_length_le hkept]
  refine List.mem_append_left _ ?_
  by_cases hkey : dropped = key
  · rw [hkey]
    exact List.mem_cons_self
  · exact List.mem_cons_of_mem _ (List.mem_filter.2 ⟨hbefore, bne_iff_ne.2 hkey⟩)

/-- Entries with no entry of a key are left by the dropping of that key. -/
theorem filter_ne_of_not_mem {entries : List (String × α)} (h : key ∉ entries.map Prod.fst) :
    (entries.filter fun entry => entry.1 != key) = entries := by
  refine List.filter_eq_self.2 fun entry hentry => ?_
  rw [bne_iff_ne]
  rintro rfl
  exact h (List.mem_map_of_mem hentry)

/-- Where the key is there or a place is left, an entry is put in and none is dropped. -/
theorem entries_put_of_fits (h : key ∈ r.keys ∨ r.entries.length < r.capacity) (a : α) :
    (r.put key a).entries = moveToFront key a r.entries := by
  refine List.take_of_length_le ?_
  rw [moveToFront, List.length_cons]
  rcases h with hmem | hroom
  · -- The entry of the key makes the place.
    obtain ⟨entry, hentry, rfl⟩ := List.mem_map.1 hmem
    have hless : (r.entries.filter fun other => other.1 != entry.1).length < r.entries.length :=
      List.length_filter_lt_length_iff_exists.2 ⟨entry, hentry, by simp⟩
    exact Nat.le_trans hless r.length_le
  · exact Nat.succ_le_of_lt (Nat.lt_of_le_of_lt (List.length_filter_le _ _) hroom)

/-- Where no place is left for a new key, the last entry is dropped. -/
theorem entries_put_of_full (h : key ∉ r.keys) (hfull : r.entries.length = r.capacity)
    (hpos : 0 < r.capacity) (a : α) :
    (r.put key a).entries = moveToFront key a r.entries.dropLast := by
  have hdropLast : key ∉ r.entries.dropLast.map Prod.fst := fun hmem =>
    h ((r.entries.dropLast_sublist.map Prod.fst).subset hmem)
  show (moveToFront key a r.entries).take r.capacity = _
  obtain ⟨n, hn⟩ : ∃ n, r.capacity = n + 1 := Nat.exists_eq_succ_of_ne_zero (Nat.ne_of_gt hpos)
  rw [moveToFront, moveToFront, filter_ne_of_not_mem h, filter_ne_of_not_mem hdropLast, hn,
    List.take_succ_cons, List.dropLast_eq_take, hfull, hn]
  rfl

end RecentEntries

/-! ## Maps -/

open RecentEntries

/-- What a map that forgets promises, where `view` is what it remembers at some time. -/
structure LruMap.Spec {α : Type} (M : LruMap α) (view : M.State → RecentEntries α) : Prop where
  /-- A map has the room that it is made with, and remembers nothing. -/
  view_withCapacity : ∀ n, 0 < n → view (M.withCapacity n) = .empty n
  /-- The size is the number of entries. -/
  size_eq : ∀ s, M.size s = (view s).entries.length
  /-- The entry that is asked for is given, if it is there. -/
  get_fst : ∀ s key, (M.get s key).1 = (view s).find? key
  /-- A request leaves the room as it is. -/
  capacity_get : ∀ s key, (view (M.get s key).2).capacity = (view s).capacity
  /-- A request that finds an entry is a use of it. -/
  entries_get_hit : ∀ s key a, (view s).find? key = some a →
    (view (M.get s key).2).entries = moveToFront key a (view s).entries
  /-- A request that finds nothing changes nothing. -/
  entries_get_miss : ∀ s key, (view s).find? key = none →
    (view (M.get s key).2).entries = (view s).entries
  /-- An insertion leaves the room as it is. -/
  capacity_insert : ∀ s key a, (view (M.insert s key a)).capacity = (view s).capacity
  /-- An entry comes in place of the one of its key, or to the others while there is room, and is
  used. -/
  entries_insert_fits : ∀ s key a,
    key ∈ (view s).keys ∨ (view s).entries.length < (view s).capacity →
      (view (M.insert s key a)).entries = moveToFront key a (view s).entries
  /-- Where there is no room, the entry goes that has not been used for the longest time. -/
  entries_insert_full : ∀ s key a, 0 < (view s).capacity → key ∉ (view s).keys →
    (view s).entries.length = (view s).capacity →
      (view (M.insert s key a)).entries = moveToFront key a (view s).entries.dropLast
  /-- A map that is cleared has its room, and remembers nothing. -/
  view_clear : ∀ s, view (M.clear s) = .empty (view s).capacity

namespace LruMap

/-- Entries in a list are what they are put in front of. -/
theorem ofLists_spec (α : Type) : (ofLists α).Spec id where
  view_withCapacity _ _ := rfl
  size_eq _ := rfl
  get_fst r key := by
    show (r.get key).1 = r.find? key
    unfold RecentEntries.get
    cases r.find? key <;> rfl
  capacity_get r key := by
    show (r.get key).2.capacity = r.capacity
    unfold RecentEntries.get
    cases r.find? key <;> rfl
  entries_get_hit r key a h := by
    show (r.get key).2.entries = _
    unfold RecentEntries.get
    rw [show r.find? key = some a from h]
    exact entries_put_of_fits (.inl (mem_keys_of_find? h)) a
  entries_get_miss r key h := by
    show (r.get key).2.entries = _
    unfold RecentEntries.get
    rw [show r.find? key = none from h]
    rfl
  capacity_insert _ _ _ := rfl
  entries_insert_fits r key a h := entries_put_of_fits h a
  entries_insert_full r key a hpos h hfull := entries_put_of_full h hfull hpos a
  view_clear _ := rfl

namespace Spec

variable {α : Type} {M : LruMap α} {view : M.State → RecentEntries α} {key : String}

/-- A request that finds an entry puts it in front. -/
theorem view_get_hit (hM : M.Spec view) {s : M.State} {a : α} (h : (view s).find? key = some a) :
    view (M.get s key).2 = (view s).put key a := by
  refine RecentEntries.ext (hM.capacity_get s key) ?_
  rw [hM.entries_get_hit s key a h, entries_put_of_fits (.inl (mem_keys_of_find? h))]

/-- A request that finds nothing leaves all as it is. -/
theorem view_get_miss (hM : M.Spec view) {s : M.State} (h : (view s).find? key = none) :
    view (M.get s key).2 = view s :=
  RecentEntries.ext (hM.capacity_get s key) (hM.entries_get_miss s key h)

/-- An insertion puts an entry in front, and drops what there is no room for. -/
theorem view_insert (hM : M.Spec view) {s : M.State} (hpos : 0 < (view s).capacity) (key : String)
    (a : α) : view (M.insert s key a) = (view s).put key a := by
  refine RecentEntries.ext (hM.capacity_insert s key a) ?_
  -- On a list both cases are one: what has no place is cut off.
  by_cases hfits : key ∈ (view s).keys ∨ (view s).entries.length < (view s).capacity
  · rw [hM.entries_insert_fits s key a hfits, entries_put_of_fits hfits]
  · obtain ⟨hkey, hroom⟩ := not_or.1 hfits
    have hfull := Nat.le_antisymm (view s).length_le (Nat.le_of_not_lt hroom)
    rw [hM.entries_insert_full s key a hpos hkey hfull, entries_put_of_full hkey hfull hpos]

end Spec

end LruMap

end MetricAlgebra
