import Mathlib
import MetricAlgebra.Form.Sample

/-!
# Label sets are finite maps

Names are looked up, put in and taken out of label sets by searches that rely on the order of names.
`LabelSet.get?_eq_some_iff` says that a lookup sees exactly the labels of a set. From it follow the
value at a name after each construction and edit, that a set is determined by its values
(`LabelSet.ext_get?`), and that a set does not depend on the order in which a map gives its entries
(`LabelSet.ofMap_eq_of_perm`).
-/

namespace MetricAlgebra

namespace LabelSet

/-! ## Values at names -/

/-- A set has a value at a name exactly if it has the label of the two. -/
theorem get?_eq_some_iff {s : LabelSet} {name value : String} :
    s.get? name = some value ↔ ⟨name, value⟩ ∈ s.labels := by
  unfold get?
  rw [Option.map_eq_some_iff]
  constructor
  · rintro ⟨l, hl, rfl⟩
    obtain ⟨hmem, rfl⟩ := (Search.at?_eq_some_iff s.rising).1 hl
    exact hmem
  · intro hmem
    exact ⟨⟨name, value⟩, (Search.at?_eq_some_iff s.rising).2 ⟨hmem, rfl⟩, rfl⟩

/-- A set is determined by its values. -/
theorem ext_get? {s t : LabelSet} (h : ∀ name, s.get? name = t.get? name) : s = t := by
  -- Both are in order, so that only the labels count, and a label is a value at its name.
  refine LabelSet.ext (s.rising.eq_of_mem_iff t.rising fun l => ?_)
  have hs : s.get? l.name = some l.value ↔ l ∈ s.labels := get?_eq_some_iff
  have ht : t.get? l.name = some l.value ↔ l ∈ t.labels := get?_eq_some_iff
  rw [← hs, ← ht, h]

/-- Rising names are names in strictly ascending order of texts. -/
theorem pairwise_lt_of_rising {labels : List Label} (h : Search.Rising Label.name labels) :
    labels.Pairwise fun a b => a.name < b.name :=
  h.imp fun hlt => compareOfLessAndEq_eq_lt.1 hlt

/-! ## Sets of lists and maps -/

/-- The value at a name is that of the last label of the name. -/
theorem get?_ofList (labels : List Label) (name : String) :
    (ofList labels).get? name = (labels.filter (·.name = name)).getLast?.map (·.value) := by
  refine Option.ext fun value => ?_
  rw [get?_eq_some_iff, Option.map_eq_some_iff]
  constructor
  · intro hmem
    exact ⟨⟨name, value⟩, Label.mem_keepLast_sortByName.1 hmem, rfl⟩
  · rintro ⟨l, hl, rfl⟩
    have hname : l.name = name := by
      simpa using (List.mem_filter.1 (List.mem_of_getLast? hl)).2
    subst hname
    exact Label.mem_keepLast_sortByName.2 hl

/-- The value at a name is that of the last pair of the name. -/
theorem get?_ofPairs (pairs : List (String × String)) (name : String) :
    (ofPairs pairs).get? name = (pairs.filter (·.1 = name)).getLast?.map Prod.snd := by
  unfold ofPairs
  rw [get?_ofList, List.filter_map, List.getLast?_map, Option.map_map]
  rfl

/-- A name of a pair has a last pair. -/
theorem exists_getLast?_filter {pairs : List (String × String)} {pair : String × String}
    (h : pair ∈ pairs) : ∃ last, (pairs.filter (·.1 = pair.1)).getLast? = some last ∧
      last ∈ pairs ∧ last.1 = pair.1 := by
  have hfilter : pair ∈ pairs.filter (·.1 = pair.1) := by
    rw [List.mem_filter]
    exact ⟨h, by simp⟩
  obtain ⟨last, hlast⟩ := Option.isSome_iff_exists.1 (List.getLast?_isSome.2
    (List.ne_nil_of_mem hfilter))
  obtain ⟨hmem, hname⟩ := List.mem_filter.1 (List.mem_of_getLast? hlast)
  exact ⟨last, hlast, hmem, of_decide_eq_true hname⟩

/-- The value at a name is that of the only pair of the name, if names are distinct. -/
theorem get?_ofPairs_eq_some_iff {pairs : List (String × String)}
    (h : (pairs.map Prod.fst).Nodup) {name value : String} :
    (ofPairs pairs).get? name = some value ↔ (name, value) ∈ pairs := by
  rw [get?_ofPairs, Option.map_eq_some_iff]
  constructor
  · rintro ⟨pair, hlast, rfl⟩
    obtain ⟨hmem, hname⟩ := List.mem_filter.1 (List.mem_of_getLast? hlast)
    rw [← of_decide_eq_true hname]
    exact hmem
  · intro hmem
    obtain ⟨last, hlast, hmem', hname⟩ := exists_getLast?_filter hmem
    exact ⟨last, hlast, by rw [List.inj_on_of_nodup_map h hmem' hmem hname]⟩

/-- A set made of a map has the values of the map. -/
theorem get?_ofMap {m : LabelMap} {name value : String} :
    (ofMap m).get? name = some value ↔ (name, value) ∈ m.entries :=
  get?_ofPairs_eq_some_iff m.distinct

/-- The map of a set has the values of the set. -/
theorem mem_entries_toMap {s : LabelSet} {name value : String} :
    (name, value) ∈ s.toMap.entries ↔ s.get? name = some value := by
  rw [get?_eq_some_iff]
  simp only [toMap, toPairs, List.mem_map, Prod.mk.injEq]
  constructor
  · rintro ⟨l, hl, rfl, rfl⟩
    exact hl
  · intro hl
    exact ⟨_, hl, rfl, rfl⟩

/-- A set is made of its map again, whatever the order of the entries. -/
theorem ofMap_eq_of_perm {s : LabelSet} {m : LabelMap} (h : m.entries.Perm s.toMap.entries) :
    ofMap m = s := by
  refine ext_get? fun name => Option.ext fun value => ?_
  rw [get?_ofMap, h.mem_iff, mem_entries_toMap]

/-! ## Edits -/

/-- After a value is put at a name, that name alone has changed. -/
theorem get?_insert (s : LabelSet) (name value other : String) :
    (s.insert name value).get? other = if other = name then some value else s.get? other := by
  refine Option.ext fun v => ?_
  rw [get?_eq_some_iff, insert, Search.mem_put s.rising]
  by_cases h : other = name
  · subst h
    simp [eq_comm]
  · simp [h, get?_eq_some_iff]

/-- After the label of a name is dropped, that name alone has no value any more. -/
theorem get?_erase (s : LabelSet) (name other : String) :
    (s.erase name).get? other = if other = name then none else s.get? other := by
  refine Option.ext fun v => ?_
  rw [get?_eq_some_iff, erase, List.mem_filter]
  by_cases h : other = name
  · simp [h]
  · simp [h, get?_eq_some_iff]

/-- A projection has the given names, with the empty value where there was none. -/
theorem get?_project (s : LabelSet) (names : List String) (name : String) :
    (s.project names).get? name =
      if name ∈ names then some ((s.get? name).getD "") else none := by
  unfold project
  rw [get?_ofPairs]
  by_cases h : name ∈ names
  · obtain ⟨last, hlast, hmem, hname⟩ := exists_getLast?_filter
      (List.mem_map.2 ⟨name, h, rfl⟩ : (name, s.getD name) ∈ names.map fun n => (n, s.getD n))
    obtain ⟨n, -, rfl⟩ := List.mem_map.1 hmem
    -- All pairs of the name have the same value, also the last.
    have hn : n = name := hname
    rw [if_pos h, hlast, hn]
    rfl
  · have hnone : (names.map fun n => (n, s.getD n)).filter (·.1 = name) = [] := by
      rw [List.filter_eq_nil_iff]
      intro pair hmem hname
      obtain ⟨n, hn, rfl⟩ := List.mem_map.1 hmem
      have : n = name := of_decide_eq_true hname
      exact h (this ▸ hn)
    rw [if_neg h, hnone]
    rfl

/-- There is nothing in a projection to no names. -/
theorem project_nil (s : LabelSet) : s.project [] = empty := by
  refine ext_get? fun name => ?_
  rw [get?_project, if_neg (List.not_mem_nil (a := name))]
  rfl

/-! ## Reading -/

/-- What is read from JSON is the set of a map. -/
theorem exists_ofMap_of_ofJson? {j : Json} {s : LabelSet} (h : ofJson? j = some s) :
    ∃ m, s = ofMap m := by
  simp only [ofJson?, bind, Option.bind_eq_some_iff] at h
  obtain ⟨fields, -, pairs, -, hs⟩ := h
  exact ⟨_, (Option.some.inj hs).symm⟩

/-- The sets that come out of constructions, readings and edits, one after the other. -/
inductive Obtained : LabelSet → Prop where
  /-- The empty set. -/
  | empty : Obtained .empty
  /-- A set of labels. -/
  | ofList (labels : List Label) : Obtained (.ofList labels)
  /-- A set of pairs. -/
  | ofPairs (pairs : List (String × String)) : Obtained (.ofPairs pairs)
  /-- A set of a map. -/
  | ofMap (m : LabelMap) : Obtained (.ofMap m)
  /-- A set that is read from JSON. -/
  | ofJson {j : Json} {s : LabelSet} (h : LabelSet.ofJson? j = some s) : Obtained s
  /-- A projection. -/
  | project {s : LabelSet} (h : Obtained s) (names : List String) : Obtained (s.project names)
  /-- A set without a name. -/
  | erase {s : LabelSet} (h : Obtained s) (name : String) : Obtained (s.erase name)
  /-- A set with a value put at a name. -/
  | insert {s : LabelSet} (h : Obtained s) (name value : String) : Obtained (s.insert name value)

/-- Lists of labels in any order, with repeated names, leave rising names. -/
theorem rising_ofList (labels : List Label) : Search.Rising Label.name (ofList labels).labels :=
  Label.rising_keepLast (Label.ascending_sortByName labels)

/-- Every construction leaves rising names, and every edit keeps them. -/
theorem Obtained.rising {s : LabelSet} (h : Obtained s) : Search.Rising Label.name s.labels := by
  induction h with
  | empty => exact .nil
  | ofList labels => exact rising_ofList labels
  | ofPairs pairs => exact rising_ofList _
  | ofMap m => exact rising_ofList _
  | ofJson h =>
    obtain ⟨m, rfl⟩ := exists_ofMap_of_ofJson? h
    exact rising_ofList _
  | project h names ih => exact rising_ofList _
  | erase h name ih => exact ih.sublist List.filter_sublist
  | insert h name value ih => exact Search.rising_put ih _

/-- Label sets are extensional finite maps: names rise strictly whatever was done to get a set; the
values after each construction and edit are those of a map; a set is determined by its values, and
does not depend on the order in which a map gives its entries. -/
theorem isFiniteMap :
    (∀ s, Obtained s → s.labels.Pairwise fun a b => a.name < b.name) ∧
    (∀ pairs m, (ofPairs pairs).get? m = (pairs.filter (·.1 = m)).getLast?.map Prod.snd) ∧
    (∀ s : LabelSet, ∀ n v m, (s.insert n v).get? m = if m = n then some v else s.get? m) ∧
    (∀ s : LabelSet, ∀ n m, (s.erase n).get? m = if m = n then none else s.get? m) ∧
    (∀ s : LabelSet, ∀ names m,
      (s.project names).get? m = if m ∈ names then some ((s.get? m).getD "") else none) ∧
    (∀ s t : LabelSet, s = t ↔ ∀ m, s.get? m = t.get? m) ∧
    ∀ s : LabelSet, ∀ map : LabelMap, map.entries.Perm s.toMap.entries → ofMap map = s :=
  ⟨fun _ h => pairwise_lt_of_rising h.rising, get?_ofPairs, get?_insert, get?_erase, get?_project,
    fun _ _ => ⟨fun h _ => by rw [h], ext_get?⟩, fun _ _ => ofMap_eq_of_perm⟩

/-- A set of pairs with a repeated name has the last of its values, stays in order after an edit,
and is made again of its entries in another order. -/
theorem isFiniteMap_repeated_name :
    let s := ofPairs [("b", "2"), ("a", "1"), ("b", "3")]
    (s.erase "a").labels.Pairwise (fun a b => a.name < b.name) ∧ s.get? "b" = some "3" ∧
      ofMap ⟨[("b", "3"), ("a", "1")], by decide⟩ = s := by
  intro s
  obtain ⟨hrising, hpairs, -, -, -, -, hmap⟩ := isFiniteMap
  have hentries : s.toMap.entries = [("a", "1"), ("b", "3")] := by cbv
  refine ⟨hrising _ (.erase (.ofPairs _) _), (hpairs _ _).trans (by decide), hmap s _ ?_⟩
  rw [hentries]
  exact List.Perm.swap _ _ _

end LabelSet

end MetricAlgebra
