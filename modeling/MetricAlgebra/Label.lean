import MetricAlgebra.Search
import MetricAlgebra.Text.Quoted

/-!
# Labels and label sets

A series is identified by a set of named values. A set is kept in rising order of names, each name
at most once, so that two sets with the same values at the same names are the same set. The main
statements say which labels a list of labels in any order and with repeated names leaves
(`mem_keepLast_sortByName`), and that the sets that are made and edited keep their order.
-/

namespace MetricAlgebra

/-- A named value. -/
structure Label where
  /-- The name. -/
  name : String
  /-- The value. -/
  value : String
  deriving DecidableEq, Repr

namespace Label

/-- Whether one name comes before another, or is the same. -/
def nameLE (a b : Label) : Bool := (compare a.name b.name).isLE

/-- The labels in order of names; labels of one name stay in their order. -/
def sortByName (labels : List Label) : List Label := labels.mergeSort nameLE

/-- Of neighbours with one name, the last alone. -/
def keepLast : List Label → List Label
  | [] => []
  | [l] => [l]
  | l :: next :: rest =>
    if l.name = next.name then keepLast (next :: rest) else l :: keepLast (next :: rest)

/-- Names do not fall. -/
def Ascending (labels : List Label) : Prop := labels.Pairwise fun a b => nameLE a b = true

/-- The order of names is transitive. -/
theorem nameLE_trans (a b c : Label) (hab : nameLE a b = true) (hbc : nameLE b c = true) :
    nameLE a c = true :=
  Std.TransCmp.isLE_trans hab hbc

/-- Of two names, one comes before the other or they are the same. -/
theorem nameLE_total (a b : Label) : (nameLE a b || nameLE b a) = true := by
  unfold nameLE
  rw [Std.OrientedOrd.eq_swap (a := b.name)]
  cases compare a.name b.name <;> rfl

/-- Sorting puts the labels in order of names. -/
theorem ascending_sortByName (labels : List Label) : Ascending (sortByName labels) :=
  List.pairwise_mergeSort nameLE_trans nameLE_total labels

/-- The labels of one name are as before sorting, and in the same order. -/
theorem filter_sortByName (labels : List Label) (name : String) :
    (sortByName labels).filter (·.name = name) = labels.filter (·.name = name) := by
  refine Search.filter_mergeSort nameLE_trans nameLE_total (fun a b ha hb => ?_) labels
  have hname : a.name = b.name := (of_decide_eq_true ha).trans (of_decide_eq_true hb).symm
  rw [nameLE, hname]
  exact Std.ReflCmp.isLE_rfl

/-- Keeping the last of neighbours adds no label. -/
theorem keepLast_sublist (labels : List Label) : (keepLast labels).Sublist labels := by
  fun_induction keepLast labels with
  | case1 => exact List.Sublist.refl _
  | case2 l => exact List.Sublist.refl _
  | case3 l next rest heq ih => exact ih.cons l
  | case4 l next rest hne ih => exact ih.cons_cons l

/-- In ascending labels, a name that the next label does not have comes nowhere behind. -/
theorem Ascending.lt_of_ne {l next : Label} {rest : List Label}
    (h : Ascending (l :: next :: rest)) (hne : l.name ≠ next.name) :
    ∀ m ∈ next :: rest, compare l.name m.name = .lt := by
  obtain ⟨hfirst, hrest⟩ := List.pairwise_cons.1 h
  have hlt : compare l.name next.name = .lt := by
    have hle := hfirst next (List.mem_cons_self ..)
    cases hc : compare l.name next.name with
    | lt => rfl
    | eq => exact absurd (Std.LawfulEqOrd.eq_of_compare hc) hne
    | gt => simp [nameLE, hc] at hle
  intro m hm
  rcases List.mem_cons.1 hm with rfl | hm
  · exact hlt
  · exact Std.TransCmp.lt_of_lt_of_isLE hlt ((List.pairwise_cons.1 hrest).1 m hm)

/-- Of labels in ascending order, the last of each name have rising names. -/
theorem rising_keepLast {labels : List Label} (h : Ascending labels) :
    Search.Rising Label.name (keepLast labels) := by
  fun_induction keepLast labels with
  | case1 => exact .nil
  | case2 l => exact List.pairwise_singleton ..
  | case3 l next rest heq ih => exact ih (List.pairwise_cons.1 h).2
  | case4 l next rest hne ih =>
    refine List.pairwise_cons.2 ⟨fun m hm => ?_, ih (List.pairwise_cons.1 h).2⟩
    exact h.lt_of_ne hne m ((keepLast_sublist _).subset hm)

/-- Of labels in ascending order, exactly the last of each name are kept. -/
theorem mem_keepLast_iff {labels : List Label} (h : Ascending labels) {m : Label} :
    m ∈ keepLast labels ↔ (labels.filter (·.name = m.name)).getLast? = some m := by
  fun_induction keepLast labels with
  | case1 => simp
  | case2 l =>
    by_cases hl : l.name = m.name
    · simp [hl, eq_comm]
    · simp only [List.mem_singleton, List.filter_cons, hl, decide_false, Bool.false_eq_true,
        if_false, List.filter_nil, List.getLast?_nil, reduceCtorEq, iff_false]
      rintro rfl
      exact hl rfl
  | case3 l next rest heq ih =>
    rw [ih (List.pairwise_cons.1 h).2]
    by_cases hl : l.name = m.name
    · have hnext : next.name = m.name := heq ▸ hl
      simp [hl, hnext]
    · simp [hl]
  | case4 l next rest hne ih =>
    rw [List.mem_cons, ih (List.pairwise_cons.1 h).2]
    by_cases hl : l.name = m.name
    · -- No label behind `l` has its name, so that `l` is the last.
      have hnone : (next :: rest).filter (·.name = m.name) = [] := by
        rw [List.filter_eq_nil_iff]
        intro k hk hname
        have hlt := h.lt_of_ne hne k hk
        rw [hl, ← of_decide_eq_true hname, Std.compare_self] at hlt
        cases hlt
      rw [hnone, List.filter_cons_of_pos (by simpa using hl), hnone]
      simp [eq_comm]
    · have : m ≠ l := fun heq => hl (by rw [heq])
      simp [hl, this]

/-- Of labels in any order, exactly the last of each name are left. -/
theorem mem_keepLast_sortByName {labels : List Label} {m : Label} :
    m ∈ keepLast (sortByName labels) ↔
      (labels.filter (·.name = m.name)).getLast? = some m := by
  rw [mem_keepLast_iff (ascending_sortByName labels), filter_sortByName]

end Label

/-! ## Maps of labels -/

/-- Names with values, each name once. The entries stand in no order that counts. -/
structure LabelMap where
  /-- The names with their values. -/
  entries : List (String × String)
  /-- No name has two values. -/
  distinct : (entries.map Prod.fst).Nodup

namespace LabelMap

/-- The map of no names. -/
def empty : LabelMap := ⟨[], .nil⟩

/-- Puts a value at a name among entries, in place of the value that was there. -/
def putEntry (name value : String) : List (String × String) → List (String × String)
  | [] => [(name, value)]
  | entry :: rest =>
    if entry.1 = name then (name, value) :: rest else entry :: putEntry name value rest

/-- The names after putting in a value: as before, with a new name at the end. -/
theorem map_fst_putEntry (name value : String) (entries : List (String × String)) :
    (putEntry name value entries).map Prod.fst =
      if name ∈ entries.map Prod.fst then entries.map Prod.fst
      else entries.map Prod.fst ++ [name] := by
  induction entries with
  | nil => simp [putEntry]
  | cons entry rest ih =>
    simp only [putEntry]
    split
    · rename_i heq
      simp [heq]
    · rename_i hne
      simp only [List.map_cons, ih, List.mem_cons, Ne.symm hne, false_or]
      split <;> simp

/-- Putting in a value keeps the names apart. -/
theorem nodup_putEntry (name value : String) {entries : List (String × String)}
    (h : (entries.map Prod.fst).Nodup) :
    ((putEntry name value entries).map Prod.fst).Nodup := by
  rw [map_fst_putEntry]
  split
  · exact h
  · rename_i hnew
    exact List.nodup_append.2 ⟨h, by simp, fun a ha b hb hab => hnew (by simp_all)⟩

/-- The map with a value put at a name, in place of the value that was there. -/
def insert (m : LabelMap) (name value : String) : LabelMap :=
  ⟨putEntry name value m.entries, nodup_putEntry name value m.distinct⟩

/-- The map of a list of pairs, put in one after the other. -/
def ofPairs (pairs : List (String × String)) : LabelMap :=
  pairs.foldl (fun m pair => m.insert pair.1 pair.2) empty

end LabelMap

/-! ## Sets of labels -/

/-- A finite set of labels, no two of one name. -/
structure LabelSet where
  /-- The labels in order of names. -/
  labels : List Label
  /-- Names rise strictly, so that none occurs twice. -/
  rising : Search.Rising Label.name labels
  deriving DecidableEq

namespace LabelSet

/-- A set is determined by its labels. -/
@[ext] theorem ext {a b : LabelSet} (h : a.labels = b.labels) : a = b := by
  cases a; cases b; simpa using h

/-- The set of no labels. -/
def empty : LabelSet := ⟨[], .nil⟩

instance : Inhabited LabelSet := ⟨empty⟩

/-- The set of a list of labels; of two labels with one name the later one stands. -/
def ofList (labels : List Label) : LabelSet :=
  ⟨Label.keepLast (Label.sortByName labels),
    Label.rising_keepLast (Label.ascending_sortByName labels)⟩

/-- The set of a list of pairs; of two pairs with one name the later one stands. -/
def ofPairs (pairs : List (String × String)) : LabelSet :=
  ofList (pairs.map fun pair => ⟨pair.1, pair.2⟩)

/-- The set of the names and values of a map. -/
def ofMap (m : LabelMap) : LabelSet := ofPairs m.entries

/-- Whether the set has no labels. -/
def isEmpty (s : LabelSet) : Bool := s.labels.isEmpty

/-- The number of labels. -/
def size (s : LabelSet) : Nat := s.labels.length

/-- The value at a name. -/
def get? (s : LabelSet) (name : String) : Option String :=
  (Search.at? Label.name name s.labels).map (·.value)

/-- Whether the set has a label of the name. -/
def contains (s : LabelSet) (name : String) : Bool :=
  (Search.at? Label.name name s.labels).isSome

/-- The value at a name, and the empty text where there is none. -/
def getD (s : LabelSet) (name : String) : String := (s.get? name).getD ""

/-- The set with a value put at a name, in place of the value that was there. -/
def insert (s : LabelSet) (name value : String) : LabelSet :=
  ⟨Search.put Label.name ⟨name, value⟩ s.labels, Search.rising_put s.rising _⟩

/-- The set without the label of a name. -/
def erase (s : LabelSet) (name : String) : LabelSet :=
  ⟨s.labels.filter fun l => l.name != name, s.rising.sublist List.filter_sublist⟩

/-- The labels of the given names alone; a name that the set lacks gets the empty value. -/
def project (s : LabelSet) (names : List String) : LabelSet :=
  ofPairs (names.map fun name => (name, s.getD name))

/-- The names and values, in order of names. -/
def toPairs (s : LabelSet) : List (String × String) :=
  s.labels.map fun l => (l.name, l.value)

/-- The names of a set are distinct. -/
theorem nodup_names (s : LabelSet) : (s.toPairs.map Prod.fst).Nodup := by
  rw [toPairs, List.map_map, List.Nodup, List.pairwise_map]
  exact s.rising.imp fun hlt heq => by simp_all

/-- The names and values as a map. -/
def toMap (s : LabelSet) : LabelMap := ⟨s.toPairs, s.nodup_names⟩

/-- Compares label by label, first names and then values; a set that ends first is the lesser. -/
def compareLabels : List Label → List Label → Ordering
  | [], [] => .eq
  | [], _ :: _ => .lt
  | _ :: _, [] => .gt
  | a :: as, b :: bs =>
    (compare a.name b.name).then ((compare a.value b.value).then (compareLabels as bs))

instance : Ord LabelSet := ⟨fun a b => compareLabels a.labels b.labels⟩

/-- A label as `name="value"`. -/
def labelText (l : Label) : String := l.name ++ "=" ++ Text.quoted l.value

/-- The set in braces, labels separated by commas. -/
def toText (s : LabelSet) : String :=
  "\x7b" ++ String.intercalate ", " (s.labels.map labelText) ++ "\x7d"

end LabelSet

end MetricAlgebra
