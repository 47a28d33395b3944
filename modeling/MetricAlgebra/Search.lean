/-!
# Searching ordered lists

The search of an ordered list by halves, and what is built on it: cutting a list where a test stops
to hold, and looking up, or putting in, an item of a list whose keys rise. The search looks at a few
places only, so that it says something about the whole list because the list is in order. The main
statements give the result of a search from the parts of the list below and above the target
(`find_eq_ok`, `find_eq_error`), and from it the items of a list after a `put` (`mem_put`), their
order (`rising_put`), and what lies before and behind a cut (`getElem?_cut`, `drop_cut`). Lists are
put in order by a stable sort, which leaves items that are equal to it as they stand
(`filter_mergeSort`).
-/

namespace MetricAlgebra.Search

variable {α : Type}

/-! ## The search by halves -/

/-- On which side of the target the item at a place lies; behind the end all is above it. -/
def side (order : α → Ordering) (items : List α) (i : Nat) : Ordering :=
  (items[i]?.map order).getD .gt

/-- Halves the `size` places from `base` on until one is left, and goes on with the second half
unless its first place is above the target. -/
def halve (place : Nat → Ordering) (base size : Nat) : Nat :=
  if 1 < size then
    let middle := base + size / 2
    halve place (if place middle = .gt then base else middle) (size - size / 2)
  else base
termination_by size

/-- The place of an item at the target, or else the place where one belongs. -/
def find (order : α → Ordering) (items : List α) : Except Nat Nat :=
  if items.isEmpty then .error 0
  else
    let base := halve (side order items) 0 items.length
    match side order items base with
    | .eq => .ok base
    | .lt => .error (base + 1)
    | .gt => .error base

/-- The number of items before the first that fails a test, if all behind it fail too. -/
def cut (passes : α → Bool) (items : List α) : Nat :=
  match find (fun a => if passes a then .lt else .gt) items with
  | .ok i | .error i => i

/-- If exactly the first `k` places are not above the target, halving ends at the last of them. -/
theorem halve_eq {place : Nat → Ordering} {k : Nat} (hk : ∀ i, place i ≠ .gt ↔ i < k)
    (base size : Nat) (hbase : base < k ∨ base = 0) (hsize : k ≤ base + size) :
    halve place base size = k - 1 := by
  fun_induction halve place base size with
  | case1 base size hlt middle ih =>
    have hmiddle : middle = base + size / 2 := rfl
    -- The half that is kept still reaches to place `k`, and starts below it.
    by_cases hgt : place middle = .gt
    · have : ¬ middle < k := fun h => (hk middle).2 h hgt
      simp only [hgt, ↓reduceIte, ↓reduceDIte] at ih ⊢
      exact ih hbase (by omega)
    · have : middle < k := (hk middle).1 hgt
      simp only [hgt, ↓reduceIte, ↓reduceDIte] at ih ⊢
      exact ih (.inl this) (by omega)
  | case2 base size hlt => omega

/-- A place of the first part of a list has the side of an item of that part. -/
theorem side_append_left (order : α → Ordering) {below : List α} (above : List α) {i : Nat}
    (hi : i < below.length) : ∃ a ∈ below, side order (below ++ above) i = order a := by
  refine ⟨below[i], List.getElem_mem hi, ?_⟩
  unfold side
  rw [List.getElem?_append_left hi, List.getElem?_eq_getElem hi]
  rfl

/-- A place behind the first part of a list is above the target if the second part is. -/
theorem side_append_right {order : α → Ordering} {below above : List α} {i : Nat}
    (ha : ∀ a ∈ above, order a = .gt) (hi : below.length ≤ i) :
    side order (below ++ above) i = .gt := by
  unfold side
  rw [List.getElem?_append_right hi]
  cases h : above[i - below.length]? with
  | none => rfl
  | some a => exact ha a (List.mem_of_getElem? h)

/-- Halving a list whose first part is not above the target, and whose second part is, ends at the
last place of the first part. -/
theorem halve_append {order : α → Ordering} {below above : List α}
    (hb : ∀ a ∈ below, order a ≠ .gt) (ha : ∀ a ∈ above, order a = .gt) :
    halve (side order (below ++ above)) 0 (below ++ above).length = below.length - 1 := by
  refine halve_eq (fun i => ⟨fun h => ?_, fun h => ?_⟩) 0 _ (.inr rfl) (by simp)
  · by_cases hi : i < below.length
    · exact hi
    · exact absurd (side_append_right ha (by omega)) h
  · obtain ⟨a, ha', hside⟩ := side_append_left order above h
    rw [hside]
    exact hb a ha'

/-- A list with a part below and a part above the target, and nothing at it, has no place of an
item; one belongs between the parts. -/
theorem find_eq_error {order : α → Ordering} {below above : List α}
    (hb : ∀ a ∈ below, order a = .lt) (ha : ∀ a ∈ above, order a = .gt) :
    find order (below ++ above) = .error below.length := by
  have hbelow : ∀ a ∈ below, order a ≠ .gt := fun a h => by simp [hb a h]
  have hhalve := halve_append hbelow ha
  unfold find
  split
  · rename_i hempty
    have : below = [] := by simp_all
    simp [this]
  · dsimp only
    rw [hhalve]
    by_cases hpos : 0 < below.length
    · obtain ⟨a, ha', hside⟩ := side_append_left order above (Nat.sub_lt hpos Nat.one_pos)
      rw [hside, hb a ha']
      simp only [Except.error.injEq]
      omega
    · rw [side_append_right ha (by omega)]
      simp only [Except.error.injEq]
      omega

/-- An item at the target, with all before it below and all behind it above, is found. -/
theorem find_eq_ok {order : α → Ordering} {below above : List α} {a : α}
    (hb : ∀ b ∈ below, order b = .lt) (ha : order a = .eq) (hc : ∀ c ∈ above, order c = .gt) :
    find order (below ++ a :: above) = .ok below.length := by
  have hfirst : ∀ b ∈ below ++ [a], order b ≠ .gt := by
    intro b h
    rcases List.mem_append.1 h with h | h
    · simp [hb b h]
    · rw [List.mem_singleton.1 h, ha]
      simp
  have hhalve := halve_append hfirst hc
  have hlast : (below ++ [a]).length - 1 = below.length := by simp
  rw [hlast, List.append_assoc, List.singleton_append] at hhalve
  have hside : side order (below ++ a :: above) below.length = .eq := by
    unfold side
    rw [List.getElem?_append_right (Nat.le_refl _), Nat.sub_self]
    simpa using ha
  unfold find
  split
  · rename_i hempty
    simp at hempty
  · dsimp only
    rw [hhalve, hside]

/-- A list is cut between a part that passes and a part that fails. -/
theorem cut_append {passes : α → Bool} {pre post : List α} (hpre : ∀ a ∈ pre, passes a = true)
    (hpost : ∀ a ∈ post, passes a = false) : cut passes (pre ++ post) = pre.length := by
  unfold cut
  rw [find_eq_error (fun a h => by simp [hpre a h]) (fun a h => by simp [hpost a h])]

/-! ## Lists with rising keys -/

variable {κ : Type} [Ord κ] (key : α → κ)

/-- Keys rise strictly, so that none occurs twice. -/
def Rising (items : List α) : Prop := items.Pairwise fun a b => compare (key a) (key b) = .lt

/-- The item with a key. -/
def at? (k : κ) (items : List α) : Option α :=
  match find (fun a => compare (key a) k) items with
  | .ok i => items[i]?
  | .error _ => none

/-- The items with one put at the place of its key; an item with the same key gives way. -/
def put (a : α) (items : List α) : List α :=
  match find (fun b => compare (key b) (key a)) items with
  | .ok i => items.set i a
  | .error i => items.insertIdx i a

variable {key}

/-- An item inserted behind the first part of a list stands between the parts. -/
theorem insertIdx_length_append (a : α) (below above : List α) :
    (below ++ above).insertIdx below.length a = below ++ a :: above := by
  induction below with
  | nil => simp
  | cons b below ih => simpa using ih

/-- Some of the items, in their order, have rising keys too. -/
theorem Rising.sublist {items some : List α} (h : Rising key items) (hs : some.Sublist items) :
    Rising key some :=
  List.Pairwise.sublist hs h

/-- A test that holds of every item before one that passes it keeps a first part of a list. -/
theorem Rising.filter_append {items : List α} (h : Rising key items) {passes : α → Bool}
    (hdown : ∀ a b, compare (key a) (key b) = .lt → passes b = true → passes a = true) :
    items = items.filter passes ++ items.filter fun a => !passes a := by
  induction items with
  | nil => rfl
  | cons a rest ih =>
    obtain ⟨hfirst, hrest⟩ := List.pairwise_cons.1 h
    by_cases hpa : passes a = true
    · simpa [hpa] using ih hrest
    · have hnone : rest.filter passes = [] := by
        rw [List.filter_eq_nil_iff]
        exact fun b hb hpb => hpa (hdown a b (hfirst b hb) hpb)
      have := ih hrest
      rw [hnone, List.nil_append] at this
      simpa [hpa, hnone] using this

/-- The cut is behind the items that pass. -/
theorem Rising.cut_eq_length {items : List α} (h : Rising key items) {passes : α → Bool}
    (hdown : ∀ a b, compare (key a) (key b) = .lt → passes b = true → passes a = true) :
    cut passes items = (items.filter passes).length :=
  (congrArg (cut passes) (h.filter_append hdown)).trans (cut_append (by simp) (by simp))

/-- The items behind the cut are those that fail. -/
theorem Rising.drop_cut {items : List α} (h : Rising key items) {passes : α → Bool}
    (hdown : ∀ a b, compare (key a) (key b) = .lt → passes b = true → passes a = true) :
    items.drop (cut passes items) = items.filter fun a => !passes a := by
  rw [h.cut_eq_length hdown]
  exact (congrArg (List.drop _) (h.filter_append hdown)).trans List.drop_left

/-- The item before the cut is the last that passes. -/
theorem Rising.getElem?_cut {items : List α} (h : Rising key items) {passes : α → Bool}
    (hdown : ∀ a b, compare (key a) (key b) = .lt → passes b = true → passes a = true) {i : Nat}
    (hi : cut passes items = i + 1) : items[i]? = (items.filter passes).getLast? := by
  rw [h.cut_eq_length hdown] at hi
  rw [List.getLast?_eq_getElem?, hi, Nat.add_sub_cancel]
  have hlt : i < (items.filter passes).length := by omega
  exact (congrArg (·[i]?) (h.filter_append hdown)).trans (List.getElem?_append_left hlt)

variable [Std.TransOrd κ] [Std.LawfulEqOrd κ]

/-- A list with rising keys has a part below a key and a part above it, and between them at most one
item, which has the key. -/
theorem Rising.parts {items : List α} (h : Rising key items) (k : κ) :
    ∃ below above, (∀ a ∈ below, compare (key a) k = .lt) ∧
      (∀ a ∈ above, compare (key a) k = .gt) ∧
      (items = below ++ above ∨ ∃ a, key a = k ∧ items = below ++ a :: above) := by
  induction items with
  | nil => exact ⟨[], [], by simp, by simp, .inl rfl⟩
  | cons a rest ih =>
    obtain ⟨hfirst, hrest⟩ := List.pairwise_cons.1 h
    -- Once an item is not below the key, all behind it are above.
    have habove : compare (key a) k ≠ .lt → ∀ b ∈ rest, compare (key b) k = .gt := by
      intro hne b hb
      rw [Std.OrientedCmp.gt_iff_lt]
      refine Std.TransCmp.lt_of_isLE_of_lt ?_ (hfirst b hb)
      rw [Std.OrientedOrd.eq_swap]
      cases hc : compare (key a) k <;> simp_all
    cases hc : compare (key a) k with
    | lt =>
      obtain ⟨below, above, hb, ha, hparts⟩ := ih hrest
      have hb' : ∀ b ∈ a :: below, compare (key b) k = .lt := by
        intro b hmem
        rcases List.mem_cons.1 hmem with rfl | hmem
        · exact hc
        · exact hb b hmem
      rcases hparts with rfl | ⟨c, hck, rfl⟩
      · exact ⟨a :: below, above, hb', ha, .inl rfl⟩
      · exact ⟨a :: below, above, hb', ha, .inr ⟨c, hck, rfl⟩⟩
    | eq =>
      have hak : key a = k := Std.LawfulEqOrd.eq_of_compare hc
      exact ⟨[], rest, by simp, habove (by simp [hc]), .inr ⟨a, hak, rfl⟩⟩
    | gt =>
      refine ⟨[], a :: rest, by simp, fun b hmem => ?_, .inl rfl⟩
      rcases List.mem_cons.1 hmem with rfl | hmem
      · exact hc
      · exact habove (by simp [hc]) b hmem

/-- Looking up a key finds the item with the key. -/
theorem at?_eq_some_iff {items : List α} (h : Rising key items) {k : κ} {a : α} :
    at? key k items = some a ↔ a ∈ items ∧ key a = k := by
  obtain ⟨below, above, hb, ha, hparts⟩ := h.parts k
  have hne : ∀ b, b ∈ below ∨ b ∈ above → key b ≠ k := by
    rintro b (hmem | hmem) rfl
    · simpa using hb b hmem
    · simpa using ha b hmem
  unfold at?
  rcases hparts with rfl | ⟨c, rfl, rfl⟩
  · rw [find_eq_error hb ha]
    simp only [List.mem_append, reduceCtorEq, false_iff, not_and]
    exact hne a
  · rw [find_eq_ok hb Std.compare_self ha]
    simp only [List.getElem?_append_right (Nat.le_refl _), Nat.sub_self, List.getElem?_cons_zero,
      Option.some.injEq, List.mem_append, List.mem_cons]
    constructor
    · rintro rfl
      exact ⟨.inr (.inl rfl), rfl⟩
    · rintro ⟨hmem | rfl | hmem, hk⟩
      · exact absurd hk (hne a (.inl hmem))
      · rfl
      · exact absurd hk (hne a (.inr hmem))

/-- Putting an item in leaves the part below its key, the item, and the part above its key. -/
theorem put_eq_append {items : List α} (h : Rising key items) (a : α) :
    ∃ below above, put key a items = below ++ a :: above ∧ (below ++ above).Sublist items ∧
      (∀ b ∈ below, compare (key b) (key a) = .lt) ∧
      (∀ b ∈ above, compare (key b) (key a) = .gt) ∧
      ∀ b ∈ items, key b ≠ key a → b ∈ below ++ above := by
  obtain ⟨below, above, hb, ha, hparts⟩ := h.parts (key a)
  refine ⟨below, above, ?_⟩
  unfold put
  rcases hparts with rfl | ⟨c, hck, rfl⟩
  · rw [find_eq_error hb ha]
    exact ⟨insertIdx_length_append a below above, List.Sublist.refl _, hb, ha,
      fun b hmem _ => hmem⟩
  · rw [find_eq_ok hb (by rw [hck]; exact Std.compare_self) ha]
    refine ⟨by simp, by simp, hb, ha, fun b hmem hne => ?_⟩
    simp only [List.mem_append, List.mem_cons] at hmem ⊢
    rcases hmem with hmem | rfl | hmem
    · exact .inl hmem
    · exact absurd hck hne
    · exact .inr hmem

/-- After putting an item in, there are that item and those with other keys. -/
theorem mem_put {items : List α} (h : Rising key items) {a b : α} :
    b ∈ put key a items ↔ b = a ∨ b ∈ items ∧ key b ≠ key a := by
  obtain ⟨below, above, hput, hsub, hb, ha, hrest⟩ := put_eq_append h a
  have hmem : b ∈ put key a items ↔ b = a ∨ b ∈ below ++ above := by
    rw [hput]
    simp only [List.mem_append, List.mem_cons]
    exact or_left_comm
  rw [hmem]
  refine or_congr_right ⟨fun hmem' => ⟨hsub.subset hmem', fun hk => ?_⟩,
    fun hmem' => hrest b hmem'.1 hmem'.2⟩
  rcases List.mem_append.1 hmem' with h' | h'
  · have := hb b h'
    rw [hk, Std.compare_self] at this
    cases this
  · have := ha b h'
    rw [hk, Std.compare_self] at this
    cases this

/-- Putting an item in keeps keys rising. -/
theorem rising_put {items : List α} (h : Rising key items) (a : α) :
    Rising key (put key a items) := by
  obtain ⟨below, above, hput, hsub, hb, ha, -⟩ := put_eq_append h a
  have hparts := List.pairwise_append.1 (h.sublist hsub)
  rw [hput]
  refine List.pairwise_append.2 ⟨hparts.1, List.pairwise_cons.2 ⟨fun b hmem => ?_, hparts.2.1⟩, ?_⟩
  · exact Std.OrientedCmp.gt_iff_lt.1 (ha b hmem)
  · intro b hmem c hmem'
    rcases List.mem_cons.1 hmem' with rfl | hmem'
    · exact hb b hmem
    · exact hparts.2.2 b hmem c hmem'

/-- The last item is the one with the greatest key. -/
theorem Rising.getLast?_eq_some_iff {items : List α} (h : Rising key items) {a : α} :
    items.getLast? = some a ↔ a ∈ items ∧ ∀ b ∈ items, compare (key b) (key a) ≠ .gt := by
  constructor
  · intro hlast
    refine ⟨List.mem_of_getLast? hlast, fun b hb => ?_⟩
    obtain ⟨before, rfl⟩ := List.getLast?_eq_some_iff.1 hlast
    rcases List.mem_append.1 hb with hb | hb
    · simp [(List.pairwise_append.1 h).2.2 b hb a (by simp)]
    · simp [List.mem_singleton.1 hb]
  · rintro ⟨ha, hmax⟩
    have hne : items ≠ [] := List.ne_nil_of_mem ha
    obtain ⟨before, last, rfl⟩ : ∃ before last, items = before ++ [last] :=
      ⟨_, _, (List.dropLast_concat_getLast hne).symm⟩
    rw [List.getLast?_concat, Option.some.injEq]
    rcases List.mem_append.1 ha with ha | ha
    · have hlt := (List.pairwise_append.1 h).2.2 a ha last (by simp)
      exact absurd (Std.OrientedCmp.gt_of_lt hlt) (hmax last (by simp))
    · exact (List.mem_singleton.1 ha).symm

/-- Two lists with rising keys and the same items are the same. -/
theorem Rising.eq_of_mem_iff {items others : List α} (h : Rising key items)
    (h' : Rising key others) (hmem : ∀ a, a ∈ items ↔ a ∈ others) : items = others := by
  have hnodup : ∀ {l : List α}, Rising key l → l.Nodup := fun hl =>
    List.Pairwise.imp (fun hlt heq => by simp [heq] at hlt) hl
  refine List.Perm.eq_of_pairwise (fun a b _ _ hab hba => ?_) h h'
    ((List.perm_ext_iff_of_nodup (hnodup h) (hnodup h')).2 hmem)
  rw [Std.OrientedCmp.gt_of_lt hba] at hab
  cases hab

/-! ## Stable sorting -/

/-- A stable sort keeps items in their order that may stand in any order. -/
theorem filter_mergeSort {le : α → α → Bool}
    (htrans : ∀ a b c, le a b = true → le b c = true → le a c = true)
    (htotal : ∀ a b, (le a b || le b a) = true) {p : α → Bool}
    (hp : ∀ a b, p a = true → p b = true → le a b = true) (items : List α) :
    (items.mergeSort le).filter p = items.filter p := by
  -- The items are in order as they stand, and a stable sort keeps such a sublist.
  have hsorted : (items.filter p).Pairwise fun a b => le a b = true := by
    rw [List.pairwise_iff_forall_sublist]
    intro a b hab
    have ha : a ∈ items.filter p := hab.subset (by simp)
    have hb : b ∈ items.filter p := hab.subset (by simp)
    exact hp a b (List.mem_filter.1 ha).2 (List.mem_filter.1 hb).2
  have hsub := (List.sublist_mergeSort htrans htotal hsorted List.filter_sublist).filter p
  rw [List.filter_filter] at hsub
  simp only [Bool.and_self] at hsub
  have hlength := ((List.mergeSort_perm items le).filter p).length_eq
  exact (hsub.eq_of_length hlength.symm).symm
end MetricAlgebra.Search
