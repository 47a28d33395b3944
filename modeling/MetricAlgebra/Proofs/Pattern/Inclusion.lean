import MetricAlgebra.Proofs.Pattern.Recency

/-!
# Caches of two capacities

As long as each pattern in a cache is the one that its key describes, a request that reads what is
not there answers what reading alone would answer (`PatternCache.Sound.getOrCompile_eq`). Of two
caches that take the same commands, the greater one has all keys of the lesser one
(`PatternCache.Beside.apply`). The keys of the lesser one need not be the first ones of the greater
one, since a request can touch a key that is in the greater one alone; but they are in one order,
and the lesser cache has no place left where the greater one has dropped something
(`PatternCache.Nested`).
-/

namespace MetricAlgebra.PatternCache

open RecentEntries

variable {E : PatternEngine} {M : LruMap E.Pattern} {view : M.State → RecentEntries E.Pattern}

/-! ## Patterns that their keys describe -/

/-- Whether each entry is the pattern that its key describes. -/
def Faithful (r : RecentEntries E.Pattern) : Prop :=
  ∀ entry ∈ r.entries, E.compileAnchored entry.1 = .ok entry.2

/-- Whether a command puts in no other pattern than the one that its key describes. -/
def Command.IsFaithful : Command E → Prop
  | .put key p => E.compileAnchored key = .ok p
  | .get _ | .getOrCompile _ | .clear => True

namespace Faithful

variable {r r' : RecentEntries E.Pattern} {key : String} {p : E.Pattern}

/-- No entries are all described by their keys. -/
theorem empty (n : Nat) : Faithful (E := E) (.empty n) := fun _ h => absurd h List.not_mem_nil

/-- What is found is what the key describes. -/
theorem compile_eq (h : Faithful r) (hfind : r.find? key = some p) :
    E.compileAnchored key = .ok p :=
  h (key, p) (mem_of_find? hfind)

/-- A pattern that its key describes is put in. -/
theorem put (h : Faithful r) (hp : E.compileAnchored key = .ok p) : Faithful (r.put key p) := by
  intro entry hentry
  rcases List.mem_cons.1 (List.mem_of_mem_take hentry) with rfl | hold
  · exact hp
  · exact h entry (List.mem_filter.1 hold).1

/-- Commands keep patterns that their keys describe. -/
theorem apply (h : Faithful r) {command : Command E} (hcommand : command.IsFaithful)
    {event : Event E} (hdoes : Does r command event r') : Faithful r' := by
  cases hdoes with
  | getFound hfind | found hfind => exact h.put (h.compile_eq hfind)
  | compiled _ hcompile => exact h.put hcompile
  | getAbsent | refused => exact h
  | stored => exact h.put hcommand
  | cleared => exact .empty _

end Faithful

/-- Whether a cache has room, and no patterns but those that their keys describe. -/
structure Sound (view : M.State → RecentEntries E.Pattern) (c : PatternCache E M) : Prop where
  /-- There is room for a pattern. -/
  pos : 0 < (view c.patterns).capacity
  /-- The patterns are those that their keys describe. -/
  faithful : Faithful (view c.patterns)

namespace Sound

variable {c : PatternCache E M}

/-- A request that reads what is not there answers what reading alone would answer. -/
theorem getOrCompile_eq (h : Sound view c) (hM : M.Spec view) (source : String) :
    (c.getOrCompile source).1 = E.compileAnchored source := by
  cases hfind : (view c.patterns).find? source with
  | some p =>
    obtain ⟨patterns, -, hget⟩ := getOrCompile_of_found hM hfind
    rw [hget, h.faithful.compile_eq hfind]
  | none =>
    cases hcompile : E.compileAnchored source with
    | ok p =>
      obtain ⟨patterns, -, hget⟩ := getOrCompile_of_compiled hM h.pos hfind hcompile
      rw [hget]
    | error e =>
      obtain ⟨patterns, -, hget⟩ := getOrCompile_of_refused hM hfind hcompile
      rw [hget]

/-- Commands keep patterns that their keys describe. -/
theorem apply (h : Sound view c) (hM : M.Spec view) {command : Command E}
    (hcommand : command.IsFaithful) : Sound view (command.apply c) := by
  obtain ⟨event, hdoes, -⟩ := exists_does hM h.pos command
  exact ⟨hdoes.capacity_eq ▸ h.pos, h.faithful.apply hcommand hdoes⟩

/-- After any commands that keep them, all patterns are those that their keys describe. -/
theorem run (hM : M.Spec view) (capacity : Nat) {commands : List (Command E)}
    (h : ∀ c ∈ commands, c.IsFaithful) : Sound view (run M capacity commands) := by
  have hempty : Sound view (.ofCapacity capacity : PatternCache E M) := by
    have hpos : 0 < max capacity 1 := Nat.lt_of_lt_of_le Nat.one_pos (Nat.le_max_right _ _)
    have hview := hM.view_withCapacity (max capacity 1) hpos
    exact ⟨hview ▸ hpos, hview ▸ .empty _⟩
  exact List.foldlRecOn commands _ (motive := Sound view) hempty
    fun _ hc command hmem => hc.apply hM (h command hmem)

end Sound

/-! ## Keys of two caches -/

/-- Some of the items stay some of them if at least as many are cut off their end. -/
theorem take_sublist_take {α : Type} {m n : Nat} {some all : List α} (h : some.Sublist all)
    (hcut : all.length - n ≤ some.length - m) : (some.take m).Sublist (all.take n) := by
  have hreverse (items : List α) (k : Nat) :
      items.take k = (items.reverse.drop (items.length - k)).reverse := by
    rw [← List.reverse_take, List.reverse_reverse]
  rw [hreverse some, hreverse all, List.reverse_sublist]
  exact (List.drop_sublist_drop_left _ hcut).trans (h.reverse.drop _)

/-- Without one key, there are as many keys as before, or one less if it was there. -/
theorem length_filter_ne {keys : List String} (h : keys.Nodup) (key : String) :
    (keys.filter (· != key)).length = if key ∈ keys then keys.length - 1 else keys.length := by
  rw [← h.erase_eq_filter, List.length_erase]

/-- Whether keys are those of a cache of `m` patterns beside those of one of `n`. -/
structure Nested (m n : Nat) (small large : List String) : Prop where
  /-- Keys are told apart. -/
  nodup : large.Nodup
  /-- The keys of the lesser cache are in the greater one, in the same order. -/
  sublist : small.Sublist large
  /-- The greater cache holds `n` patterns at most. -/
  length_le : large.length ≤ n
  /-- The lesser cache holds `m` patterns, or as many as the greater one if these are less. -/
  length_eq : small.length = min m large.length

namespace Nested

variable {m n : Nat} {small large : List String} {key : String}

/-- Touching a key keeps keys apart. -/
theorem nodup_touch (h : large.Nodup) (n : Nat) (key : String) : (touch n key large).Nodup := by
  refine List.Nodup.sublist (List.take_sublist _ _) (List.nodup_cons.2 ⟨?_, h.filter _⟩)
  simp

/-- A key is touched in both caches. -/
theorem touch (h : Nested m n small large) (hm : 0 < m) (hmn : m ≤ n) (key : String) :
    Nested m n (touch m key small) (touch n key large) := by
  have hsub := h.sublist.filter (· != key)
  have hlength := hsub.length_le
  have hsmall := length_filter_ne (h.nodup.sublist h.sublist) key
  have hlarge := length_filter_ne h.nodup key
  have hle := h.length_le
  have heq := h.length_eq
  have hcounts : (large.filter (· != key)).length + 1 - n ≤
        (small.filter (· != key)).length + 1 - m ∧
      min m ((small.filter (· != key)).length + 1) =
        min m (min n ((large.filter (· != key)).length + 1)) := by
    by_cases hthere : key ∈ large
    · -- The greater cache drops nothing.
      have hpos := List.length_pos_of_mem hthere
      rw [if_pos hthere] at hlarge
      split at hsmall <;> omega
    · -- If the greater cache is full, so is the lesser one, and both drop their last key.
      rw [if_neg hthere] at hlarge
      rw [if_neg fun hkey => hthere (h.sublist.subset hkey)] at hsmall
      omega
  refine ⟨nodup_touch h.nodup n key, take_sublist_take (hsub.cons_cons key) hcounts.1,
    List.length_take_le _ _, ?_⟩
  rw [RecentEntries.touch, RecentEntries.touch, List.length_take, List.length_take]
  exact hcounts.2

/-- A key that is in the greater cache alone is touched there. -/
theorem touch_large (h : Nested m n small large) (hsmall : key ∉ small) (hlarge : key ∈ large) :
    Nested m n small (RecentEntries.touch n key large) := by
  have hpos := List.length_pos_of_mem hlarge
  have hlength : (key :: large.filter (· != key)).length = large.length := by
    rw [List.length_cons, length_filter_ne h.nodup, if_pos hlarge]
    omega
  -- Nothing is dropped, and the other keys stay in their order.
  have htouch : RecentEntries.touch n key large = key :: large.filter (· != key) :=
    List.take_of_length_le (hlength ▸ h.length_le)
  have hself : small.filter (· != key) = small :=
    List.filter_eq_self.2 fun k hk => bne_iff_ne.2 fun heq => hsmall (heq ▸ hk)
  have hsub := h.sublist.filter (· != key)
  rw [hself] at hsub
  refine ⟨nodup_touch h.nodup n key, ?_, List.length_take_le _ _, ?_⟩
  · rw [htouch]
    exact hsub.cons key
  · rw [htouch, hlength]
    exact h.length_eq

end Nested

/-- Whether the entries of one cache have no keys that are not in another one, after the same
commands. -/
structure Within (small large : RecentEntries E.Pattern) : Prop where
  /-- There is a place in the lesser cache. -/
  pos : 0 < small.capacity
  /-- The greater cache has no fewer places. -/
  capacity_le : small.capacity ≤ large.capacity
  /-- The keys of the lesser cache are in the greater one. -/
  keys : Nested small.capacity large.capacity small.keys large.keys

namespace Within

variable {small large small' large' : RecentEntries E.Pattern} {key : String}

/-- The empty caches of two capacities. -/
theorem nil {m n : Nat} (hm : 0 < m) (hmn : m ≤ n) :
    Within (E := E) (.empty m) (.empty n) :=
  ⟨hm, hmn, ⟨.nil, .slnil, Nat.zero_le _, (Nat.min_zero _).symm⟩⟩

/-- What is found in the lesser cache has its key in the greater one. -/
theorem find?_ne_none (h : Within small large) {p : E.Pattern} (hfind : small.find? key = some p) :
    large.find? key ≠ none := fun hnone =>
  find?_eq_none_iff.1 hnone (h.keys.sublist.subset (mem_keys_of_find? hfind))

/-- A key is put in front in both caches. -/
theorem put (h : Within small large) (key : String) (p p' : E.Pattern) :
    Within (small.put key p) (large.put key p') := by
  refine ⟨h.pos, h.capacity_le, ?_⟩
  rw [keys_put, keys_put]
  exact h.keys.touch h.pos h.capacity_le key

/-- A key that is found in the greater cache alone is put in front there. -/
theorem put_large (h : Within small large) {p : E.Pattern} (hsmall : small.find? key = none)
    (hlarge : large.find? key = some p) : Within small (large.put key p) := by
  refine ⟨h.pos, h.capacity_le, ?_⟩
  rw [keys_put]
  exact h.keys.touch_large (find?_eq_none_iff.1 hsmall) (mem_keys_of_find? hlarge)

/-- A command leaves the keys of the lesser cache in the greater one, and is a miss there only if it
is one in the lesser one. -/
theorem apply (h : Within small large) {command : Command E} {event event' : Event E}
    (hdoes : Does small command event small') (hdoes' : Does large command event' large') :
    Within small' large' ∧ (event'.isMiss = true → event.isMiss = true) := by
  -- What the lesser cache finds the greater one finds too, so that only the greater one can find
  -- something alone; and a text is read alike for both.
  cases hdoes with
  | getFound hfind =>
    cases hdoes' with
    | getFound => exact ⟨h.put _ _ _, id⟩
    | getAbsent hnone => exact absurd hnone (h.find?_ne_none hfind)
  | getAbsent hnone =>
    cases hdoes' with
    | getFound hfind' => exact ⟨h.put_large hnone hfind', fun _ => rfl⟩
    | getAbsent => exact ⟨h, id⟩
  | found hfind =>
    cases hdoes' with
    | found => exact ⟨h.put _ _ _, id⟩
    | compiled hnone | refused hnone => exact absurd hnone (h.find?_ne_none hfind)
  | compiled hnone hcompile =>
    cases hdoes' with
    | found => exact ⟨h.put _ _ _, fun _ => rfl⟩
    | compiled => exact ⟨h.put _ _ _, fun _ => rfl⟩
    | refused _ he => rw [hcompile] at he; cases he
  | refused hnone he =>
    cases hdoes' with
    | found hfind' => exact ⟨h.put_large hnone hfind', fun _ => rfl⟩
    | compiled _ hcompile => rw [hcompile] at he; cases he
    | refused => exact ⟨h, id⟩
  | stored key p =>
    cases hdoes' with
    | stored => exact ⟨h.put _ _ _, id⟩
  | cleared =>
    cases hdoes' with
    | cleared => exact ⟨.nil h.pos h.capacity_le, id⟩

end Within

/-- Whether two caches are a lesser and a greater one after the same commands. -/
structure Beside (view : M.State → RecentEntries E.Pattern) (small large : PatternCache E M) :
    Prop where
  /-- The entries of the lesser cache are in the greater one. -/
  within : Within (view small.patterns) (view large.patterns)
  /-- The greater cache has no more misses. -/
  misses_le : large.misses ≤ small.misses

namespace Beside

variable {small large : PatternCache E M}

/-- The greater cache has room. -/
theorem pos_large (h : Beside view small large) : 0 < (view large.patterns).capacity :=
  Nat.lt_of_lt_of_le h.within.pos h.within.capacity_le

/-- Two caches take a command. -/
theorem apply (h : Beside view small large) (hM : M.Spec view) (command : Command E) :
    Beside view (command.apply small) (command.apply large) := by
  obtain ⟨event, hdoes, hcounts⟩ := exists_does hM h.within.pos command
  obtain ⟨event', hdoes', hcounts'⟩ := exists_does hM h.pos_large command
  obtain ⟨hwithin, hmiss⟩ := h.within.apply hdoes hdoes'
  refine ⟨hwithin, ?_⟩
  rw [hcounts.misses_eq, hcounts'.misses_eq]
  have hle := h.misses_le
  split_ifs with hthere hhere
  · omega
  · exact absurd (hmiss hthere) hhere
  · omega
  · omega

/-- After the same commands, two caches are a lesser and a greater one. -/
theorem run (hM : M.Spec view) {capacity capacity' : Nat} (hle : capacity ≤ capacity')
    (commands : List (Command E)) :
    Beside view (run M capacity commands) (run M capacity' commands) := by
  have hempty : Beside view (.ofCapacity capacity : PatternCache E M) (.ofCapacity capacity') := by
    refine ⟨?_, le_rfl⟩
    show Within (view (M.withCapacity _)) (view (M.withCapacity _))
    rw [hM.view_withCapacity _ (by omega), hM.view_withCapacity _ (by omega)]
    exact .nil (by omega) (max_le_max_right 1 hle)
  exact List.foldl_rel (r := Beside view) hempty fun command _ _ _ h => h.apply hM command

end Beside

/-- A cache does not show in what is read, and a greater one does no harm. After any commands that
put in no other patterns than those that their keys describe, a request that reads what is not there
answers what reading alone would answer, whatever the capacity. Of two capacities, the greater one
has found what the lesser one has, and has had no more misses. -/
theorem run_greater_capacity (hM : M.Spec view) {capacity capacity' : Nat}
    (hle : capacity ≤ capacity') {commands : List (Command E)}
    (hcommands : ∀ c ∈ commands, c.IsFaithful) :
    let small := run M capacity commands
    let large := run M capacity' commands
    (∀ source, (small.getOrCompile source).1 = E.compileAnchored source ∧
      (large.getOrCompile source).1 = E.compileAnchored source) ∧
    (∀ key p, (small.get key).1 = some p → (large.get key).1 = some p) ∧
    large.misses ≤ small.misses := by
  intro small large
  have hsmall : Sound view small := .run hM capacity hcommands
  have hlarge : Sound view large := .run hM capacity' hcommands
  have hbeside : Beside view small large := .run hM hle commands
  refine ⟨fun source => ⟨hsmall.getOrCompile_eq hM source, hlarge.getOrCompile_eq hM source⟩,
    fun key p hget => ?_, hbeside.misses_le⟩
  rw [get_fst hM] at hget ⊢
  -- Both patterns are the one that the key describes.
  obtain ⟨p', hget'⟩ := Option.ne_none_iff_exists'.1 (hbeside.within.find?_ne_none hget)
  have hsame := (hlarge.faithful.compile_eq hget').symm.trans (hsmall.faithful.compile_eq hget)
  rw [hget', Except.ok.inj hsame]

/-- Caches of one and of two patterns, of which only the greater one still has the first key when it
is asked for again. -/
theorem run_greater_capacity_one_and_two :
    ∃ p, Pattern.engine.compileAnchored "b" = .ok p ∧
      let M := LruMap.ofLists Pattern.engine.Pattern
      let commands : List (Command Pattern.engine) :=
        [.getOrCompile "a", .put "b" p, .get "a"]
      (∀ c ∈ commands, c.IsFaithful) ∧
        ((run M 1 commands).getOrCompile "(unclosed").1 =
          .error (.invalidPattern "^(?:(unclosed)$") ∧
        ((run M 2 commands).get "b").1 = some p ∧
        (run M 2 commands).misses ≤ (run M 1 commands).misses := by
  refine ⟨_, rfl, ?_⟩
  intro M commands
  have hfaithful : ∀ c ∈ commands, c.IsFaithful := by
    simp only [commands, List.forall_mem_cons, List.not_mem_nil, false_implies, implies_true,
      and_true]
    exact ⟨trivial, rfl, trivial⟩
  obtain ⟨hread, hfound, hmisses⟩ :=
    run_greater_capacity (LruMap.ofLists_spec _) (by decide : 1 ≤ 2) hfaithful
  exact ⟨hfaithful, (hread _).1, hfound "b" _ rfl, hmisses⟩

end MetricAlgebra.PatternCache
