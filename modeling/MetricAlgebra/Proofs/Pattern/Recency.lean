import MetricAlgebra.Pattern
import MetricAlgebra.Pattern.Cache
import MetricAlgebra.Proofs.Grouping
import MetricAlgebra.Proofs.LruMap
import MetricAlgebra.Proofs.PatternEngine

/-!
# What a cache remembers

A cache of patterns is compared with a log of what has happened to it, of which nothing is ever
dropped. A key is touched by a request that finds a pattern under it, and when a pattern is put
under it. What a command does to the cache it notes in the log (`PatternCache.Reflects.apply`), so
that after any commands the keys in the cache are the ones touched last, as many as it holds and in
this order, with the patterns put in last (`PatternCache.run_keeps_recent`).

The engine that reads the patterns may be any, and so may the map that keeps them, as long as it
forgets as it promises. What the map remembers is seen through `view`.
-/

namespace MetricAlgebra.PatternCache

open RecentEntries

variable {E : PatternEngine} {M : LruMap E.Pattern} {view : M.State → RecentEntries E.Pattern}
  {c : PatternCache E M} {key source : String} {p : E.Pattern} {e : Error}

/-! ## Commands -/

/-- A request gives what is there. -/
theorem get_fst (hM : M.Spec view) (c : PatternCache E M) (key : String) :
    (c.get key).1 = (view c.patterns).find? key := by
  rw [← hM.get_fst]
  unfold get
  obtain ⟨found, patterns⟩ := M.get c.patterns key
  cases found <;> rfl

/-- A request for a pattern that is there finds it. -/
theorem get_of_found (hM : M.Spec view) (h : (view c.patterns).find? key = some p) :
    ∃ patterns, view patterns = (view c.patterns).put key p ∧
      c.get key = (some p, { c with patterns, requests := c.requests + 1 }) := by
  refine ⟨_, hM.view_get_hit h, ?_⟩
  have hfst := (hM.get_fst c.patterns key).trans h
  unfold get
  rw [← Prod.mk.eta (p := M.get c.patterns key), hfst]

/-- A request for a pattern that is not there is a miss. -/
theorem get_of_absent (hM : M.Spec view) (h : (view c.patterns).find? key = none) :
    ∃ patterns, view patterns = view c.patterns ∧ c.get key =
      (none, { c with patterns, requests := c.requests + 1, misses := c.misses + 1 }) := by
  refine ⟨_, hM.view_get_miss h, ?_⟩
  have hfst := (hM.get_fst c.patterns key).trans h
  unfold get
  rw [← Prod.mk.eta (p := M.get c.patterns key), hfst]

/-- What is there is not read again. -/
theorem getOrCompile_of_found (hM : M.Spec view) (h : (view c.patterns).find? source = some p) :
    ∃ patterns, view patterns = (view c.patterns).put source p ∧
      c.getOrCompile source = (.ok p, { c with patterns, requests := c.requests + 1 }) := by
  obtain ⟨patterns, hview, hget⟩ := get_of_found hM h
  refine ⟨patterns, hview, ?_⟩
  unfold getOrCompile
  rw [hget]

/-- What is not there is read and put in, if it can be read. -/
theorem getOrCompile_of_compiled (hM : M.Spec view) (hpos : 0 < (view c.patterns).capacity)
    (h : (view c.patterns).find? source = none) (hp : E.compileAnchored source = .ok p) :
    ∃ patterns, view patterns = (view c.patterns).put source p ∧ c.getOrCompile source =
      (.ok p, { c with patterns, requests := c.requests + 1, misses := c.misses + 1 }) := by
  obtain ⟨patterns, hview, hget⟩ := get_of_absent hM h
  refine ⟨M.insert patterns source p, ?_, ?_⟩
  · rw [hM.view_insert (hview ▸ hpos), hview]
  · unfold getOrCompile
    rw [hget]
    dsimp only
    rw [hp]
    rfl

/-- What is not there and cannot be read is a miss, and nothing else. -/
theorem getOrCompile_of_refused (hM : M.Spec view) (h : (view c.patterns).find? source = none)
    (he : E.compileAnchored source = .error e) :
    ∃ patterns, view patterns = view c.patterns ∧ c.getOrCompile source =
      (.error e, { c with patterns, requests := c.requests + 1, misses := c.misses + 1 }) := by
  obtain ⟨patterns, hview, hget⟩ := get_of_absent hM h
  refine ⟨patterns, hview, ?_⟩
  unfold getOrCompile
  rw [hget]
  dsimp only
  rw [he]

/-- The commands that a cache takes. -/
inductive Command (E : PatternEngine) where
  /-- Asks for the pattern under a key. -/
  | get (key : String)
  /-- Asks for the pattern that a text describes, and reads it if it is not there. -/
  | getOrCompile (source : String)
  /-- Puts a pattern in. -/
  | put (key : String) (p : E.Pattern)
  /-- Drops all patterns. -/
  | clear

/-- What a command makes of a cache. -/
def Command.apply : Command E → PatternCache E M → PatternCache E M
  | .get key, c => (c.get key).2
  | .getOrCompile source, c => (c.getOrCompile source).2
  | .put key p, c => c.put key p
  | .clear, c => c.clear

/-- The cache after commands, from the empty one of a capacity on. -/
def run (M : LruMap E.Pattern) (capacity : Nat) (commands : List (Command E)) : PatternCache E M :=
  commands.foldl (fun c command => command.apply c) (.ofCapacity capacity)

/-- What can happen to a cache. -/
inductive Event (E : PatternEngine) where
  /-- A pattern was asked for and found under the key. -/
  | found (key : String)
  /-- Nothing was found under the key, and nothing was put there. -/
  | absent (key : String)
  /-- Nothing was found under the key, and the pattern was read and put there. -/
  | compiled (key : String) (p : E.Pattern)
  /-- The pattern was put there by a command of its own. -/
  | stored (key : String) (p : E.Pattern)
  /-- All patterns were dropped. -/
  | cleared

/-- Whether a pattern was asked for. -/
def Event.isRequest : Event E → Bool
  | .found _ | .absent _ | .compiled _ _ => true
  | .stored _ _ | .cleared => false

/-- Whether a pattern was asked for and not found. -/
def Event.isMiss : Event E → Bool
  | .absent _ | .compiled _ _ => true
  | .found _ | .stored _ _ | .cleared => false

/-- What a command can do to the entries of a cache: the event that it is, and the entries that it
leaves. -/
inductive Does (r : RecentEntries E.Pattern) : Command E → Event E → RecentEntries E.Pattern → Prop
  /-- What is asked for is there. -/
  | getFound {key : String} {p : E.Pattern} : r.find? key = some p →
    Does r (.get key) (.found key) (r.put key p)
  /-- What is asked for is not there. -/
  | getAbsent {key : String} : r.find? key = none → Does r (.get key) (.absent key) r
  /-- What would be read is there. -/
  | found {source : String} {p : E.Pattern} : r.find? source = some p →
    Does r (.getOrCompile source) (.found source) (r.put source p)
  /-- What is not there is read. -/
  | compiled {source : String} {p : E.Pattern} : r.find? source = none →
    E.compileAnchored source = .ok p →
      Does r (.getOrCompile source) (.compiled source p) (r.put source p)
  /-- What is not there cannot be read. -/
  | refused {source : String} {e : Error} : r.find? source = none →
    E.compileAnchored source = .error e → Does r (.getOrCompile source) (.absent source) r
  /-- A pattern is put in. -/
  | stored (key : String) (p : E.Pattern) : Does r (.put key p) (.stored key p) (r.put key p)
  /-- All patterns are dropped. -/
  | cleared : Does r .clear .cleared (.empty r.capacity)

/-- Whether a cache has counted an event, and nothing else. -/
structure Counts (event : Event E) (c c' : PatternCache E M) : Prop where
  /-- The cache holds as many patterns as before. -/
  capacity_eq : c'.capacity = c.capacity
  /-- A request is counted. -/
  requests_eq : c'.requests = c.requests + if event.isRequest then 1 else 0
  /-- A request that finds nothing is counted as a miss too. -/
  misses_eq : c'.misses = c.misses + if event.isMiss then 1 else 0

/-- What is said of the cache that a command leaves is what the command does. -/
theorem exists_does_of_apply {patterns : M.State} {r : RecentEntries E.Pattern}
    {command : Command E} {event : Event E} (hdoes : Does (view c.patterns) command event r)
    (hview : view patterns = r)
    (happly : command.apply c = { c with
      patterns
      requests := c.requests + if event.isRequest then 1 else 0
      misses := c.misses + if event.isMiss then 1 else 0 }) :
    ∃ event, Does (view c.patterns) command event (view (command.apply c).patterns) ∧
      Counts event c (command.apply c) := by
  refine ⟨event, ?_, ?_⟩
  · rw [happly, hview]
    exact hdoes
  · rw [happly]
    exact ⟨rfl, rfl, rfl⟩

/-- A command does one of these things, and is counted. -/
theorem exists_does (hM : M.Spec view) (hpos : 0 < (view c.patterns).capacity)
    (command : Command E) : ∃ event,
      Does (view c.patterns) command event (view (command.apply c).patterns) ∧
        Counts event c (command.apply c) := by
  cases command with
  | get key =>
    cases hfind : (view c.patterns).find? key with
    | some p =>
      obtain ⟨patterns, hview, hget⟩ := get_of_found hM hfind
      exact exists_does_of_apply (.getFound hfind) hview (congrArg Prod.snd hget)
    | none =>
      obtain ⟨patterns, hview, hget⟩ := get_of_absent hM hfind
      exact exists_does_of_apply (.getAbsent hfind) hview (congrArg Prod.snd hget)
  | getOrCompile source =>
    cases hfind : (view c.patterns).find? source with
    | some p =>
      obtain ⟨patterns, hview, hget⟩ := getOrCompile_of_found hM hfind
      exact exists_does_of_apply (.found hfind) hview (congrArg Prod.snd hget)
    | none =>
      cases hcompile : E.compileAnchored source with
      | ok p =>
        obtain ⟨patterns, hview, hget⟩ := getOrCompile_of_compiled hM hpos hfind hcompile
        exact exists_does_of_apply (.compiled hfind hcompile) hview (congrArg Prod.snd hget)
      | error e =>
        obtain ⟨patterns, hview, hget⟩ := getOrCompile_of_refused hM hfind hcompile
        exact exists_does_of_apply (.refused hfind hcompile) hview (congrArg Prod.snd hget)
  | put key p => exact exists_does_of_apply (.stored key p) (hM.view_insert hpos key p) rfl
  | clear => exact exists_does_of_apply .cleared (hM.view_clear c.patterns) rfl

namespace Does

variable {r r' : RecentEntries E.Pattern} {command : Command E} {event : Event E}

/-- The room of a cache stays as it is. -/
theorem capacity_eq (h : Does r command event r') : r'.capacity = r.capacity := by
  cases h <;> rfl

/-- A command other than a clearing touches a key, or leaves the keys as they are. -/
theorem keys_eq (h : Does r command event r') (hcommand : command ≠ .clear) :
    r'.keys = r.keys ∨ ∃ key, r'.keys = touch r.capacity key r.keys := by
  cases h with
  | getFound | found | compiled | stored => exact .inr ⟨_, keys_put r _ _⟩
  | getAbsent | refused => exact .inl rfl
  | cleared => exact absurd rfl hcommand

end Does

/-! ## The log -/

/-- The keys touched since the last clearing, the last one first and as often as touched. -/
def touched : List (Event E) → List String
  | [] => []
  | .found key :: earlier => key :: touched earlier
  | .absent _ :: earlier => touched earlier
  | .compiled key _ :: earlier => key :: touched earlier
  | .stored key _ :: earlier => key :: touched earlier
  | .cleared :: _ => []

/-- The pattern that was last put under a key. -/
def lastStored (key : String) : List (Event E) → Option E.Pattern
  | [] => none
  | .compiled key' p :: earlier => if key' = key then some p else lastStored key earlier
  | .stored key' p :: earlier => if key' = key then some p else lastStored key earlier
  | .found _ :: earlier => lastStored key earlier
  | .absent _ :: earlier => lastStored key earlier
  | .cleared :: earlier => lastStored key earlier

/-- The `n` distinct keys touched last since the last clearing, or all if there are no more. -/
def recent (n : Nat) (log : List (Event E)) : List String := (touched log).eraseDups.take n

/-- The event that a command is for a cache of `n` patterns, after what has happened before. -/
def Command.event (n : Nat) : Command E → List (Event E) → Event E
  | .get key, log => if key ∈ recent n log then .found key else .absent key
  | .getOrCompile source, log =>
    if source ∈ recent n log then .found source
    else
      match E.compileAnchored source with
      | .ok p => .compiled source p
      | .error _ => .absent source
  | .put key p, _ => .stored key p
  | .clear, _ => .cleared

/-- What commands do to a cache of `n` patterns, from the empty one on, the last one first. -/
def logOf (n : Nat) (commands : List (Command E)) : List (Event E) :=
  commands.foldl (fun log command => command.event n log :: log) []

/-- Of keys that are told apart, dropping one can be done before the first ones are taken. -/
theorem take_filter_ne (key : String) {keys : List String} (h : keys.Nodup) (n : Nat) :
    ((keys.take (n + 1)).filter (· != key)).take n = (keys.filter (· != key)).take n := by
  induction keys generalizing n with
  | nil => simp
  | cons first rest ih =>
    obtain ⟨hfirst, hrest⟩ := List.nodup_cons.1 h
    rw [List.take_succ_cons]
    by_cases hpass : (first != key) = true
    · simp only [List.filter_cons_of_pos (p := (· != key)) hpass]
      cases n with
      | zero => rfl
      | succ n => rw [List.take_succ_cons, List.take_succ_cons, ih hrest]
    · -- The key stands in front, and not behind.
      obtain rfl : first = key := by simpa using hpass
      have hall {keys : List String} (hsub : keys ⊆ rest) : keys.filter (· != first) = keys :=
        List.filter_eq_self.2 fun k hk => bne_iff_ne.2 fun heq => hfirst (heq ▸ hsub hk)
      simp only [List.filter_cons_of_neg (p := (· != first)) hpass]
      rw [hall (List.take_subset n rest), hall (List.Subset.refl rest), List.take_take, min_self]

/-- No keys are the last ones where none has been touched. -/
theorem recent_of_touched_eq_nil {n : Nat} {log : List (Event E)} (h : touched log = []) :
    recent n log = [] := by
  rw [recent, h, List.eraseDups_nil, List.take_nil]

/-- The keys touched last after one more has been touched. -/
theorem recent_of_touched {n : Nat} (hn : 0 < n) {log log' : List (Event E)}
    (h : touched log' = key :: touched log) : recent n log' = touch n key (recent n log) := by
  obtain ⟨n, rfl⟩ : ∃ m, n = m + 1 := ⟨n - 1, by omega⟩
  unfold recent touch
  rw [h, List.eraseDups_cons]
  change (key :: ((touched log).filter (· != key)).eraseDups).take (n + 1) = _
  rw [Grouping.eraseDups_filter, List.take_succ_cons, List.take_succ_cons,
    take_filter_ne key (Grouping.nodup_eraseDups _)]

/-- Whether the entries of a cache of `n` patterns are what a log says. -/
structure Reflects (n : Nat) (r : RecentEntries E.Pattern) (log : List (Event E)) : Prop where
  /-- There is room for `n` patterns. -/
  capacity_eq : r.capacity = n
  /-- The keys are those touched last, in this order. -/
  keys_eq : r.keys = recent n log
  /-- Each pattern is the one last put under its key. -/
  bound : ∀ entry ∈ r.entries, lastStored entry.1 log = some entry.2

namespace Reflects

variable {n : Nat} {r r' : RecentEntries E.Pattern} {log : List (Event E)}

/-- The entries of an empty cache are those of nothing that has happened. -/
theorem nil (n : Nat) : Reflects (E := E) n (.empty n) [] :=
  ⟨rfl, (recent_of_touched_eq_nil rfl).symm, fun _ h => absurd h List.not_mem_nil⟩

/-- What is found is the pattern last put under the key, if the key is one of those touched last. -/
theorem find?_eq (h : Reflects n r log) (key : String) :
    r.find? key = if key ∈ recent n log then lastStored key log else none := by
  rw [← h.keys_eq]
  cases hfind : r.find? key with
  | none => rw [if_neg (find?_eq_none_iff.1 hfind)]
  | some p => rw [if_pos (mem_keys_of_find? hfind), h.bound _ (mem_of_find? hfind)]

/-- The event that a command is can be told from the log. -/
theorem event_eq (h : Reflects n r log) {command : Command E} {event : Event E}
    (hdoes : Does r command event r') : command.event n log = event := by
  have hthere {key : String} {p : E.Pattern} (hfind : r.find? key = some p) : key ∈ recent n log :=
    h.keys_eq ▸ mem_keys_of_find? hfind
  have hnot {key : String} (hfind : r.find? key = none) : key ∉ recent n log :=
    h.keys_eq ▸ find?_eq_none_iff.1 hfind
  cases hdoes with
  | getFound hfind | found hfind => exact if_pos (hthere hfind)
  | getAbsent hfind => exact if_neg (hnot hfind)
  | compiled hfind hcompile | refused hfind hcompile =>
    rw [Command.event, if_neg (hnot hfind), hcompile]
  | stored | cleared => rfl

/-- A pattern put in front is what the log says if it has the key touched and the pattern put there
last. -/
theorem put (h : Reflects n r log) (hn : 0 < n) {event : Event E}
    (htouched : touched (event :: log) = key :: touched log)
    (hlast : lastStored key (event :: log) = some p)
    (hother : ∀ key', key' ≠ key → lastStored key' (event :: log) = lastStored key' log) :
    Reflects n (r.put key p) (event :: log) := by
  refine ⟨h.capacity_eq, ?_, fun entry hentry => ?_⟩
  · rw [keys_put, h.capacity_eq, h.keys_eq, recent_of_touched hn htouched]
  · rcases List.mem_cons.1 (List.mem_of_mem_take hentry) with rfl | hold
    · exact hlast
    · obtain ⟨hmem, hne⟩ := List.mem_filter.1 hold
      rw [hother _ (bne_iff_ne.1 hne), h.bound _ hmem]

/-- A command does to the entries what it notes in the log. -/
theorem apply (h : Reflects n r log) (hn : 0 < n) {command : Command E} {event : Event E}
    (hdoes : Does r command event r') : Reflects n r' (event :: log) := by
  cases hdoes with
  | getFound hfind | found hfind =>
    exact h.put hn rfl (h.bound _ (mem_of_find? hfind)) fun _ _ => rfl
  | getAbsent | refused => exact ⟨h.capacity_eq, h.keys_eq, h.bound⟩
  | compiled | stored => exact h.put hn rfl (if_pos rfl) fun _ hne => if_neg (Ne.symm hne)
  | cleared =>
    exact ⟨h.capacity_eq, (recent_of_touched_eq_nil rfl).symm,
      fun _ h => absurd h List.not_mem_nil⟩

end Reflects

/-! ## Runs -/

/-- Whether a cache of `n` patterns is what a log says, its counts included. -/
structure Follows (view : M.State → RecentEntries E.Pattern) (n : Nat) (c : PatternCache E M)
    (log : List (Event E)) : Prop where
  /-- The cache says that it holds `n` patterns at most. -/
  capacity_eq : c.capacity = n
  /-- The entries are what the log says. -/
  entries : Reflects n (view c.patterns) log
  /-- The requests are counted. -/
  requests_eq : c.requests = log.countP Event.isRequest
  /-- The requests are counted that found nothing. -/
  misses_eq : c.misses = log.countP Event.isMiss

namespace Follows

variable {n : Nat} {log : List (Event E)}

/-- The empty cache is what is said by a log of nothing. -/
theorem ofCapacity (hM : M.Spec view) (capacity : Nat) :
    Follows (E := E) view (max capacity 1) (.ofCapacity capacity) [] :=
  ⟨rfl, hM.view_withCapacity (max capacity 1) (by omega) ▸ .nil _, rfl, rfl⟩

/-- A command does to the cache what it notes in the log. -/
theorem apply (h : Follows view n c log) (hM : M.Spec view) (hn : 0 < n) (command : Command E) :
    Follows view n (command.apply c) (command.event n log :: log) := by
  obtain ⟨event, hdoes, hcounts⟩ := exists_does hM (h.entries.capacity_eq ▸ hn) command
  rw [h.entries.event_eq hdoes]
  exact ⟨hcounts.capacity_eq.trans h.capacity_eq, h.entries.apply hn hdoes,
    by rw [hcounts.requests_eq, h.requests_eq, List.countP_cons],
    by rw [hcounts.misses_eq, h.misses_eq, List.countP_cons]⟩

/-- After any commands, a cache is what the log of them says. -/
theorem run (hM : M.Spec view) (capacity : Nat) (commands : List (Command E)) :
    Follows view (max capacity 1) (run M capacity commands) (logOf (max capacity 1) commands) := by
  exact List.foldl_rel (r := Follows view (max capacity 1)) (ofCapacity hM capacity)
    fun command _ _ _ h => h.apply hM (by omega) command

end Follows

/-- Whether a command asks for a pattern. -/
def Command.isRequest : Command E → Bool
  | .get _ | .getOrCompile _ => true
  | .put _ _ | .clear => false

/-- A command asks for a pattern exactly if the event that it is does. -/
theorem Command.isRequest_event (n : Nat) (command : Command E) (log : List (Event E)) :
    (command.event n log).isRequest = command.isRequest := by
  cases command with
  | get key =>
    rw [event]
    split <;> rfl
  | getOrCompile source =>
    rw [event]
    split
    · rfl
    · cases E.compileAnchored source <;> rfl
  | put key p => rfl
  | clear => rfl

/-- A log has as many requests as there are among the commands. -/
theorem countP_logOf (n : Nat) (commands : List (Command E)) :
    (logOf n commands).countP Event.isRequest = commands.countP Command.isRequest := by
  -- The last command is the first event of the log.
  induction commands using List.reverseRecOn with
  | nil => rfl
  | append_singleton commands command ih =>
    have hlog : logOf n (commands ++ [command]) =
        command.event n (logOf n commands) :: logOf n commands := List.foldl_append
    rw [hlog, List.countP_cons, Command.isRequest_event, ih, List.countP_append,
      List.countP_singleton]

/-- After any commands, a cache holds the patterns of the keys touched last since the last clearing,
as many as its capacity, which is at least one; a pattern is the one last put under its key, and is
found under it. Only the key touched least recently is ever dropped, other than by a clearing. All
requests are counted, and those that found nothing. A request for a text that is no pattern, with
nothing found under it, fails with what the engine reports, and leaves the patterns as they are, in
their order. -/
theorem run_keeps_recent (hM : M.Spec view) (capacity : Nat) (commands : List (Command E)) :
    let n := max capacity 1
    let c := run M capacity commands
    let log := logOf n commands
    let held := view c.patterns
    c.capacity = n ∧ held.keys = recent n log ∧ c.size = held.keys.length ∧ c.size ≤ n ∧
      (∀ entry ∈ held.entries, lastStored entry.1 log = some entry.2) ∧
      (∀ key, (c.get key).1 = if key ∈ recent n log then lastStored key log else none) ∧
      (∀ command : Command E, command ≠ .clear → ∀ key ∈ held.keys,
        key ∉ (view (command.apply c).patterns).keys → held.keys.getLast? = some key) ∧
      c.requests = commands.countP Command.isRequest ∧ c.misses = log.countP Event.isMiss ∧
      ∀ source report, source ∉ held.keys →
        E.compile (PatternEngine.anchored source) = .error report →
        ∃ patterns, view patterns = held ∧ c.getOrCompile source =
          (.error (.invalidPattern report),
            { c with patterns, requests := c.requests + 1, misses := c.misses + 1 }) := by
  intro n c log held
  have h : Follows view n c log := Follows.run hM capacity commands
  have hpos : 0 < held.capacity := by
    rw [h.entries.capacity_eq]
    exact Nat.lt_of_lt_of_le Nat.one_pos (Nat.le_max_right _ _)
  have hsize : c.size = held.keys.length :=
    (hM.size_eq c.patterns).trans (List.length_map Prod.fst).symm
  refine ⟨h.capacity_eq, h.entries.keys_eq, hsize, ?_, h.entries.bound, fun key => ?_,
    fun command hcommand key hmem hdropped => ?_, ?_, h.misses_eq,
    fun source report hsource hreport => ?_⟩
  · rw [hsize, ← h.entries.capacity_eq]
    exact held.length_keys_le
  · rw [get_fst hM c key, h.entries.find?_eq]
  · -- Only the touching of another key drops one.
    obtain ⟨event, hdoes, -⟩ := exists_does hM hpos command
    rcases hdoes.keys_eq hcommand with hkeys | ⟨touched, hkeys⟩
    · exact absurd (hkeys ▸ hmem) hdropped
    · exact getLast?_of_dropped held.length_keys_le hmem (hkeys ▸ hdropped)
  · rw [h.requests_eq, countP_logOf]
  · exact getOrCompile_of_refused hM (find?_eq_none_iff.2 hsource)
      (PatternEngine.compileAnchored_eq_error_iff.2 ⟨report, hreport, rfl⟩)

/-- A cache of two patterns: the second key is dropped when a third one comes, since the first one
has been touched in between, and a request for it finds nothing then. What cannot be read is one
more request and one more miss. -/
theorem run_keeps_recent_three_keys :
    let c := run (LruMap.ofLists Pattern.engine.Pattern) 2
      [.getOrCompile "a", .getOrCompile "b", .get "a", .getOrCompile "c", .get "b"]
    RecentEntries.keys c.patterns = ["c", "a"] ∧ c.requests = 5 ∧ c.misses = 4 ∧
      c.getOrCompile "(unclosed" =
        (.error (.invalidPattern "^(?:(unclosed)$"),
          { c with requests := c.requests + 1, misses := c.misses + 1 }) := by
  intro c
  obtain ⟨-, hkeys, -, -, -, -, -, hrequests, hmisses, hrefused⟩ :=
    run_keeps_recent (LruMap.ofLists_spec Pattern.engine.Pattern) 2
      [.getOrCompile "a", .getOrCompile "b", .get "a", .getOrCompile "c", .get "b"]
  have hrecent : RecentEntries.keys c.patterns = ["c", "a"] := hkeys.trans (by decide +kernel)
  have hfive : c.requests = 5 := hrequests
  have hfour : c.misses = 4 := hmisses.trans (by decide +kernel)
  have hnew : "(unclosed" ∉ RecentEntries.keys c.patterns := by
    rw [hrecent]
    decide
  obtain ⟨patterns, hview, hrun⟩ := hrefused "(unclosed" "^(?:(unclosed)$" hnew rfl
  obtain rfl : patterns = c.patterns := hview
  exact ⟨hrecent, hfive, hfour, hrun⟩

/-- A pattern put under a text that is no pattern itself is found there, and the text is not
read. -/
theorem getOrCompile_finds_unreadable :
    Pattern.engine.compileAnchored "(unclosed" = .error (.invalidPattern "^(?:(unclosed)$") ∧
      ∃ p, Pattern.engine.compileAnchored "a" = .ok p ∧
        let c := run (LruMap.ofLists Pattern.engine.Pattern) 2 [.put "(unclosed" p]
        (c.getOrCompile "(unclosed").1 = .ok p ∧ (c.getOrCompile "(unclosed").2.misses = 0 :=
  ⟨rfl, _, rfl, rfl, rfl⟩

end MetricAlgebra.PatternCache
