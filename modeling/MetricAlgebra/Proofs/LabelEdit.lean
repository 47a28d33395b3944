import MetricAlgebra.Pattern
import MetricAlgebra.Proofs.FiniteMap
import MetricAlgebra.Proofs.Selection

/-!
# Edits one after the other

`LabelEdit.Acts` says what an edit does to a map of names to values, one rule for each case, and
`LabelEdit.Runs` what a list of edits does to it, one after the other. Label sets, which are kept in
order of names, go through edits as their maps do (`LabelEdit.applyAll_eq_ok_iff`).

Edits fail for what they are and not for the labels that they meet
(`LabelEdit.applyAll_eq_error_iff`). This is why a family can be edited as a whole by some edits and
then by others, in place of sample by sample by all of them (`Family.relabel_bind`).
-/

namespace MetricAlgebra

variable {E : PatternEngine}

/-! ## Maps of labels -/

/-- The value of a map at a name. -/
def LabelMap.get? (m : LabelMap) (name : String) : Option String := m.entries.lookup name

/-- A pair of a list with distinct names is the one that is found at its name. -/
theorem LabelMap.lookup_eq_some_iff {entries : List (String × String)}
    (h : (entries.map Prod.fst).Nodup) {name value : String} :
    entries.lookup name = some value ↔ (name, value) ∈ entries := by
  induction entries with
  | nil => simp
  | cons entry rest ih =>
    obtain ⟨hnew, hrest⟩ := List.nodup_cons.1 h
    by_cases hname : name = entry.1
    · subst hname
      -- No pair behind the first one has its name.
      have hbehind : (entry.1, value) ∉ rest := fun hmem => hnew (List.mem_map.2 ⟨_, hmem, rfl⟩)
      simp [List.lookup, hbehind, Prod.ext_iff, eq_comm]
    · have hentry : (name, value) ≠ entry := fun heq => hname (congrArg Prod.fst heq)
      simp [List.lookup, beq_false_of_ne hname, ih hrest, hentry]

namespace LabelSet

/-- A set made of a map has the values of the map. -/
theorem get?_ofMap_eq (m : LabelMap) : (ofMap m).get? = m.get? := by
  refine funext fun name => Option.ext fun value => ?_
  rw [get?_ofMap, LabelMap.get?, LabelMap.lookup_eq_some_iff m.distinct]

/-- The map of a set has the values of the set. -/
theorem get?_toMap_eq (s : LabelSet) : s.toMap.get? = s.get? := by
  refine funext fun name => Option.ext fun value => ?_
  rw [LabelMap.get?, LabelMap.lookup_eq_some_iff s.toMap.distinct, mem_entries_toMap]

/-- Sets with the same values are the same. -/
theorem get?_inj {s t : LabelSet} : s.get? = t.get? ↔ s = t :=
  ⟨fun h => ext_get? (congrFun h), congrArg get?⟩

/-- A value put at a name, among the values of a set. -/
theorem get?_insert_eq (s : LabelSet) (name value : String) :
    (s.insert name value).get? = Function.update s.get? name (some value) := by
  funext other
  rw [get?_insert, Function.update_apply]

/-- A name dropped, among the values of a set. -/
theorem get?_erase_eq (s : LabelSet) (name : String) :
    (s.erase name).get? = Function.update s.get? name none := by
  funext other
  rw [get?_erase, Function.update_apply]

end LabelSet

/-- There are captures of a pattern exactly if it matches somewhere. -/
theorem Pattern.engine_searchSpec : Pattern.engine.SearchSpec := by
  refine ⟨fun p text => ?_⟩
  show (captures? p text).isSome = isMatch p text
  unfold captures? isMatch
  dsimp only
  cases p.node.isMatch text.toList.toArray <;> rfl

/-! ## What edits do -/

namespace LabelEdit

/-- What an edit does to a map of names to values, with the patterns of an engine. -/
inductive Acts (E : PatternEngine) :
    LabelEdit → (String → Option String) → (String → Option String) → Prop where
  /-- The value stands at the name, whatever stood there. -/
  | set (name value : String) (m : String → Option String) :
      Acts E (.set name value) m (Function.update m name (some value))
  /-- The name has no value any more. -/
  | remove (name : String) (m : String → Option String) :
      Acts E (.remove name) m (Function.update m name none)
  /-- A value that is there leaves its name, and stands at the other. -/
  | rename {source target value : String} {m : String → Option String}
      (h : m source = some value) :
      Acts E (.rename source target) m
        (Function.update (Function.update m source none) target (some value))
  /-- Nothing is moved from a name without a value. -/
  | renameNothing {source target : String} {m : String → Option String} (h : m source = none) :
      Acts E (.rename source target) m m
  /-- A value that is there stands at the other name too. -/
  | copy {source target value : String} {m : String → Option String} (h : m source = some value) :
      Acts E (.copy source target) m (Function.update m target (some value))
  /-- Nothing is copied from a name without a value. -/
  | copyNothing {source target : String} {m : String → Option String} (h : m source = none) :
      Acts E (.copy source target) m m
  /-- The pattern for whole texts matches the value, or else the empty text, and the template with
  what the groups have matched stands at the other name. -/
  | replace {source pattern template target : String} {m : String → Option String} {p : E.Pattern}
      {captures : E.Captures} (hp : E.compileAnchored pattern = .ok p)
      (h : E.captures? p ((m source).getD "") = some captures) :
      Acts E (.replace source pattern template target) m
        (Function.update m target (some (E.expand captures template)))
  /-- The pattern for whole texts does not match the value, or else the empty text. -/
  | replaceNothing {source pattern template target : String} {m : String → Option String}
      {p : E.Pattern} (hp : E.compileAnchored pattern = .ok p)
      (h : E.isMatch p ((m source).getD "") = false) :
      Acts E (.replace source pattern template target) m m

/-- What a list of edits does to a map of names to values, the first edit first. -/
inductive Runs (E : PatternEngine) :
    List LabelEdit → (String → Option String) → (String → Option String) → Prop where
  /-- No edits change nothing. -/
  | nil (m : String → Option String) : Runs E [] m m
  /-- The rest of the edits go on with what the first one has left. -/
  | cons {edit : LabelEdit} {edits : List LabelEdit} {m m' m'' : String → Option String}
      (h : edit.Acts E m m') (hs : Runs E edits m' m'') : Runs E (edit :: edits) m m''

/-- Whether an edit is refused, and the failure that reports it: its text makes no pattern for whole
texts. -/
inductive Refused (E : PatternEngine) : LabelEdit → Error → Prop where
  /-- A text that is no pattern between anchors is reported as the engine does. -/
  | replace {source pattern template target report : String}
      (h : E.compile (PatternEngine.anchored pattern) = .error report) :
      Refused E (.replace source pattern template target) (.invalidPattern report)

/-- A replacement depends on the labels only once its pattern is read. -/
theorem apply_replace (source pattern template target : String) (s : LabelSet) :
    (replace source pattern template target).apply E s =
      (E.compileAnchored pattern).map fun p =>
        match E.captures? p (s.getD source) with
        | some captures => s.insert target (E.expand captures template)
        | none => s := by
  simp only [apply]
  cases E.compileAnchored pattern with
  | error e => rfl
  | ok p =>
    show (match E.captures? p (s.getD source) with
      | some captures => Except.ok (s.insert target (E.expand captures template))
      | none => Except.ok s) = _
    cases hc : E.captures? p (s.getD source) <;> simp only [Except.map, hc]

/-- A change of a label set is one of its values. -/
theorem acts_of_apply (hE : E.SearchSpec) {edit : LabelEdit} {s t : LabelSet}
    (h : edit.apply E s = .ok t) : edit.Acts E s.get? t.get? := by
  cases edit with
  | set name value =>
    obtain rfl := Except.ok.inj h
    rw [LabelSet.get?_insert_eq]
    exact .set ..
  | remove name =>
    obtain rfl := Except.ok.inj h
    rw [LabelSet.get?_erase_eq]
    exact .remove ..
  | rename source target =>
    cases hs : s.get? source with
    | some value =>
      simp only [apply, hs] at h
      obtain rfl := Except.ok.inj h
      rw [LabelSet.get?_insert_eq, LabelSet.get?_erase_eq]
      exact .rename hs
    | none =>
      simp only [apply, hs] at h
      obtain rfl := Except.ok.inj h
      exact .renameNothing hs
  | copy source target =>
    cases hs : s.get? source with
    | some value =>
      simp only [apply, hs] at h
      obtain rfl := Except.ok.inj h
      rw [LabelSet.get?_insert_eq]
      exact .copy hs
    | none =>
      simp only [apply, hs] at h
      obtain rfl := Except.ok.inj h
      exact .copyNothing hs
  | replace source pattern template target =>
    obtain ⟨p, hp, -⟩ := Family.exists_ok_of_bind h
    rw [apply_replace, hp] at h
    obtain rfl := Except.ok.inj h
    dsimp only
    cases hc : E.captures? p (s.getD source) with
    | some captures =>
      rw [LabelSet.get?_insert_eq]
      exact .replace hp hc
    | none => exact .replaceNothing hp (hE.captures?_eq_none_iff.1 hc)

/-- A change of the values of a label set is one of the set. -/
theorem Acts.exists_apply (hE : E.SearchSpec) {edit : LabelEdit} {s : LabelSet}
    {m : String → Option String} (h : edit.Acts E s.get? m) :
    ∃ t, edit.apply E s = .ok t ∧ t.get? = m := by
  generalize hs : s.get? = before at h
  cases h with
  | set name value => exact ⟨_, rfl, by rw [LabelSet.get?_insert_eq, hs]⟩
  | remove name => exact ⟨_, rfl, by rw [LabelSet.get?_erase_eq, hs]⟩
  | @rename source target value _ h =>
    refine ⟨(s.erase source).insert target value, by simp only [apply, hs, h], ?_⟩
    rw [LabelSet.get?_insert_eq, LabelSet.get?_erase_eq, hs]
  | @copy source target value _ h =>
    refine ⟨s.insert target value, by simp only [apply, hs, h], ?_⟩
    rw [LabelSet.get?_insert_eq, hs]
  | renameNothing h | copyNothing h => exact ⟨s, by simp only [apply, hs, h], hs⟩
  | @replace source pattern template target _ p captures hp h =>
    have hc : E.captures? p (s.getD source) = some captures := by
      rw [LabelSet.getD, hs, h]
    refine ⟨s.insert target (E.expand captures template), ?_, ?_⟩
    · simp only [apply_replace, hp, Except.map, hc]
    · rw [LabelSet.get?_insert_eq, hs]
  | @replaceNothing source pattern template target _ p hp h =>
    have hc : E.captures? p (s.getD source) = none := by
      rw [LabelSet.getD, hs, hE.captures?_eq_none_iff, h]
    exact ⟨s, by simp only [apply_replace, hp, Except.map, hc], hs⟩

/-- The first edit is made before the others. -/
theorem applyAll_cons (edit : LabelEdit) (edits : List LabelEdit) (s : LabelSet) :
    applyAll E (edit :: edits) s = edit.apply E s >>= applyAll E edits := List.foldlM_cons

/-- The edits of a list are made before those of a list behind it. -/
theorem applyAll_append (first second : List LabelEdit) :
    applyAll E (first ++ second) = fun s => applyAll E first s >>= applyAll E second :=
  funext fun _ => List.foldlM_append

/-- Label sets go through edits as their values do. -/
theorem applyAll_eq_ok_iff (hE : E.SearchSpec) {edits : List LabelEdit} {s t : LabelSet} :
    applyAll E edits s = .ok t ↔ Runs E edits s.get? t.get? := by
  -- Every map that an edit leaves of a label set is that of another label set, from which the rest
  -- of the edits go on.
  induction edits generalizing s with
  | nil =>
    constructor
    · intro h
      obtain rfl := Except.ok.inj h
      exact .nil _
    · intro h
      generalize hs : s.get? = before at h
      cases h
      rw [LabelSet.get?_inj.1 hs]
      rfl
  | cons edit edits ih =>
    rw [applyAll_cons]
    constructor
    · intro h
      obtain ⟨s', hs', h⟩ := Family.exists_ok_of_bind h
      exact .cons (acts_of_apply hE hs') (ih.1 h)
    · intro h
      cases h with
      | cons hfirst hrest =>
        obtain ⟨s', hs', rfl⟩ := hfirst.exists_apply hE
        rw [hs']
        exact ih.2 hrest

/-- An edit fails exactly if it is refused. -/
theorem apply_eq_error_iff {edit : LabelEdit} {s : LabelSet} {e : Error} :
    edit.apply E s = .error e ↔ edit.Refused E e := by
  cases edit with
  | set name value | remove name => exact iff_of_false nofun nofun
  | rename source target | copy source target =>
    -- With a value at the first name or without one, there is no failure.
    refine iff_of_false (fun h => ?_) nofun
    cases hs : s.get? source <;> simp only [apply, hs] at h <;> cases h
  | replace source pattern template target =>
    have hrefused : (replace source pattern template target).Refused E e ↔
        E.compileAnchored pattern = .error e := by
      rw [PatternEngine.compileAnchored_eq_error_iff]
      constructor
      · rintro ⟨h⟩
        exact ⟨_, h, rfl⟩
      · rintro ⟨report, h, rfl⟩
        exact .replace h
    rw [hrefused, apply_replace]
    exact map_eq_error_iff

/-- Edits fail with the failure of the first one that is refused, whatever the labels are. -/
theorem applyAll_eq_error_iff {edits : List LabelEdit} {s : LabelSet} {e : Error} :
    applyAll E edits s = .error e ↔ FirstFailure (Refused E) edits e := by
  have hstep : ∀ s edit e, LabelEdit.apply E edit s = .error e ↔ Refused E edit e :=
    fun _ _ _ => apply_eq_error_iff
  exact foldlM_eq_error_iff hstep s

/-- Edits fail for all labels alike. -/
theorem uniform_applyAll (E : PatternEngine) (edits : List LabelEdit) :
    Uniform (applyAll E edits) :=
  .of_eq_error_iff fun _ _ => applyAll_eq_error_iff

/-- A value that is moved to where it is stays there. -/
theorem applyAll_rename_self (hE : E.SearchSpec) (name : String) :
    applyAll E [.rename name name] = fun s => .ok s := by
  refine funext fun s => (applyAll_eq_ok_iff hE).2 (.cons ?_ (.nil _))
  cases hs : s.get? name with
  | none => exact .renameNothing hs
  | some value =>
    have hsame : Function.update (Function.update s.get? name none) name (some value) = s.get? := by
      rw [Function.update_idem, ← hs, Function.update_eq_self]
    have hmoved : (rename name name).Acts E s.get? _ := .rename hs
    rwa [hsame] at hmoved

end LabelEdit

/-! ## Edits of samples -/

/-- The sample with its labels changed. -/
def Sample.relabel (change : LabelSet → Except Error LabelSet) (s : Sample) :
    Except Error Sample :=
  (change s.labels).map s.withLabels

/-- Two changes can be made to a sample one after the other. -/
theorem Sample.relabel_bind (first second : LabelSet → Except Error LabelSet) :
    Sample.relabel (fun labels => first labels >>= second) =
      fun s => s.relabel first >>= Sample.relabel second := by
  funext s
  simp only [Sample.relabel]
  cases first s.labels <;> rfl

/-- A change that fails for all labels alike fails for all samples alike. -/
theorem Uniform.relabel {change : LabelSet → Except Error LabelSet} (h : Uniform change) :
    Uniform (Sample.relabel change) := h.map_comp Sample.labels Sample.withLabels

namespace LabelEdit

/-- Whether a sample is what edits make of another: it has the instant and the value of the other,
and the labels of the map that the edits leave of the other's map of labels. -/
structure Edited (E : PatternEngine) (edits : List LabelEdit) (s t : Sample) : Prop where
  /-- The instant has stayed. -/
  timestamp : t.timestamp = s.timestamp
  /-- The value has stayed. -/
  value : t.value = s.value
  /-- The labels are those of the map that is left, and of no other map. -/
  labels : ∀ m : LabelMap, Runs E edits s.labels.toMap.get? m.get? ↔ LabelSet.ofMap m = t.labels

/-- The sample with edited labels is the one that the edits make. -/
theorem relabel_eq_ok_iff (hE : E.SearchSpec) {edits : List LabelEdit} {s t : Sample} :
    s.relabel (applyAll E edits) = .ok t ↔ Edited E edits s t := by
  -- Maps that the edits leave, in whatever order of entries, make the one label set.
  have hlabels : ∀ m : LabelMap, Runs E edits s.labels.toMap.get? m.get? ↔
      applyAll E edits s.labels = .ok (.ofMap m) := fun m => by
    rw [applyAll_eq_ok_iff hE, LabelSet.get?_toMap_eq, LabelSet.get?_ofMap_eq]
  unfold Sample.relabel
  constructor
  · intro h
    cases hall : applyAll E edits s.labels with
    | error e =>
      rw [hall] at h
      cases h
    | ok labels =>
      rw [hall] at h
      obtain rfl := Except.ok.inj h
      refine ⟨rfl, rfl, fun m => ?_⟩
      rw [hlabels, hall, Except.ok.injEq, eq_comm]
      rfl
  · rintro ⟨htimestamp, hvalue, hmap⟩
    -- The labels are those of their own map, which is therefore the one that is left.
    have hself : LabelSet.ofMap t.labels.toMap = t.labels :=
      LabelSet.ofMap_eq_of_perm (List.Perm.refl _)
    have hall := (hlabels t.labels.toMap).1 ((hmap t.labels.toMap).2 hself)
    rw [hall, hself]
    show Except.ok (s.withLabels t.labels) = Except.ok t
    rw [Sample.withLabels, ← htimestamp, ← hvalue]

end LabelEdit

/-! ## Edits of families -/

namespace Family

/-- The samples of a list are relabelled one by one. -/
theorem relabel_ofSamples (context : Context) (samples : List Sample)
    (change : LabelSet → Except Error LabelSet) :
    (ofSamples context samples).relabel change =
      (samples.mapM (Sample.relabel change)).map (ofSamples context) := by
  cases samples <;> rfl

/-- Relabelling with no change leaves a family as it is. -/
theorem relabel_ok (f : Family) : (f.relabel fun labels => .ok labels) = .ok f := by
  obtain ⟨context, samples, rfl⟩ := exists_eq_ofSamples f
  have hmade : samples.mapM (Sample.relabel fun labels => .ok labels) = .ok samples :=
    mapM_eq_ok_iff.2 (List.forall₂_same.2 fun _ _ => rfl)
  rw [relabel_ofSamples, hmade]
  rfl

/-- A change that fails for all labels alike can be made to a whole family before another one is. -/
theorem relabel_bind (f : Family) {first : LabelSet → Except Error LabelSet}
    (hfirst : Uniform first) (second : LabelSet → Except Error LabelSet) :
    (f.relabel fun labels => first labels >>= second) =
      f.relabel first >>= fun g => g.relabel second := by
  obtain ⟨context, samples, rfl⟩ := exists_eq_ofSamples f
  -- Sample by sample, a failure of the second change can come before one of the first; but a first
  -- change that fails does so at the first sample already.
  calc (ofSamples context samples).relabel (fun labels => first labels >>= second)
      = (samples.mapM fun s => Sample.relabel first s >>= Sample.relabel second).map
          (ofSamples context) := by
        rw [relabel_ofSamples, Sample.relabel_bind]
    _ = (samples.mapM (Sample.relabel first) >>= fun made =>
          made.mapM (Sample.relabel second)).map (ofSamples context) := by
        rw [hfirst.relabel.mapM_bind]
    _ = (ofSamples context samples).relabel first >>= fun g => g.relabel second := by
        rw [relabel_ofSamples]
        cases samples.mapM (Sample.relabel first) with
        | error e => rfl
        | ok made => exact (relabel_ofSamples context made second).symm

/-- The samples of a batch are edited one by one. -/
theorem edit_populated (E : PatternEngine) (batch : Batch) (edits : List LabelEdit) :
    (populated batch).edit E edits =
      (batch.samples.mapM (Sample.relabel (LabelEdit.applyAll E edits))).map
        (ofSamples batch.context) := by
  rw [populated_eq_ofSamples, edit, relabel_ofSamples]

/-- A batch that is edited is again a batch, of as many samples in the same order and under the same
context, each the one that the edits make of the sample in its place. -/
theorem edit_populated_eq_ok_iff (hE : E.SearchSpec) {batch : Batch} {edits : List LabelEdit}
    {g : Family} :
    (populated batch).edit E edits = .ok g ↔ ∃ made h,
      g = populated ⟨made, batch.context, h⟩ ∧
        List.Forall₂ (LabelEdit.Edited E edits) batch.samples made := by
  have hmade : ∀ made,
      batch.samples.mapM (Sample.relabel (LabelEdit.applyAll E edits)) = .ok made ↔
        List.Forall₂ (LabelEdit.Edited E edits) batch.samples made := fun made => by
    simp only [mapM_eq_ok_iff, LabelEdit.relabel_eq_ok_iff hE]
  rw [edit_populated]
  constructor
  · intro h
    obtain ⟨made, hall, h⟩ := exists_ok_of_bind h
    have hedited := (hmade made).1 hall
    have hne : made ≠ [] := by
      rintro rfl
      exact batch.nonempty (List.forall₂_nil_right_iff.1 hedited)
    refine ⟨made, hne, ?_, hedited⟩
    rw [populated_eq_ofSamples]
    exact (Except.ok.inj h).symm
  · rintro ⟨made, hne, rfl, hedited⟩
    rw [(hmade made).2 hedited, populated_eq_ofSamples]
    rfl

/-- A batch is not edited exactly if an edit is refused, and the failure is that of the first one
that is. -/
theorem edit_populated_eq_error_iff {batch : Batch} {edits : List LabelEdit} {e : Error} :
    (populated batch).edit E edits = .error e ↔ FirstFailure (LabelEdit.Refused E) edits e := by
  -- There is a sample, and edits fail for it as for all.
  obtain ⟨s, hs⟩ := List.exists_mem_of_ne_nil _ batch.nonempty
  calc (populated batch).edit E edits = .error e
      ↔ batch.samples.mapM (Sample.relabel (LabelEdit.applyAll E edits)) = .error e := by
        rw [edit_populated, map_eq_error_iff]
    _ ↔ s.relabel (LabelEdit.applyAll E edits) = .error e :=
        (LabelEdit.uniform_applyAll E edits).relabel.mapM_eq_error_iff hs
    _ ↔ LabelEdit.applyAll E edits s.labels = .error e := map_eq_error_iff
    _ ↔ FirstFailure (LabelEdit.Refused E) edits e := LabelEdit.applyAll_eq_error_iff

/-- Edits compose. The edits of two lists put together do what those of the first do and then those
of the second, failures included, and no edits leave a family as it is; so does a label that is
moved to where it is. No data stay no data, whatever the edits. Of a batch edits make a batch of as
many samples, each what they make of the sample in its place, unless an edit is refused; then they
fail, with the failure of the first one that is. -/
theorem edits_compose {E : PatternEngine} (hE : E.SearchSpec) :
    (∀ (f : Family) (first second : List LabelEdit),
      f.edit E (first ++ second) = f.edit E first >>= fun g => g.edit E second) ∧
    (∀ f : Family, f.edit E [] = .ok f) ∧
    (∀ (f : Family) (name : String), f.edit E [.rename name name] = .ok f) ∧
    (∀ edits, empty.edit E edits = .ok empty) ∧
    (∀ batch edits g, (populated batch).edit E edits = .ok g ↔ ∃ made h,
      g = populated ⟨made, batch.context, h⟩ ∧
        List.Forall₂ (LabelEdit.Edited E edits) batch.samples made) ∧
    ∀ batch edits e, (populated batch).edit E edits = .error e ↔
      FirstFailure (LabelEdit.Refused E) edits e := by
  refine ⟨fun f first second => ?_, relabel_ok, fun f name => ?_, fun _ => rfl,
    fun _ _ _ => edit_populated_eq_ok_iff hE, fun _ _ _ => edit_populated_eq_error_iff⟩
  · rw [edit, LabelEdit.applyAll_append]
    exact relabel_bind f (LabelEdit.uniform_applyAll E first) (LabelEdit.applyAll E second)
  · rw [edit, LabelEdit.applyAll_rename_self hE]
    exact relabel_ok f

/-- What a group has matched is put at a name, and the value that it is taken from is dropped, in
one step or two; and a text that is no pattern between anchors is reported. -/
theorem edits_compose_split_host :
    let f := populated ⟨[⟨.ofPairs [("host", "a-1")], 1000, 3.0⟩], {}, by simp⟩
    let split : LabelEdit := .replace "host" "(.)-(.)" "$2" "unit"
    let g := populated ⟨[⟨.ofPairs [("unit", "1")], 1000, 3.0⟩], {}, by simp⟩
    (f.edit Pattern.engine [split] >>= fun h => h.edit Pattern.engine [.remove "host"]) = .ok g ∧
      f.edit Pattern.engine [split, .replace "host" "(" "" "unit"] =
        .error (.invalidPattern "^(?:()$") := by
  intro f split g
  obtain ⟨hcompose, -, -, -, -, herror⟩ := edits_compose Pattern.engine_searchSpec
  constructor
  · obtain ⟨p, hp, hfilled⟩ : ∃ p, Pattern.engine.compileAnchored "(.)-(.)" = .ok p ∧
        (Pattern.engine.captures? p "a-1").map (Pattern.engine.expand · "$2") = some "1" :=
      ⟨_, rfl, by decide +kernel⟩
    obtain ⟨captures, hfound, hexpand⟩ := Option.map_eq_some_iff.1 hfilled
    let labels : LabelSet := .ofPairs [("host", "a-1")]
    have hvalue : labels.getD "host" = "a-1" := by cbv
    have hsplit : split.apply Pattern.engine labels = .ok (labels.insert "unit" "1") := by
      rw [LabelEdit.apply_replace, hp, hvalue]
      simp only [Except.map, hfound, hexpand]
    have hremove : (labels.insert "unit" "1").erase "host" = .ofPairs [("unit", "1")] := by
      decide +kernel
    have hall : LabelEdit.applyAll Pattern.engine [split, .remove "host"] labels =
        .ok (.ofPairs [("unit", "1")]) := by
      rw [LabelEdit.applyAll_cons, hsplit, ← hremove]
      rfl
    rw [← hcompose f [split] [.remove "host"], List.singleton_append, edit_populated,
      List.mapM_cons, Sample.relabel, hall]
    rfl
  · have hsplit : ∀ e,
        ¬ LabelEdit.Refused Pattern.engine (.replace "host" "(.)-(.)" "$2" "unit") e := by
      rintro e ⟨h⟩
      cases h
    exact (herror _ _ _).2 (.tail hsplit (.head (.replace rfl)))

end Family

end MetricAlgebra
