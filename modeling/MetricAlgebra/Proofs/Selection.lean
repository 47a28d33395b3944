import MetricAlgebra.Proofs.Failure
import MetricAlgebra.Proofs.GroupBy
import MetricAlgebra.Proofs.PatternEngine

/-!
# Selection by labels

The arguments of a label filter are pairs of a name and a text. `LabelComparison.Selects` says what
one pair asks of a sample, without tests that are made first, and a filter keeps the samples that
all of its pairs select (`Family.matchLabels_selects`). So the pairs of two filters can be put into
one, and the order of the pairs does not count.

Arguments are refused for what they are, whatever the family: because they do not go by twos, or
else for the first text that should be a pattern and is none (`Family.matchLabels_eq_error_iff`).
-/

namespace MetricAlgebra

variable {E : PatternEngine}

/-! ## Comparisons -/

namespace LabelComparison

/-- Whether a value stands in the relation to a text that the comparison asks for. -/
def Holds (E : PatternEngine) : LabelComparison → String → String → Prop
  | equal, text, value => value = text
  | notEqual, text, value => value ≠ text
  | fits, text, value => ∃ p, E.compileAnchored text = .ok p ∧ E.isMatch p value = true
  | fitsNot, text, value => ∃ p, E.compileAnchored text = .ok p ∧ E.isMatch p value = false

/-- Whether a sample has the label of a name, with a value that stands in the relation to a text. -/
def Selects (E : PatternEngine) (op : LabelComparison) (name text : String) (s : Sample) : Prop :=
  ∃ value, s.label? name = some value ∧ op.Holds E text value

/-- Whether a text cannot be compared with, and the failure that reports it: it should be a pattern
for whole texts, and is none, for the reason that the engine reports. -/
def Refuses (E : PatternEngine) (op : LabelComparison) (text : String) (e : Error) : Prop :=
  op.isPattern = true ∧
    ∃ report, E.compile (PatternEngine.anchored text) = .error report ∧ e = .invalidPattern report

/-- The test that a text makes passes the values that stand in the relation to the text. -/
theorem holds_test_iff {op : LabelComparison} {text : String} {test : LabelTest E}
    (h : op.test E text = .ok test) (value : String) :
    test.holds value = true ↔ op.Holds E text value := by
  cases op with
  | equal =>
    obtain rfl := Except.ok.inj h
    exact beq_iff_eq
  | notEqual =>
    obtain rfl := Except.ok.inj h
    exact bne_iff_ne
  | fits | fitsNot =>
    unfold LabelComparison.test at h
    cases hp : E.compileAnchored text with
    | error e =>
      rw [hp] at h
      cases h
    | ok p =>
      rw [hp] at h
      obtain rfl := Except.ok.inj h
      simp [LabelTest.holds, Holds, hp]

/-- A text makes no test exactly if it is refused. -/
theorem test_eq_error_iff {op : LabelComparison} {text : String} {e : Error} :
    op.test E text = .error e ↔ op.Refuses E text e := by
  unfold Refuses
  rw [← PatternEngine.compileAnchored_eq_error_iff]
  cases op with
  | equal | notEqual => exact iff_of_false nofun nofun
  | fits | fitsNot =>
    unfold LabelComparison.test
    cases E.compileAnchored text with
    | error e' => simp [Except.map, isPattern]
    | ok p => exact iff_of_false nofun fun h => nomatch h.2

end LabelComparison

/-! ## Arguments -/

namespace LabelFilter

/-- The filter that a pair of a name and a text makes. -/
def ofPair (E : PatternEngine) (op : LabelComparison) (pair : String × String) :
    Except Error (LabelFilter E) :=
  (op.test E pair.2).map fun test => ⟨pair.1, test⟩

/-- Whether arguments are refused, and the failure that reports it. -/
inductive Refused (E : PatternEngine) (op : LabelComparison) (arguments : List String) :
    Error → Prop where
  /-- The number of arguments is odd, whatever they are. -/
  | odd (h : arguments.length % 2 = 1) :
      Refused E op arguments (.oddLabelArguments arguments.length)
  /-- The arguments go by twos, and the failure is that of the first text that is refused. -/
  | text {e : Error} (h : arguments.length % 2 = 0)
      (he : FirstFailure (fun pair e => op.Refuses E pair.2 e) (pairUp arguments) e) :
      Refused E op arguments e

/-- Arguments that go by twos make a filter of each pair. -/
theorem ofArguments_of_even {op : LabelComparison} {arguments : List String}
    (h : arguments.length % 2 = 0) :
    ofArguments E op arguments = (pairUp arguments).mapM (ofPair E op) := by
  unfold ofArguments
  rw [if_neg (not_not.2 h)]
  rfl

/-- Arguments that do not go by twos are reported with their number. -/
theorem ofArguments_of_odd {op : LabelComparison} {arguments : List String}
    (h : arguments.length % 2 = 1) :
    ofArguments E op arguments = .error (.oddLabelArguments arguments.length) := by
  unfold ofArguments
  rw [if_pos (by omega)]

/-- The pairs of two lists that go by twos are those of the lists one behind the other. -/
theorem pairUp_append {first : List String} (h : first.length % 2 = 0) (second : List String) :
    pairUp (first ++ second) = pairUp first ++ pairUp second := by
  fun_induction pairUp first with
  | case1 name text rest ih =>
    have hrest : rest.length % 2 = 0 := by
      simp only [List.length_cons] at h
      omega
    show (name, text) :: pairUp (rest ++ second) = (name, text) :: (pairUp rest ++ pairUp second)
    rw [ih hrest]
  | case2 short hshort =>
    -- Less than two arguments that go by twos are none.
    cases short with
    | nil => rfl
    | cons name rest =>
      cases rest with
      | nil => simp at h
      | cons text rest => exact absurd rfl (hshort name text rest)

/-- Two lists that go by twos make the filters of both, those of the first list first. -/
theorem ofArguments_append (E : PatternEngine) (op : LabelComparison)
    {first second : List String} (hfirst : first.length % 2 = 0) (hsecond : second.length % 2 = 0) :
    ofArguments E op (first ++ second) = (do
      let filters ← ofArguments E op first
      let filters' ← ofArguments E op second
      pure (filters ++ filters')) := by
  have hboth : (first ++ second).length % 2 = 0 := by
    rw [List.length_append]
    omega
  rw [ofArguments_of_even hboth, ofArguments_of_even hfirst, ofArguments_of_even hsecond,
    pairUp_append hfirst, List.mapM_append]

/-- A pair makes no filter exactly if its text is refused. -/
theorem ofPair_eq_error_iff {op : LabelComparison} {pair : String × String} {e : Error} :
    ofPair E op pair = .error e ↔ op.Refuses E pair.2 e := by
  rw [← LabelComparison.test_eq_error_iff]
  exact map_eq_error_iff

/-- Arguments make no filters exactly if they are refused. -/
theorem ofArguments_eq_error_iff {op : LabelComparison} {arguments : List String} {e : Error} :
    ofArguments E op arguments = .error e ↔ Refused E op arguments e := by
  rcases Nat.mod_two_eq_zero_or_one arguments.length with heven | hodd
  · rw [ofArguments_of_even heven, mapM_eq_error_iff]
    simp only [ofPair_eq_error_iff]
    refine ⟨.text heven, fun h => ?_⟩
    cases h with
    | odd h => omega
    | text _ he => exact he
  · rw [ofArguments_of_odd hodd]
    constructor
    · intro h
      obtain rfl := Except.error.inj h
      exact .odd hodd
    · intro h
      cases h with
      | odd _ => rfl
      | text h _ => omega

/-- The filters that arguments make accept the samples that all pairs select. -/
theorem all_accept_iff_selects {op : LabelComparison} {pairs : List (String × String)}
    {filters : List (LabelFilter E)} (h : pairs.mapM (ofPair E op) = .ok filters) (s : Sample) :
    (filters.all fun filter => filter.accepts s) = true ↔
      ∀ pair ∈ pairs, op.Selects E pair.1 pair.2 s := by
  have hmade := Family.forall₂_of_mapM h
  clear h
  induction hmade with
  | nil => simp
  | @cons pair filter pairs filters hfilter _ ih =>
    have haccepts : filter.accepts s = true ↔ op.Selects E pair.1 pair.2 s := by
      unfold ofPair at hfilter
      cases htest : op.test E pair.2 with
      | error e =>
        rw [htest] at hfilter
        cases hfilter
      | ok test =>
        rw [htest] at hfilter
        obtain rfl := Except.ok.inj hfilter
        simp [accepts, LabelComparison.Selects, Option.any_eq_true,
          LabelComparison.holds_test_iff htest]
    rw [List.all_cons, Bool.and_eq_true, List.forall_mem_cons]
    exact and_congr haccepts ih

end LabelFilter

/-! ## Families -/

namespace Family

/-- Every family is that of a list of samples. -/
theorem exists_eq_ofSamples (f : Family) : ∃ context samples, f = ofSamples context samples := by
  cases f with
  | empty => exact ⟨{}, [], rfl⟩
  | populated batch => exact ⟨batch.context, batch.samples, populated_eq_ofSamples batch⟩

/-- What passes one test and then another passes both. -/
theorem filter_filter (f : Family) (keep keep' : Sample → Bool) :
    (f.filter keep).filter keep' = f.filter fun s => keep s && keep' s := by
  obtain ⟨context, samples, rfl⟩ := exists_eq_ofSamples f
  simp only [filter_ofSamples, List.filter_filter, Bool.and_comm]

/-- Arguments that make filters leave the samples that all of the filters accept. -/
theorem matchLabels_of_ok {op : LabelComparison} {arguments : List String}
    {filters : List (LabelFilter E)} (h : LabelFilter.ofArguments E op arguments = .ok filters)
    (f : Family) : f.matchLabels E op arguments =
      .ok (f.filter fun s => filters.all fun filter => filter.accepts s) := by
  unfold matchLabels
  rw [h]
  rfl

/-- Whether a selection fails, and how, is told by its arguments. -/
theorem matchLabels_eq_error_iff {f : Family} {op : LabelComparison} {arguments : List String}
    {e : Error} :
    f.matchLabels E op arguments = .error e ↔ LabelFilter.Refused E op arguments e := by
  rw [← LabelFilter.ofArguments_eq_error_iff]
  exact map_eq_error_iff

/-- A selection that succeeds keeps the samples that all pairs select. -/
theorem matchLabels_selects {f g : Family} {op : LabelComparison} {arguments : List String}
    (h : f.matchLabels E op arguments = .ok g) :
    ∃ keep : Sample → Bool, g = f.filter keep ∧ ∀ s, keep s = true ↔
      ∀ pair ∈ LabelFilter.pairUp arguments, op.Selects E pair.1 pair.2 s := by
  obtain ⟨filters, hfilters, hg⟩ := exists_ok_of_bind h
  obtain rfl := Except.ok.inj hg
  have heven : arguments.length % 2 = 0 := by
    by_contra hodd
    rw [LabelFilter.ofArguments_of_odd (by omega)] at hfilters
    cases hfilters
  rw [LabelFilter.ofArguments_of_even heven] at hfilters
  exact ⟨_, rfl, LabelFilter.all_accept_iff_selects hfilters⟩

/-- Two selections one after the other are the selection with the arguments of both. -/
theorem matchLabels_append (E : PatternEngine) (f : Family) (op : LabelComparison)
    {first second : List String} (hfirst : first.length % 2 = 0)
    (hsecond : second.length % 2 = 0) :
    f.matchLabels E op (first ++ second) =
      (f.matchLabels E op first).bind fun g => g.matchLabels E op second := by
  have hboth := LabelFilter.ofArguments_append E op hfirst hsecond
  cases hfilters : LabelFilter.ofArguments E op first with
  | error e =>
    rw [hfilters] at hboth
    unfold matchLabels
    rw [hboth, hfilters]
    rfl
  | ok filters =>
    rw [matchLabels_of_ok hfilters]
    show _ = (f.filter _).matchLabels E op second
    cases hfilters' : LabelFilter.ofArguments E op second with
    | error e =>
      rw [hfilters, hfilters'] at hboth
      unfold matchLabels
      rw [hboth, hfilters']
      rfl
    | ok filters' =>
      rw [hfilters, hfilters'] at hboth
      rw [matchLabels_of_ok hboth, matchLabels_of_ok hfilters', filter_filter]
      simp only [List.all_append]

/-- A selection succeeds exactly if its arguments go by twos and no text is refused. -/
theorem exists_matchLabels_iff {f : Family} {op : LabelComparison} {arguments : List String} :
    (∃ g, f.matchLabels E op arguments = .ok g) ↔ arguments.length % 2 = 0 ∧
      ∀ pair ∈ LabelFilter.pairUp arguments, ¬ ∃ e, op.Refuses E pair.2 e := by
  have hrefused : (∃ g, f.matchLabels E op arguments = .ok g) ↔
      ¬ ∃ e, LabelFilter.Refused E op arguments e := by
    simp only [← matchLabels_eq_error_iff (f := f)]
    cases f.matchLabels E op arguments with
    | error e => simp
    | ok g => simp
  rw [hrefused]
  constructor
  · intro h
    have heven : arguments.length % 2 = 0 := by
      rcases Nat.mod_two_eq_zero_or_one arguments.length with heven | hodd
      · exact heven
      · exact absurd ⟨_, .odd hodd⟩ h
    refine ⟨heven, fun pair hpair he => h ?_⟩
    obtain ⟨e, he⟩ : ∃ e, FirstFailure (fun pair e => op.Refuses E pair.2 e)
        (LabelFilter.pairUp arguments) e := exists_firstFailure_iff.2 ⟨pair, hpair, he⟩
    exact ⟨e, .text heven he⟩
  · rintro ⟨heven, haccepted⟩ ⟨e, he⟩
    cases he with
    | odd hodd => omega
    | text _ he =>
      obtain ⟨pair, hpair, he⟩ := exists_firstFailure_iff.1 ⟨e, he⟩
      exact haccepted pair hpair he

/-- The order of the pairs does not count for what a selection leaves. -/
theorem matchLabels_of_perm {f g : Family} {op : LabelComparison}
    {arguments arguments' : List String} (heven : arguments'.length % 2 = 0)
    (hpairs : (LabelFilter.pairUp arguments).Perm (LabelFilter.pairUp arguments'))
    (h : f.matchLabels E op arguments = .ok g) : f.matchLabels E op arguments' = .ok g := by
  -- No text is refused among the pairs in their new order either.
  have haccepted := (exists_matchLabels_iff.1 ⟨g, h⟩).2
  obtain ⟨g', h'⟩ : ∃ g', f.matchLabels E op arguments' = .ok g' :=
    exists_matchLabels_iff.2 ⟨heven, fun pair hpair => haccepted pair (hpairs.mem_iff.2 hpair)⟩
  obtain ⟨keep, rfl, hkeep⟩ := matchLabels_selects h
  obtain ⟨keep', rfl, hkeep'⟩ := matchLabels_selects h'
  have hsame : keep' = keep := by
    funext s
    rw [Bool.eq_iff_iff, hkeep, hkeep']
    exact ⟨fun hall pair hpair => hall pair (hpairs.mem_iff.1 hpair),
      fun hall pair hpair => hall pair (hpairs.mem_iff.2 hpair)⟩
  rw [h', hsame]

/-- The pairs of a selection are put together with "and". A selection keeps the samples that all of
its pairs select; with the arguments of two selections it is the one after the other, failures
included; and the order of the pairs does not count for what is left. It fails exactly if its
arguments are refused, whatever the family, and with the failure that refuses them. -/
theorem label_arguments_and (E : PatternEngine) :
    (∀ (f : Family) (op : LabelComparison) (first second : List String),
      first.length % 2 = 0 → second.length % 2 = 0 →
      f.matchLabels E op (first ++ second) =
        (f.matchLabels E op first).bind fun g => g.matchLabels E op second) ∧
    (∀ (f g : Family) (op : LabelComparison) (arguments : List String),
      f.matchLabels E op arguments = .ok g →
      ∃ keep : Sample → Bool, g = f.filter keep ∧ ∀ s, keep s = true ↔
        ∀ pair ∈ LabelFilter.pairUp arguments, op.Selects E pair.1 pair.2 s) ∧
    (∀ (f g : Family) (op : LabelComparison) (arguments arguments' : List String),
      arguments.length % 2 = 0 → arguments'.length % 2 = 0 →
      (LabelFilter.pairUp arguments).Perm (LabelFilter.pairUp arguments') →
      (f.matchLabels E op arguments = .ok g ↔ f.matchLabels E op arguments' = .ok g)) ∧
    ∀ (f : Family) (op : LabelComparison) (arguments : List String) (e : Error),
      f.matchLabels E op arguments = .error e ↔ LabelFilter.Refused E op arguments e := by
  refine ⟨fun f op first second hfirst hsecond => matchLabels_append E f op hfirst hsecond,
    fun f g op arguments h => matchLabels_selects h, ?_,
    fun f op arguments e => matchLabels_eq_error_iff⟩
  intro f g op arguments arguments' heven heven' hpairs
  exact ⟨matchLabels_of_perm heven' hpairs, matchLabels_of_perm heven hpairs.symm⟩

/-- Of three samples, two pairs select one, in one step or two and in either order. A text that is
no pattern is reported also where an earlier pair selects nothing. -/
theorem label_arguments_and_two_pairs :
    let series (service method : String) : LabelSet :=
      .ofPairs [("service", service), ("method", method)]
    let f := populated ⟨[⟨series "x" "GET", 1000, 3.0⟩, ⟨series "x" "POST", 2000, 4.0⟩,
      ⟨series "y" "GET", 3000, 8.0⟩], {}, by simp⟩
    let g := populated ⟨[⟨series "x" "GET", 1000, 3.0⟩], {}, by simp⟩
    ((f.matchLabels Pattern.engine .equal ["service", "x"]).bind
        fun h => h.matchLabels Pattern.engine .equal ["method", "GET"]) = .ok g ∧
      f.matchLabels Pattern.engine .equal ["method", "GET", "service", "x"] = .ok g ∧
      f.matchLabels Pattern.engine .fits ["service", "z", "method", "("] =
        .error (.invalidPattern "^(?:()$") := by
  intro series f g
  obtain ⟨hcompose, -, hperm, herror⟩ := label_arguments_and Pattern.engine
  have hservice (service method : String) :
      (series service method).get? "service" = some service := by
    simp [series, LabelSet.get?_ofPairs]
  have hmethod (service method : String) :
      (series service method).get? "method" = some method := by
    simp [series, LabelSet.get?_ofPairs]
  have hboth :
      f.matchLabels Pattern.engine .equal ["service", "x", "method", "GET"] = .ok g := by
    have hfilters : LabelFilter.ofArguments Pattern.engine .equal
        ["service", "x", "method", "GET"] =
          .ok [⟨"service", .equal "x"⟩, ⟨"method", .equal "GET"⟩] := rfl
    rw [matchLabels_of_ok hfilters]
    simp [f, g, Family.filter, LabelFilter.accepts, Sample.label?, LabelTest.holds, hservice,
      hmethod, ofSamples]
  refine ⟨?_, ?_, ?_⟩
  · rw [← hcompose f .equal _ _ rfl rfl]
    exact hboth
  · have hswap : (LabelFilter.pairUp ["service", "x", "method", "GET"]).Perm
        (LabelFilter.pairUp ["method", "GET", "service", "x"]) := List.Perm.swap _ _ _
    exact (hperm f g .equal _ _ rfl rfl hswap).1 hboth
  · have hz : ∀ e, ¬ LabelComparison.fits.Refuses Pattern.engine "z" e := by
      rintro e ⟨-, report, h, -⟩
      cases h
    have hrefuses : LabelComparison.fits.Refuses Pattern.engine "(" (.invalidPattern "^(?:()$") :=
      ⟨rfl, "^(?:()$", rfl, rfl⟩
    exact (herror f .fits _ _).2 (.text rfl (.tail hz (.head hrefuses)))

end Family

end MetricAlgebra
