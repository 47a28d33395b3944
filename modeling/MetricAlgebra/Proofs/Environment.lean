import MetricAlgebra.Settings

/-!
# Settings from the environment

Each field of the settings has a variable of its own, which replaces it if the text of the variable,
without the white space around it, says a value that the field may have. `Settings.Overridden` says
so field by field, with what texts say as relations, and the settings with the environment are
the only ones of which it is true (`Settings.overridden_iff`).

A value that would not be valid is never taken over, so that valid settings stay valid
(`Settings.withEnvironment_overrides`).
-/

namespace MetricAlgebra

/-! ## What texts say -/

/-- Of things with two names each, a name finds just the thing that it is a name of, if every name
of a thing finds it. -/
theorem find?_eq_some_iff_named {α : Type} {all : List α} {first second : α → String}
    (h : ∀ a, all.find? (fun b => first b == first a || second b == first a) = some a ∧
      all.find? (fun b => first b == second a || second b == second a) = some a)
    {name : String} {a : α} :
    all.find? (fun b => first b == name || second b == name) = some a ↔
      name = first a ∨ name = second a := by
  constructor
  · intro hfound
    have hname := List.find?_some hfound
    rw [Bool.or_eq_true, beq_iff_eq, beq_iff_eq] at hname
    exact hname.imp Eq.symm Eq.symm
  · rintro (rfl | rfl)
    · exact (h a).1
    · exact (h a).2

/-- Whether a text is a name of a policy, in any ASCII case. -/
def MissPolicy.IsNamed (text : String) (policy : MissPolicy) : Prop :=
  text.toLower = policy.name ∨ text.toLower = policy.shortName

/-- The policy of a text is the one that the text is a name of. -/
theorem MissPolicy.ofText?_eq_some_iff {text : String} {policy : MissPolicy} :
    ofText? text = some policy ↔ IsNamed text policy :=
  find?_eq_some_iff_named fun policy => by cases policy <;> exact ⟨rfl, rfl⟩

/-- Whether a text is a name of a unit, in any ASCII case. -/
def TimeUnit.IsNamed (text : String) (unit : TimeUnit) : Prop :=
  text.toLower = unit.symbol ∨ text.toLower = unit.name

/-- The unit of a text is the one that the text is a name of. -/
theorem TimeUnit.ofText?_eq_some_iff {text : String} {unit : TimeUnit} :
    ofText? text = some unit ↔ IsNamed text unit :=
  find?_eq_some_iff_named fun unit => by cases unit <;> exact ⟨rfl, rfl⟩

namespace Settings

/-- Whether a text is a label for bounds. -/
def SaysLabel (text label : String) : Prop := text ≠ "" ∧ label = text

/-- Whether a text writes a number of patterns to keep, which is not zero: digits, with a plus sign
or without, of a number that fits 64 bits. -/
structure SaysSize (text : String) (size : UInt64) : Prop where
  /-- There are digits and nothing else. -/
  digits : ∃ digits, (text.toList = digits ∨ text.toList = '+' :: digits) ∧ digits ≠ [] ∧
    (∀ c ∈ digits, c.isDigit = true) ∧ Decimal.natValue digits = size.toNat
  /-- The number is positive. -/
  ne_zero : size ≠ 0

/-- A number is read from digits with an optional plus sign. -/
theorem natValue?_eq_some_iff {text : List Char} {n : Nat} :
    Decimal.natValue? text = some n ↔
      ∃ digits, (text = digits ∨ text = '+' :: digits) ∧ digits ≠ [] ∧
        (∀ c ∈ digits, c.isDigit = true) ∧ Decimal.natValue digits = n := by
  have hread (digits : List Char) :
      (if digits.isEmpty || !digits.all Char.isDigit then none
        else some (Decimal.natValue digits)) = some n ↔
        digits ≠ [] ∧ (∀ c ∈ digits, c.isDigit = true) ∧ Decimal.natValue digits = n := by
    rw [← List.all_eq_true]
    cases digits.all Char.isDigit <;> cases digits <;> simp
  unfold Decimal.natValue?
  split
  · rename_i rest
    rw [hread]
    constructor
    · intro h
      exact ⟨rest, .inr rfl, h⟩
    · rintro ⟨digits, rfl | h, hne, hdigits, hn⟩
      · -- A plus sign is no digit, so that it is not part of the number.
        exact absurd (hdigits '+' (List.mem_cons_self ..)) (by decide)
      · obtain rfl := (List.cons.inj h).2
        exact ⟨hne, hdigits, hn⟩
  · rename_i hplus
    rw [hread]
    constructor
    · intro h
      exact ⟨text, .inl rfl, h⟩
    · rintro ⟨digits, rfl | rfl, h⟩
      · exact h
      · exact absurd rfl (hplus digits)

/-- A size is taken over from the texts that write a positive number. -/
theorem readSize?_filter_eq_some_iff {text : String} {size : UInt64} :
    (readSize? text).filter (· ≠ 0) = some size ↔ SaysSize text size := by
  have hread : readSize? text = some size ↔
      Decimal.natValue? text.toList = some size.toNat := by
    simp only [readSize?, Option.bind_eq_some_iff, Option.ite_none_right_eq_some,
      Option.some.injEq]
    constructor
    · rintro ⟨n, hn, hlt, rfl⟩
      rwa [UInt64.toNat_ofNat_of_lt' hlt]
    · intro hn
      exact ⟨size.toNat, hn, size.toNat_lt_size, UInt64.ofNat_toNat⟩
  rw [Option.filter_eq_some_iff, hread, natValue?_eq_some_iff, decide_eq_true_eq]
  exact ⟨fun h => ⟨h.1, h.2⟩, fun h => ⟨h.digits, h.ne_zero⟩⟩

/-! ## Fields and their variables -/

/-- Whether a variable of an environment gives a value: its text without the white space around it
says the value. -/
def Environment.Gives {α : Type} (env : Environment) (name : String) (meaning : String → α → Prop)
    (a : α) : Prop :=
  ∃ text t, env name = some text ∧ Text.Trimmed text.toList t ∧ meaning (String.ofList t) a

/-- Whether the value of a field is the one that a variable gives, and the old one where the
variable gives none. -/
inductive Replaced {α : Type} (env : Environment) (name : String) (meaning : String → α → Prop)
    (old : α) : α → Prop where
  /-- The variable gives the value. -/
  | given {a : α} (h : env.Gives name meaning a) : Replaced env name meaning old a
  /-- The variable is not set, or its text says no value. -/
  | kept (h : ∀ a, ¬ env.Gives name meaning a) : Replaced env name meaning old old

/-- Whether settings are others with those fields replaced whose variables give values. -/
structure Overridden (program : String) (env : Environment) (s t : Settings) : Prop where
  /-- The policy is replaced by one that is named. -/
  missPolicy : Replaced env (program ++ "_LOOKBACK_MISS_POLICY") MissPolicy.IsNamed
    s.missPolicy t.missPolicy
  /-- The bound label is replaced by a text that is not empty. -/
  boundLabel : Replaced env (program ++ "_HISTOGRAM_BOUND_LABEL") SaysLabel
    s.boundLabel t.boundLabel
  /-- The unit is replaced by one that is named. -/
  timeUnit : Replaced env (program ++ "_HISTOGRAM_TIME_UNIT") TimeUnit.IsNamed s.timeUnit t.timeUnit
  /-- The size is replaced by a positive one. -/
  cacheSize : Replaced env (program ++ "_REGEX_CACHE_SIZE") SaysSize s.cacheSize t.cacheSize

/-- A reader finds what a variable gives, if it reads what texts say. -/
theorem Environment.read?_eq_some_iff {α : Type} {read : String → Option α}
    {meaning : String → α → Prop} (h : ∀ text a, read text = some a ↔ meaning text a)
    (env : Environment) (name : String) (a : α) :
    env.read? name read = some a ↔ env.Gives name meaning a := by
  unfold Environment.read? Environment.Gives
  simp only [Option.bind_eq_some_iff, h, Text.trimmed_iff, exists_and_left, exists_eq_left]
  rfl

/-- A field is replaced by what is read of its variable. -/
theorem replaced_iff {α : Type} {read : String → Option α} {meaning : String → α → Prop}
    (h : ∀ text a, read text = some a ↔ meaning text a) {env : Environment} {name : String}
    {old new : α} : Replaced env name meaning old new ↔ new = (env.read? name read).getD old := by
  have hgives := Environment.read?_eq_some_iff h env name
  constructor
  · intro hnew
    cases hnew with
    | given hnew => rw [(hgives _).2 hnew, Option.getD_some]
    | kept hnone =>
      cases hread : env.read? name read with
      | none => rfl
      | some a => exact absurd ((hgives a).1 hread) (hnone a)
  · rintro rfl
    cases hread : env.read? name read with
    | none => exact .kept fun a ha => nomatch hread.symm.trans ((hgives a).2 ha)
    | some a => exact .given ((hgives a).1 hread)

/-- A bound label is taken over from the texts that are not empty. -/
theorem readLabel_eq_some_iff {text label : String} :
    (if text.isEmpty then none else some text) = some label ↔ SaysLabel text label := by
  unfold SaysLabel
  rw [Option.ite_none_left_eq_some, String.isEmpty_iff, Option.some.injEq, @eq_comm _ label]

/-- The settings with the environment are the only ones with those fields replaced whose variables
give values. -/
theorem overridden_iff {program : String} {env : Environment} {s t : Settings} :
    Overridden program env s t ↔ t = s.withEnvironment program env := by
  have hpolicy : _ ↔ t.missPolicy = (s.withEnvironment program env).missPolicy :=
    replaced_iff fun _ _ => MissPolicy.ofText?_eq_some_iff
  have hlabel : _ ↔ t.boundLabel = (s.withEnvironment program env).boundLabel :=
    replaced_iff fun _ _ => readLabel_eq_some_iff
  have hunit : _ ↔ t.timeUnit = (s.withEnvironment program env).timeUnit :=
    replaced_iff fun _ _ => TimeUnit.ofText?_eq_some_iff
  have hsize : _ ↔ t.cacheSize = (s.withEnvironment program env).cacheSize :=
    replaced_iff fun _ _ => readSize?_filter_eq_some_iff
  constructor
  · intro h
    obtain ⟨policy, label, unit, size⟩ := t
    unfold withEnvironment
    congr
    · exact hpolicy.1 h.missPolicy
    · exact hlabel.1 h.boundLabel
    · exact hunit.1 h.timeUnit
    · exact hsize.1 h.cacheSize
  · rintro rfl
    exact ⟨hpolicy.2 rfl, hlabel.2 rfl, hunit.2 rfl, hsize.2 rfl⟩

/-! ## Valid settings -/

/-- Settings are valid if there is a bound label and room for patterns. -/
theorem validate_eq_ok_iff {s : Settings} :
    s.validate = .ok () ↔ s.boundLabel ≠ "" ∧ s.cacheSize ≠ 0 := by
  unfold validate
  by_cases hlabel : s.boundLabel = ""
  · simp [hlabel]
  · by_cases hsize : s.cacheSize = 0 <;> simp [hlabel, hsize]

/-- A field that is replaced keeps what its old value and all that its variable can say have. -/
theorem Replaced.preserves {α : Type} {env : Environment} {name : String}
    {meaning : String → α → Prop} {old new : α} (h : Replaced env name meaning old new)
    {P : α → Prop} (hmeaning : ∀ text a, meaning text a → P a) (hold : P old) : P new := by
  cases h with
  | given h =>
    obtain ⟨_, _, _, _, hsaid⟩ := h
    exact hmeaning _ _ hsaid
  | kept _ => exact hold

/-- Replacing a field that has been replaced changes nothing. -/
theorem Replaced.again {α : Type} {env : Environment} {name : String}
    {meaning : String → α → Prop} {old new : α} (h : Replaced env name meaning old new) :
    Replaced env name meaning new new := by
  cases h with
  | given h => exact .given h
  | kept h => exact .kept h

/-- Settings with the fields replaced are valid if the old ones are. -/
theorem Overridden.validate {program : String} {env : Environment} {s t : Settings}
    (h : Overridden program env s t) (hs : s.validate = .ok ()) : t.validate = .ok () := by
  rw [validate_eq_ok_iff] at hs ⊢
  constructor
  · exact h.boundLabel.preserves (fun _ _ hsaid => hsaid.2 ▸ hsaid.1) hs.1
  · exact h.cacheSize.preserves (fun _ _ hsaid => hsaid.ne_zero) hs.2

/-- Settings with the fields replaced stay as they are when the fields are replaced once more. -/
theorem Overridden.again {program : String} {env : Environment} {s t : Settings}
    (h : Overridden program env s t) : Overridden program env t t :=
  ⟨h.missPolicy.again, h.boundLabel.again, h.timeUnit.again, h.cacheSize.again⟩

/-- An environment replaces exactly those fields whose own variables give values, each by the
value given, and leaves valid settings valid, the defaults included. Once is as good as twice. -/
theorem withEnvironment_overrides (program : String) (env : Environment) (s : Settings) :
    (∀ t, Overridden program env s t ↔ t = s.withEnvironment program env) ∧
    (s.validate = .ok () → (s.withEnvironment program env).validate = .ok ()) ∧
    (({} : Settings).withEnvironment program env).validate = .ok () ∧
    (s.withEnvironment program env).withEnvironment program env =
      s.withEnvironment program env := by
  have hover (s : Settings) : Overridden program env s (s.withEnvironment program env) :=
    overridden_iff.2 rfl
  have hdefaults : ({} : Settings).validate = .ok () := validate_eq_ok_iff.2 (by decide)
  exact ⟨fun t => overridden_iff, (hover s).validate, (hover {}).validate hdefaults,
    (overridden_iff.1 (hover s).again).symm⟩

/-- Settings of which an environment replaces the policy only: it holds a blank label, no unit and a
size of zero. -/
theorem withEnvironment_overrides_policy_only :
    let s : Settings := ⟨.zeroBaseline, "le", .hours, 7⟩
    let env : Environment := fun name =>
      if name = "METER_ANALYZER_LOOKBACK_MISS_POLICY" then some "\tDrop "
      else if name = "METER_ANALYZER_HISTOGRAM_BOUND_LABEL" then some "  "
      else if name = "METER_ANALYZER_HISTOGRAM_TIME_UNIT" then some "weeks"
      else if name = "METER_ANALYZER_REGEX_CACHE_SIZE" then some " +0"
      else none
    s.validate = .ok () ∧
    s.withEnvironment "METER_ANALYZER" env = { s with missPolicy := .skip } ∧
    (s.withEnvironment "METER_ANALYZER" env).validate = .ok () := by
  intro s env
  have hvalid : s.validate = .ok () := rfl
  exact ⟨hvalid, by decide +kernel, (withEnvironment_overrides "METER_ANALYZER" env s).2.1 hvalid⟩

end Settings

end MetricAlgebra
