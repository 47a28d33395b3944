import MetricAlgebra.Proofs.Batching
import MetricAlgebra.Proofs.History

/-!
# The time to a past point

An operator measures a sample against a point that the store has at the instant asked for or before
it, or against one that the policy puts there. The time between the two is as long as the window, or
reaches to the first instant there is if the window is longer (`Family.reach`), and it is longer
only if the store has the point (`Family.RateOp.measures_time`). It is a number of 64 bits then too,
unless the point is further back than these go, which is the only way in which it can wrap around.
-/

namespace MetricAlgebra

/-- What a store finds is not behind the instant asked for. -/
theorem Store.le_of_lookup {store : Store} {q : Query} {past : Point}
    (h : store.lookup q = some past) : past.timestamp ≤ q.timestamp := by
  rw [Store.lookup_eq_getLast?] at h
  exact of_decide_eq_true (List.mem_filter.1 (List.mem_of_getLast? h)).2

namespace Family

/-- The milliseconds from a past point to a sample, as a number that does not wrap around. -/
def elapsed (s : Sample) (past : Point) : ℤ := s.timestamp.toInt - past.timestamp.toInt

/-- How far the query of a sample goes back: over the window, or to the first instant there is. -/
def reach (window : Int64) (s : Sample) : ℤ :=
  min window.toInt (s.timestamp.toInt - Int64.minValue.toInt)

variable {window : Int64} {s : Sample} {past : Point}

/-- The query is for the instant that is so far back. -/
theorem toInt_query (h : 0 ≤ window.toInt) :
    (query window s).timestamp.toInt = s.timestamp.toInt - reach window s := by
  show (Timestamp.back s.timestamp window).toInt = _
  -- The greater of two instants is the lesser of the two ways back.
  rw [Timestamp.toInt_back h, reach]
  omega

/-- A query does not go forward, and it goes back by a number of 64 bits. -/
theorem reach_bounds (h : 0 ≤ window.toInt) :
    0 ≤ reach window s ∧ reach window s ≤ Int64.maxValue.toInt := by
  have hmin : Int64.minValue.toInt ≤ s.timestamp.toInt := s.timestamp.le_toInt
  have hmax : window.toInt ≤ Int64.maxValue.toInt := window.toInt_le
  unfold reach
  omega

/-- A point of the store is as far back as the query, or further. -/
theorem reach_le_elapsed {store : Store} (h : 0 ≤ window.toInt)
    (hpast : store.lookup (query window s) = some past) : reach window s ≤ elapsed s past := by
  have hle := Int64.le_iff_toInt_le.1 (Store.le_of_lookup hpast)
  rw [toInt_query h] at hle
  unfold elapsed
  omega

/-- A time that is a number of 64 bits does not wrap around. -/
theorem toInt_sub_timestamp (hlow : 0 ≤ elapsed s past)
    (hhigh : elapsed s past ≤ Int64.maxValue.toInt) :
    (s.timestamp - past.timestamp).toInt = elapsed s past := by
  change elapsed s past ≤ 2 ^ 63 - 1 at hhigh
  unfold elapsed at *
  rw [Int64.toInt_sub, Int.bmod_eq_of_le (by omega) (by omega)]

/-- A point that a policy puts in the place of a past one is no further back than the query. -/
theorem elapsed_baseline (h : 0 ≤ window.toInt) {policy : MissPolicy}
    (hpast : policy.baseline? s (query window s) = some past) :
    0 ≤ elapsed s past ∧ elapsed s past ≤ reach window s := by
  have hreach := (reach_bounds (s := s) h).1
  have hquery := toInt_query (s := s) h
  unfold elapsed
  -- The current sample is no time back, and a zero stands where the query is.
  cases policy with
  | currentSample =>
    obtain rfl := Option.some.inj hpast
    dsimp only
    omega
  | zeroBaseline =>
    obtain rfl := Option.some.inj hpast
    dsimp only
    omega
  | skip => cases hpast

namespace RateOp

/-- The rates over a second or more are difference quotients. -/
theorem value_of_long {op : RateOp} (hop : ∀ range, op ≠ .increase range)
    (hlong : 1000 ≤ elapsed s past) (hhigh : elapsed s past ≤ Int64.maxValue.toInt) :
    op.value s past = (s.value - past.value) / (Float.ofInt (elapsed s past) / 1000.0) := by
  -- The time that the code compares with a second is the true one, which is not below it.
  have htime := toInt_sub_timestamp (by omega) hhigh
  cases op with
  | increase range => exact absurd rfl (hop range)
  | rate | instantRate =>
    unfold value
    dsimp only
    rw [htime, if_neg (by omega)]

/-- Whether the time between a sample and the point that it is measured against is what it has to
be. -/
structure MeasuresTime (op : RateOp) (store : Store) (policy : MissPolicy) (window : Int64)
    (s : Sample) : Prop where
  /-- A point of the store is as far back as the query or further, and never ahead. -/
  hit : ∀ past, store.lookup (query window s) = some past →
    reach window s ≤ elapsed s past ∧ 0 ≤ elapsed s past
  /-- A window of a second or more that does not go beyond the first instant is passed in full, and
  the rates over the time are difference quotients, if it is a number of 64 bits. -/
  quotient : ∀ past, store.lookup (query window s) = some past → 1000 ≤ window.toInt →
    Int64.minValue.toInt ≤ s.timestamp.toInt - window.toInt →
    window.toInt ≤ elapsed s past ∧
      (elapsed s past ≤ Int64.maxValue.toInt → (∀ range, op ≠ .increase range) →
        op.value s past = (s.value - past.value) / (Float.ofInt (elapsed s past) / 1000.0))
  /-- A series that counts as zero at the instant asked for does so as far back as the query. -/
  zeroBaseline : store.lookup (query window s) = none → policy = .zeroBaseline →
    ∃ past, store.past? policy window s = some past ∧ elapsed s past = reach window s
  /-- The current sample in the place of a past point is no time back. -/
  currentSample : store.lookup (query window s) = none → policy = .currentSample →
    ∃ past, store.past? policy window s = some past ∧ elapsed s past = 0
  /-- To what a policy puts in the place of a past point, the time is a number of 64 bits. -/
  fits : store.lookup (query window s) = none → ∀ past, store.past? policy window s = some past →
    Int64.minValue.toInt ≤ elapsed s past ∧ elapsed s past ≤ Int64.maxValue.toInt
  /-- Only to a point of the store the time can wrap around, if it is no number of 64 bits. -/
  wraps : ∀ past, store.past? policy window s = some past →
    (s.timestamp - past.timestamp).toInt ≠ elapsed s past →
    store.lookup (query window s) = some past ∧ Int64.maxValue.toInt < elapsed s past

/-- Against a store, an operator with an accepted range measures each sample alone, over a time that
is what it has to be. -/
theorem measures_time {m : Type → Type} [Monad m] [LawfulMonad m] {op : RateOp}
    (hwindow : op.Accepts window) (store : Store) (policy : MissPolicy) (context : Context)
    (samples : List Sample) :
    op.run (ofSamples context samples) policy (store.resolver : Resolver m) =
      pure (ofSamples context (samples.filterMap (op.measured? store policy window))) ∧
    ∀ s, op.MeasuresTime store policy window s := by
  have hwindow' := hwindow.window_eq.2
  refine ⟨run_ofSamples .itself hwindow policy context samples, fun s => ?_⟩
  obtain ⟨hreach, hreach'⟩ := reach_bounds (s := s) hwindow'
  constructor
  case hit =>
    intro past hpast
    have hle := reach_le_elapsed hwindow' hpast
    exact ⟨hle, hreach.trans hle⟩
  case quotient =>
    intro past hpast hsecond hfirst
    have hfull : window.toInt ≤ elapsed s past := by
      have hle := reach_le_elapsed hwindow' hpast
      unfold reach at hle
      omega
    exact ⟨hfull, fun hhigh hop => value_of_long hop (hsecond.trans hfull) hhigh⟩
  case zeroBaseline =>
    rintro hnone rfl
    refine ⟨_, Store.past?_of_missing hnone, ?_⟩
    rw [elapsed, toInt_query hwindow']
    omega
  case currentSample =>
    rintro hnone rfl
    exact ⟨_, Store.past?_of_missing hnone, sub_self _⟩
  case fits =>
    intro hnone past hpast
    rw [Store.past?_of_missing hnone] at hpast
    obtain ⟨hlow, hhigh⟩ := elapsed_baseline hwindow' hpast
    exact ⟨le_trans (by decide) hlow, hhigh.trans hreach'⟩
  case wraps =>
    intro past hpast hne
    -- The time is not negative, so that only a great one is no number of 64 bits.
    have hlong (hlow : 0 ≤ elapsed s past) : Int64.maxValue.toInt < elapsed s past :=
      not_le.1 fun hhigh => hne (toInt_sub_timestamp hlow hhigh)
    cases hlookup : store.lookup (query window s) with
    | none =>
      rw [Store.past?_of_missing hlookup] at hpast
      obtain ⟨hlow, hhigh⟩ := elapsed_baseline hwindow' hpast
      have hbeyond := hlong hlow
      omega
    | some found =>
      rw [Store.past?_of_found hlookup] at hpast
      obtain rfl : found = past := Option.some.inj hpast
      exact ⟨rfl, hlong (hreach.trans (reach_le_elapsed hwindow' hlookup))⟩

/-- Half a second after the first instant there is, an instant rate reaches back to it, where the
series counts as zero. At the last instant, the time to a point at the first one wraps around, and
the rate is zero. -/
theorem measures_time_ends :
    let first : Timestamp := Int64.minValue
    let early : Sample := ⟨.empty, first + 500, 3.0⟩
    let late : Sample := ⟨.empty, Int64.maxValue, 8.0⟩
    let store := Store.empty.record .empty first 1.0
    (∃ past, Store.empty.past? .zeroBaseline 1000 early = some past ∧ elapsed early past = 500) ∧
      reach 1000 late ≤ elapsed late ⟨first, 1.0⟩ ∧
      instantRate.run (ofSamples {} [late]) .skip (store.resolver : Resolver Id) =
        pure (ofSamples {} [⟨.empty, Int64.maxValue, 0.0⟩]) := by
  intro first early late store
  have haccepts : instantRate.Accepts 1000 := rfl
  have hfound : store.lookup (query 1000 late) = some ⟨first, 1.0⟩ := by decide +kernel
  have hmeasured : [late].filterMap (instantRate.measured? store .skip 1000) =
      [⟨.empty, Int64.maxValue, 0.0⟩] := by decide +kernel
  obtain ⟨-, hempty⟩ := measures_time (m := Id) haccepts .empty .zeroBaseline {} []
  obtain ⟨hrun, hstore⟩ := measures_time (m := Id) haccepts store .skip {} [late]
  have hreach : reach 1000 early = 500 := by decide
  rw [hrun, hmeasured, ← hreach]
  exact ⟨(hempty early).zeroBaseline rfl rfl, ((hstore late).hit _ hfound).1, rfl⟩

end RateOp

end Family

end MetricAlgebra
