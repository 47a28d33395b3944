import MetricAlgebra.Proofs.Batching
import MetricAlgebra.Proofs.History

/-!
# Later history

What an operator makes of a family with a store depends on the answers to the family's queries alone
(`Family.RateOp.run_eq_of_lookup_eq`). A point recorded behind the instant of a query is not its
answer and takes the place of none, and eviction up to the answer leaves it the last
(`Store.Command.Spares.lookup_eq`). Therefore what becomes known later changes no increase and no
rate (`Family.RateOp.run_later_history`).
-/

namespace MetricAlgebra

open Family

/-! ## Answers that are spared -/

/-- An item put in does not count for a test that no item of its key passes. -/
theorem Search.filter_put {α κ : Type} [Ord κ] [Std.TransOrd κ] [Std.LawfulEqOrd κ] {key : α → κ}
    {items : List α} (h : Rising key items) {a : α} {passes : α → Bool}
    (ha : ∀ b, key b = key a → passes b = false) :
    (put key a items).filter passes = items.filter passes := by
  refine ((rising_put h a).sublist List.filter_sublist).eq_of_mem_iff
    (h.sublist List.filter_sublist) fun b => ?_
  rw [List.mem_filter, List.mem_filter, mem_put h]
  constructor
  · rintro ⟨rfl | ⟨hmem, -⟩, hpass⟩
    · rw [ha _ rfl] at hpass
      cases hpass
    · exact ⟨hmem, hpass⟩
  · rintro ⟨hmem, hpass⟩
    refine ⟨.inr ⟨hmem, fun hkey => ?_⟩, hpass⟩
    rw [ha _ hkey] at hpass
    cases hpass

namespace Store

variable {store : Store} {q : Query}

/-- A point behind the instant of a query does not count for it. -/
theorem lookup_record_of_lt {labels : LabelSet} {timestamp : Timestamp} {value : Float}
    (h : q.timestamp < timestamp) :
    (store.record labels timestamp value).lookup q = store.lookup q := by
  rw [lookup_eq_getLast?, lookup_eq_getLast?, pointsOf_record]
  split
  · rename_i hlabels
    rw [hlabels, Search.filter_put (store.rising_pointsOf labels)]
    rintro a rfl
    exact decide_eq_false (Int64.not_le.2 h)
  · rfl

/-- Samples behind the instant of a query do not count for it. -/
theorem lookup_recordFamily_of_lt {f : Family} (h : ∀ s ∈ f.samples, q.timestamp < s.timestamp) :
    (store.recordFamily f).lookup q = store.lookup q := by
  unfold recordFamily
  generalize f.samples = samples at h
  induction samples generalizing store with
  | nil => rfl
  | cons s rest ih =>
    obtain ⟨hs, hrest⟩ := List.forall_mem_cons.1 h
    exact (ih hrest).trans (lookup_record_of_lt hs)

/-- Eviction up to the answer of a query leaves the answer. -/
theorem lookup_evictBefore_of_le {instant : Timestamp}
    (h : ∀ past, store.lookup q = some past → instant ≤ past.timestamp) :
    (store.evictBefore instant).lookup q = store.lookup q := by
  rw [lookup_eq_getLast?] at h
  rw [lookup_eq_getLast?, lookup_eq_getLast?, pointsOf_evictBefore, List.filter_comm]
  generalize (store.pointsOf q.labels).filter (fun p => decide (p.timestamp ≤ q.timestamp)) =
    known at h
  rcases List.eq_nil_or_concat' known with rfl | ⟨before, past, rfl⟩
  · rfl
  · -- The answer is the last point, and it is one of those that are left.
    have hleft := h past List.getLast?_concat
    rw [List.filter_append, List.filter_cons_of_pos (by simpa using hleft), List.filter_nil,
      List.getLast?_concat, List.getLast?_concat]

/-- Whether a command leaves the answer to a query as it is in a store. -/
inductive Command.Spares (store : Store) (q : Query) : Command → Prop
  /-- A point is recorded behind the instant of the query. -/
  | record {labels : LabelSet} {timestamp : Timestamp} {value : Float} :
    q.timestamp < timestamp → Spares store q (.record labels timestamp value)
  /-- Samples are recorded that are all behind the instant of the query. -/
  | recordFamily {f : Family} :
    (∀ s ∈ f.samples, q.timestamp < s.timestamp) → Spares store q (.recordFamily f)
  /-- What is dropped is before the answer, if there is one. -/
  | evictBefore {instant : Timestamp} :
    (∀ past, store.lookup q = some past → instant ≤ past.timestamp) →
      Spares store q (.evictBefore instant)

/-- A store after more commands. -/
def applyAll (store : Store) (commands : List Command) : Store :=
  commands.foldl (fun store c => c.apply store) store

namespace Command.Spares

/-- A command that spares an answer leaves it. -/
theorem lookup_eq {c : Command} (h : c.Spares store q) :
    (c.apply store).lookup q = store.lookup q := by
  cases h with
  | record h => exact lookup_record_of_lt h
  | recordFamily h => exact lookup_recordFamily_of_lt h
  | evictBefore h => exact lookup_evictBefore_of_le h

/-- A command that spares an answer spares the same one in another store. -/
theorem of_lookup_eq {c : Command} {store' : Store} (h : c.Spares store q)
    (hsame : store'.lookup q = store.lookup q) : c.Spares store' q := by
  cases h with
  | record h => exact .record h
  | recordFamily h => exact .recordFamily h
  | evictBefore h => exact .evictBefore (by rwa [hsame])

/-- Commands that spare an answer leave it, one after the other. -/
theorem lookup_applyAll_eq {commands : List Command} (h : ∀ c ∈ commands, c.Spares store q) :
    (store.applyAll commands).lookup q = store.lookup q := by
  induction commands generalizing store with
  | nil => rfl
  | cons c rest ih =>
    obtain ⟨hc, hrest⟩ := List.forall_mem_cons.1 h
    -- The rest spare the answer that is still there.
    exact (ih fun c' hc' => (hrest c' hc').of_lookup_eq hc.lookup_eq).trans hc.lookup_eq

end Command.Spares

end Store

/-! ## Rates -/

namespace Family

/-- Before a sample that is not at the first instant there is, a query is for an earlier instant. -/
theorem query_timestamp_lt {window : Int64} {s : Sample} (hwindow : 0 < window.toInt)
    (hs : Int64.minValue < s.timestamp) : (query window s).timestamp < s.timestamp := by
  have hmin := Int64.lt_iff_toInt_lt.1 hs
  rw [Int64.lt_iff_toInt_lt]
  show (Timestamp.back s.timestamp window).toInt < _
  rw [Timestamp.toInt_back hwindow.le]
  omega

namespace RateOp

variable {m : Type → Type} [Monad m] [LawfulMonad m] {op : RateOp} {window : Int64}

/-- An accepted window is positive. -/
theorem Accepts.pos (h : op.Accepts window) : 0 < window.toInt := by
  cases op with
  | increase range => exact h.2
  | rate range => exact h.2
  | instantRate =>
    obtain rfl : window = 1000 := h
    decide

/-- Two stores with the same answers to the queries of a family give the same result. -/
theorem run_eq_of_lookup_eq (hwindow : op.Accepts window) (policy : MissPolicy) {f : Family}
    {store store' : Store}
    (h : ∀ s ∈ f.samples, store'.lookup (query window s) = store.lookup (query window s)) :
    op.run f policy (store'.resolver : Resolver m) = op.run f policy store.resolver := by
  obtain ⟨context, samples, rfl⟩ := exists_eq_ofSamples f
  rw [samples_ofSamples] at h
  have hmeasured : samples.filterMap (op.measured? store' policy window) =
      samples.filterMap (op.measured? store policy window) := by
    refine List.filterMap_congr fun s hs => ?_
    unfold measured? Store.past?
    rw [h s hs]
  have hrun (store : Store) : op.run (ofSamples context samples) policy
      (store.resolver : Resolver m) =
        pure (ofSamples context (samples.filterMap (op.measured? store policy window))) :=
    run_ofSamples .itself hwindow policy context samples
  rw [hrun store', hrun store, hmeasured]

/-- Later history does not change a result. An operator with an accepted range makes the same of a
family with a store and with what becomes of the store by commands that record points behind every
query of the family, or drop points before every baseline that is found. Among these is to record
the family itself, if its samples are all at one instant that is not the first one there is. -/
theorem run_later_history (hwindow : op.Accepts window) (store : Store) (policy : MissPolicy)
    (f : Family) :
    (∀ commands : List Store.Command,
      (∀ c ∈ commands, ∀ s ∈ f.samples, c.Spares store (query window s)) →
        op.run f policy ((store.applyAll commands).resolver : Resolver m) =
          op.run f policy store.resolver) ∧
    ∀ instant, Int64.minValue < instant → (∀ s ∈ f.samples, s.timestamp = instant) →
      op.run f policy ((store.recordFamily f).resolver : Resolver m) =
        op.run f policy store.resolver := by
  refine ⟨fun commands hspares => ?_, fun instant hfirst hinstant => ?_⟩
  · refine run_eq_of_lookup_eq hwindow policy fun s hs => ?_
    exact Store.Command.Spares.lookup_applyAll_eq fun c hc => hspares c hc s hs
  · refine run_eq_of_lookup_eq hwindow policy fun s hs => ?_
    refine Store.lookup_recordFamily_of_lt fun t ht => ?_
    rw [hinstant t ht, ← hinstant s hs]
    exact query_timestamp_lt hwindow.pos (by rwa [hinstant s hs])

/-- A rate over two seconds, of a sample at five seconds with a baseline at one second. It stays
what it is when the sample is recorded, when the points before the baseline are dropped, and when a
point right behind the query becomes known. -/
theorem run_later_history_two_seconds :
    let store := (Store.empty.record .empty 1000 1.0).record .empty 500 6.0
    let f := ofSamples {} [⟨.empty, 5000, 9.0⟩]
    let commands : List Store.Command :=
      [.recordFamily f, .evictBefore 1000, .record .empty 3001 7.0]
    (rate "2s").Accepts 2000 ∧
      (∀ c ∈ commands, ∀ s ∈ f.samples, c.Spares store (query 2000 s)) ∧
      (rate "2s").run f .skip ((store.applyAll commands).resolver : Resolver Id) =
        pure (ofSamples {} [⟨.empty, 5000, 2.0⟩]) ∧
      (rate "2s").run f .skip ((store.recordFamily f).resolver : Resolver Id) =
        pure (ofSamples {} [⟨.empty, 5000, 2.0⟩]) := by
  intro store f commands
  have haccepts : (rate "2s").Accepts 2000 := ⟨rfl, by decide⟩
  have hsample : ∀ s ∈ f.samples, s = ⟨.empty, 5000, 9.0⟩ := by simp [f]
  have hfound : store.lookup (query 2000 ⟨.empty, 5000, 9.0⟩) = some ⟨1000, 1.0⟩ := by
    decide +kernel
  have hspares : ∀ c ∈ commands, ∀ s ∈ f.samples, c.Spares store (query 2000 s) := by
    intro c hc s hs
    obtain rfl := hsample s hs
    simp only [commands, List.mem_cons, List.not_mem_nil, or_false] at hc
    rcases hc with rfl | rfl | rfl
    · refine .recordFamily fun t ht => ?_
      rw [hsample t ht]
      decide
    · refine .evictBefore fun past hpast => ?_
      rw [hfound] at hpast
      obtain rfl := Option.some.inj hpast
      decide
    · exact .record (by decide)
  have hmeasured : [⟨.empty, 5000, 9.0⟩].filterMap ((rate "2s").measured? store .skip 2000) =
      [⟨.empty, 5000, 2.0⟩] := by decide +kernel
  have hrun : (rate "2s").run f .skip (store.resolver : Resolver Id) =
      pure (ofSamples {} [⟨.empty, 5000, 2.0⟩]) := by
    rw [← hmeasured]
    exact run_ofSamples .itself haccepts .skip {} _
  obtain ⟨hcommands, hitself⟩ := run_later_history (m := Id) haccepts store .skip f
  refine ⟨haccepts, hspares, ?_, ?_⟩
  · rw [hcommands commands hspares, hrun]
  · rw [hitself 5000 (by decide) fun s hs => by rw [hsample s hs], hrun]

end RateOp

end Family

end MetricAlgebra
