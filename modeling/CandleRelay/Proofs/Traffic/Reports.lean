import CandleRelay.Proofs.Traffic.Confluence
import Mathlib.Algebra.BigOperators.Group.List.Basic

/-!
# Counters and reports

What becomes of deliveries is written down twice. Each delivery counts itself under the counters of
the gateway as it goes: a success when the write ends, a failure when the write ends and before the
eviction that may follow, an eviction when its close ends. And when all deliveries of a dispatch are
over, its report counts how they ended.

What is proved:
  1. `Stage.counted`: what a delivery has been counted under can be read off where it stands. A move
     adds to each counter just what it adds there (`counted_move`).
  2. `Traffic.Tallied`: so the counters are sums over all dispatches, whatever else goes on. One act
     keeps this (`tallied_step`), and so does a run (`tallied_run`).
  3. `Flight.Adds`: when its deliveries are over, a report adds up, and what it says is what they
     have been counted under (`adds_of_landed`, `tally_of_landed`).
-/

namespace CandleRelay

/-- The counters that the listener and its deliveries count under. -/
def Counter.ofListener : Counter → Bool
  | .busMessages | .deliveries | .deliveryFailures | .evictions => true
  | _ => false

namespace Gateway

/-- Whether a delivery that stands there has been counted under a counter. -/
def Stage.counted : Counter → Stage → Bool
  | .deliveries, .ended _ .delivered => true
  | .deliveryFailures, .closing _ _ => true
  | .deliveryFailures, .ended _ .failed => true
  | .deliveryFailures, .ended _ .evicted => true
  | .evictions, .ended _ .evicted => true
  | _, _ => false

/-! ## One move -/

namespace Delivery

variable {settings : Settings} {payload : Bytes} {g : Gateway} {d : Delivery}

theorem get_count (g : Gateway) (c c' : Counter) :
    (g.count c').metrics.get c = g.metrics.get c + if c = c' then 1 else 0 :=
  Metrics.get_bump g.metrics c' c

theorem counted_fail (now : Nat) (pace : Pace) (c : Counter) :
    (d.fail settings now pace g).1.metrics.get c =
      g.metrics.get c + ((d.fail settings now pace g).2.stage.counted c).toNat := by
  have hcount := get_count g c .deliveryFailures
  rcases fail_cases settings (g := g) (d := d) rfl now pace with ⟨-, hfail⟩ | ⟨-, h, -, hfail⟩
  · rw [hfail]
    refine hcount.trans ?_
    cases c <;> rfl
  · rw [hfail]
    refine hcount.trans ?_
    cases c <;> rfl

theorem counted_settle {s : Sink} (hs : g.sinks[d.sink]? = some s) (due : Nat) (ending : Ending)
    (c : Counter) :
    (d.settle settings payload due ending g).1.metrics.get c =
      g.metrics.get c + ((d.settle settings payload due ending g).2.stage.counted c).toNat := by
  cases hw : writeResult payload ending s with
  | mk result s' =>
    cases result with
    | ok u =>
      simp only [settle, hs, hw]
      refine (get_count _ c .deliveries).trans ?_
      cases c <;> rfl
    | error e =>
      simp only [settle, hs, hw]
      exact counted_fail due s'.closing c

theorem counted_finishClose (due : Nat) (ending : Ending) (c : Counter) :
    (d.finishClose due ending g).1.metrics.get c + (Stage.counted c (.closing due ending)).toNat =
      g.metrics.get c + ((d.finishClose due ending g).2.stage.counted c).toNat := by
  cases ending with
  | broken => cases c <;> rfl
  | inTime | timedOut =>
    simp only [finishClose, get_count]
    cases c <;> rfl

/-- A move counts its delivery under a counter just when the delivery then stands where it has been
counted under it, and did not before. -/
theorem counted_move (settings : Settings) (payload : Bytes) {s : Sink}
    (hs : g.sinks[d.sink]? = some s) (c : Counter) :
    (d.move settings payload g).1.metrics.get c + (d.stage.counted c).toNat =
      g.metrics.get c + ((d.move settings payload g).2.stage.counted c).toNat := by
  cases hstage : d.stage with
  | waiting =>
    simp only [move, hstage, start, hs]
    split <;> cases c <;> rfl
  | writing due ending =>
    have hzero : (Stage.counted c (.writing due ending)).toNat = 0 := by cases c <;> rfl
    simp only [move, hstage]
    rw [hzero]
    exact counted_settle hs due ending c
  | closing due ending =>
    simp only [move, hstage]
    exact counted_finishClose due ending c
  | ended time o => simp only [move, hstage]

end Delivery

/-! ## One dispatch -/

namespace Dispatched

variable {d : Dispatched} {g : Gateway} {settings : Settings} {m : Message} {k : Nat}
  {old v : Delivery} {c : Counter}

/-- What a dispatch has added to a counter so far: one message, and what its deliveries have been
counted under. -/
def tally (c : Counter) (d : Dispatched) : Nat :=
  if c = .busMessages then 1 else d.flight.deliveries.countP (·.stage.counted c)

theorem tally_launch : (launch settings g m).tally c = if c = .busMessages then 1 else 0 := by
  rw [tally]
  split
  · rfl
  · rw [List.countP_eq_zero]
    intro v hv
    obtain ⟨h, -, hv⟩ := List.mem_filterMap.1 hv
    obtain ⟨x, -, rfl⟩ := Option.map_eq_some_iff.1 hv
    cases c <;> simp [Stage.counted]

theorem counted_busMessages (st : Stage) : st.counted .busMessages = false := by
  cases st <;> rfl

theorem tally_moved (hk : d.flight.deliveries[k]? = some old) :
    (d.moved g k old v).tally c + (old.stage.counted c).toNat =
      d.tally c + (v.stage.counted c).toNat := by
  obtain ⟨hlt, hget⟩ := List.getElem?_eq_some_iff.1 hk
  unfold tally
  by_cases hc : c = .busMessages
  · subst hc
    simp [counted_busMessages]
  · rw [if_neg hc, if_neg hc]
    show (d.flight.deliveries.set k v).countP _ + _ = _
    have hpos : (if old.stage.counted c = true then 1 else 0) ≤
        d.flight.deliveries.countP (·.stage.counted c) := by
      split
      · next h => exact List.countP_pos_iff.2 ⟨old, List.mem_of_getElem? hk, h⟩
      · exact Nat.zero_le _
    have hone : ∀ b : Bool, b.toNat = if b = true then 1 else 0 := by decide
    rw [List.countP_set hlt, hget, hone, hone]
    omega

end Dispatched

/-! ## All dispatches -/

namespace Traffic

variable {s s' : Traffic} {c : Counter}

/-- The counters of the listener say what all dispatches together have added to them. -/
def Tallied (s : Traffic) : Prop :=
  ∀ c : Counter, c.ofListener = true →
    s.gateway.metrics.get c = (s.dispatches.map (·.tally c)).sum

theorem Tallied.of_same (ht : s.Tallied)
    (hget : ∀ c : Counter, c.ofListener = true →
      s'.gateway.metrics.get c = s.gateway.metrics.get c)
    (hds : s'.dispatches = s.dispatches) : s'.Tallied := by
  intro c hc
  rw [hget c hc, hds]
  exact ht c hc

theorem get_bump_other {c' : Counter} (hc : c.ofListener = true) (hc' : c'.ofListener = false)
    (m : Metrics) : (m.bump c').get c = m.get c := by
  rw [Metrics.get_bump, if_neg, Nat.add_zero]
  rintro rfl
  rw [hc] at hc'
  simp at hc'

theorem get_receive (g : Gateway) (i : Nat) (data : Bytes) (hc : c.ofListener = true) :
    (g.receive i data).2.metrics.get c = g.metrics.get c := by
  unfold receive
  split
  · rfl
  split
  · rfl
  split
  · exact get_bump_other hc rfl g.metrics
  split <;> rfl

theorem get_closeSession (g : Gateway) (i : Nat) (hc : c.ofListener = true) :
    (g.closeSession i).metrics.get c = g.metrics.get c := by
  unfold closeSession
  split
  · rfl
  split
  · rfl
  · exact get_bump_other hc rfl g.metrics

theorem Tallied.afterTake (ht : s.Tallied) (m : Message) (rest : List Message) :
    (s.afterTake m rest).Tallied := by
  intro c hc
  have hds : (s.afterTake m rest).dispatches = s.dispatches ++
      [Dispatched.launch s.settings (s.gateway.count .busMessages) m] := rfl
  rw [hds, List.map_append, List.sum_append, ← ht c hc, List.map_singleton, List.sum_singleton,
    Dispatched.tally_launch]
  exact Delivery.get_count s.gateway c .busMessages

theorem Tallied.afterMove (ht : s.Tallied) (hb : s.Booked) {d : Dispatched} {k : Nat}
    {old : Delivery} (hcurrent : s.current = some d) (hk : d.flight.deliveries[k]? = some old) :
    (s.afterMove d k old).Tallied := by
  intro c hc
  have hds : s.dispatches = s.past ++ [d] := by simp [dispatches, hcurrent]
  have hd : d ∈ s.dispatches := by simp [hds]
  obtain ⟨y, hy⟩ := hb.sink_of_delivery hd (List.mem_of_getElem? hk)
  have hafter : (s.afterMove d k old).dispatches = s.past ++ [d.moved s.gateway k old
      (old.move d.flight.settings d.flight.payload s.gateway).2] := rfl
  have hmove := Delivery.counted_move d.flight.settings d.flight.payload hy c
  have htally := Dispatched.tally_moved (g := s.gateway) (c := c)
    (v := (old.move d.flight.settings d.flight.payload s.gateway).2) hk
  have hbefore := ht c hc
  rw [hds, List.map_append, List.sum_append, List.map_singleton, List.sum_singleton] at hbefore
  rw [hafter, List.map_append, List.sum_append, List.map_singleton, List.sum_singleton]
  show (old.move d.flight.settings d.flight.payload s.gateway).1.metrics.get c = _
  omega

/-- One act keeps the counters and the dispatches in agreement. -/
theorem tallied_step (ht : s.Tallied) (hb : s.Booked) (a : Act) : (s.step a).Tallied := by
  cases a with
  | take =>
    show s.takeNext.Tallied
    rcases takeNext_cases s with hsame | ⟨m, rest, -, -, htake⟩
    · rwa [hsame]
    · rw [htake]
      exact ht.afterTake m rest
  | move k =>
    show (s.moveDelivery k).Tallied
    rcases moveDelivery_cases s k with hsame | ⟨d, old, hcurrent, hk, hmove⟩
    · rwa [hsame]
    · rw [hmove]
      exact ht.afterMove hb hcurrent hk
  | enroll id manner =>
    simp only [Traffic.step]
    split
    · exact ht.of_same (fun c hc => get_bump_other hc rfl s.gateway.metrics) rfl
    · exact ht
  | receive i data => exact ht.of_same (fun c hc => get_receive s.gateway i data hc) rfl
  | close i => exact ht.of_same (fun c hc => get_closeSession s.gateway i hc) rfl
  | _ => exact ht.of_same (fun c hc => rfl) rfl

theorem tallied_run (settings : Settings) (acts : List Act) :
    ((start settings).run acts).Tallied := by
  induction acts using List.reverseRecOn with
  | nil =>
    intro c hc
    cases c <;> rfl
  | append_singleton acts a ih =>
    rw [run_concat]
    exact tallied_step ih (booked_run settings acts) a

end Traffic

/-! ## Reports -/

/-- A report adds up: a connection that is served is served well or not, and only one that was not
may be evicted. -/
structure DispatchReport.Adds (r : DispatchReport) : Prop where
  matched : r.delivered + r.failed = r.matched
  evicted : r.evicted ≤ r.failed

namespace Dispatched

variable {d : Dispatched}

/-- What became of the message so far. -/
def report (d : Dispatched) : DispatchReport := d.flight.report

theorem outcome_of_isOver {v : Delivery} (h : v.isOver = true) :
    ∃ o, v.stage.outcome? = some o ∧ ∀ c, v.stage.counted c = Stage.counted c (.ended 0 o) := by
  cases hstage : v.stage with
  | ended time o => exact ⟨o, rfl, fun c => by cases c <;> cases o <;> rfl⟩
  | waiting | writing due ending | closing due ending =>
    simp [Delivery.isOver, Delivery.due?, hstage] at h

theorem length_outcomes (hl : d.landed = true) :
    d.flight.outcomes.length = d.flight.deliveries.length := by
  rw [Flight.outcomes, List.filterMap_length_eq_length]
  intro v hv
  obtain ⟨o, ho, -⟩ := outcome_of_isOver (List.all_eq_true.1 hl v hv)
  rw [ho]
  rfl

theorem tally_eq_countP (hl : d.landed = true) {c : Counter} (hc : c ≠ .busMessages) :
    d.tally c = d.flight.outcomes.countP fun o => Stage.counted c (.ended 0 o) := by
  rw [tally, if_neg hc, Flight.outcomes, List.countP_filterMap]
  refine List.countP_congr ?_
  intro v hv
  obtain ⟨o, ho, hcounted⟩ := outcome_of_isOver (List.all_eq_true.1 hl v hv)
  rw [ho, hcounted c]
  rfl

theorem length_eq_counts (os : List Outcome) :
    os.length = os.count .delivered + (os.count .failed + os.count .evicted) := by
  induction os with
  | nil => rfl
  | cons o os ih => cases o <;> simp [ih] <;> omega

theorem countP_failures (os : List Outcome) :
    os.countP (fun o => Stage.counted .deliveryFailures (.ended 0 o)) =
      os.count .failed + os.count .evicted := by
  induction os with
  | nil => rfl
  | cons o os ih =>
    rw [List.countP_cons, ih]
    cases o <;> simp [Stage.counted] <;> omega

theorem tally_of_landed (hl : d.landed = true) :
    d.tally .deliveries = d.report.delivered ∧ d.tally .deliveryFailures = d.report.failed ∧
      d.tally .evictions = d.report.evicted := by
  refine ⟨?_, ?_, ?_⟩
  · rw [tally_eq_countP hl (by simp)]
    show _ = d.flight.countEnded .delivered
    rw [Flight.countEnded_eq]
    refine List.countP_congr fun o _ => ?_
    cases o <;> simp [Stage.counted]
  · rw [tally_eq_countP hl (by simp), countP_failures]
    show _ = d.flight.countEnded .failed + d.flight.countEnded .evicted
    rw [Flight.countEnded_eq, Flight.countEnded_eq]
  · rw [tally_eq_countP hl (by simp)]
    show _ = d.flight.countEnded .evicted
    rw [Flight.countEnded_eq]
    refine List.countP_congr fun o _ => ?_
    cases o <;> simp [Stage.counted]

/-- When all deliveries are over, the report adds up. -/
theorem adds_of_landed (hl : d.landed = true) : d.report.Adds := by
  refine ⟨?_, Nat.le_add_left _ _⟩
  show d.flight.countEnded .delivered +
    (d.flight.countEnded .failed + d.flight.countEnded .evicted) = d.flight.deliveries.length
  rw [Flight.countEnded_eq, Flight.countEnded_eq, Flight.countEnded_eq, ← length_outcomes hl,
    length_eq_counts]

/-- One delivery for each connection of the snapshot. -/
theorem Exact.matched_eq (hd : d.Exact) :
    d.report.matched = (d.snapshot.matching d.message.topic).length := by
  rw [← hd.handles, List.length_map]
  rfl

end Dispatched

namespace Traffic

variable {s : Traffic}

/-- The counters of the listener are the sums of its reports. -/
structure Balanced (s : Traffic) : Prop where
  busMessages : s.gateway.metrics.busMessages = s.dispatches.length
  deliveries : s.gateway.metrics.deliveries = (s.dispatches.map (·.report.delivered)).sum
  failures : s.gateway.metrics.deliveryFailures = (s.dispatches.map (·.report.failed)).sum
  evictions : s.gateway.metrics.evictions = (s.dispatches.map (·.report.evicted)).sum
  /-- Everybody in a snapshot was served, well or not. -/
  snapshots : s.gateway.metrics.deliveries + s.gateway.metrics.deliveryFailures =
    (s.dispatches.map fun d => (d.snapshot.matching d.message.topic).length).sum

theorem Tallied.sum_reports (ht : s.Tallied) (hb : s.Booked) (hl : s.landed = true) {c : Counter}
    (hc : c.ofListener = true) {f : DispatchReport → Nat}
    (hf : ∀ d : Dispatched, d.landed = true → d.tally c = f d.report) :
    s.gateway.metrics.get c = (s.dispatches.map fun d => f d.report).sum := by
  rw [ht c hc]
  exact congrArg List.sum (List.map_congr_left fun d hd => hf d (hb.all_landed hl hd))

/-- With no message in flight, the counters are the sums of the reports. -/
theorem Tallied.balanced (ht : s.Tallied) (hb : s.Booked) (hl : s.landed = true) : s.Balanced := by
  have hdeliveries : s.gateway.metrics.deliveries = (s.dispatches.map (·.report.delivered)).sum :=
    ht.sum_reports hb hl (c := .deliveries) rfl fun d hd => (Dispatched.tally_of_landed hd).1
  have hfailures : s.gateway.metrics.deliveryFailures = (s.dispatches.map (·.report.failed)).sum :=
    ht.sum_reports hb hl (c := .deliveryFailures) rfl
      fun d hd => (Dispatched.tally_of_landed hd).2.1
  refine ⟨?_, hdeliveries, hfailures, ?_, ?_⟩
  · refine (ht .busMessages rfl).trans ?_
    simp [Dispatched.tally]
  · exact ht.sum_reports hb hl (c := .evictions) rfl
      fun d hd => (Dispatched.tally_of_landed hd).2.2
  · rw [hdeliveries, hfailures, ← List.sum_map_add]
    refine congrArg List.sum (List.map_congr_left fun d hd => ?_)
    rw [← (hb.exact d hd).matched_eq]
    exact (Dispatched.adds_of_landed (hb.all_landed hl hd)).matched

end Traffic

end Gateway

end CandleRelay
