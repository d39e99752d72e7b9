import CandleRelay.Gateway.Clock
import CandleRelay.Proofs.Traffic.Listening
import CandleRelay.Proofs.Traffic.Serving

/-!
# How long deliveries take

A delivery writes under a timeout and, if it then evicts its connection, closes under the same
timeout. So the time when it ends depends on nothing but the paces of its own write side and on
whether it evicts: not on the other deliveries, nor on what others do to the connection meanwhile.

What is proved:
  1. A move leaves its write side as it was, but for one close more if it evicts (`touches_move`).
  2. `Stage.Timely`: the time when a delivery is due, or has ended, can be told from the paces of
     its write side and from whether it has evicted. A move keeps this (`timely_move`).
  3. `Traffic.Underway`: both together for all deliveries of the dispatch under way. A take begins
     it (`Booked.underway`), and moves (`Underway.move`) and what others do (`Underway.aside`) keep
     it.
  4. `Traffic.cost`: what a delivery has taken when it is over (`Advances.time_of_isOver`).
-/

namespace CandleRelay.Gateway

/-! ## Paces -/

namespace Pace

/-- How long an operation goes on that is stopped after the timeout. -/
def capped (timeout : Nat) : Pace → Nat
  | .after ms | .breaks ms => min ms timeout
  | .never => timeout

theorem within_eq (timeout : Nat) (p : Pace) : (p.within timeout).1 = p.capped timeout := by
  cases p with
  | never => rfl
  | after ms | breaks ms =>
    simp only [within, capped]
    split <;> omega

theorem capped_le (timeout : Nat) (p : Pace) : p.capped timeout ≤ timeout := by
  cases p with
  | never => exact Nat.le_refl _
  | after ms | breaks ms => exact Nat.min_le_right _ _

end Pace

/-! ## Write sides -/

/-- A write side that goes on as it was. -/
structure Sink.GoesOn (s s' : Sink) : Prop where
  writing : s'.writing = s.writing
  closing : s'.closing = s.closing
  accepts : s.failures.any = false → s'.failures.any = false

theorem Sink.GoesOn.refl (s : Sink) : s.GoesOn s := ⟨rfl, rfl, fun h => h⟩

theorem Sink.GoesOn.trans {s s' s'' : Sink} (h : s.GoesOn s') (h' : s'.GoesOn s'') :
    s.GoesOn s'' :=
  ⟨h'.writing.trans h.writing, h'.closing.trans h.closing, fun ha => h'.accepts (h.accepts ha)⟩

theorem Sink.GoesOn.prompt {settings : Settings} {s s' : Sink} (h : s.GoesOn s')
    (hp : Traffic.Prompt settings s) : Traffic.Prompt settings s' :=
  ⟨by rw [h.writing]; exact hp.inTime, h.accepts hp.accepts⟩

variable {g : Gateway} {d : Delivery} {settings : Settings} {payload : Bytes}

namespace Delivery

theorem goesOn_writeResult (payload : Bytes) (ending : Ending) (s : Sink) :
    s.GoesOn (writeResult payload ending s).2 ∧
      (writeResult payload ending s).2.closeCalls = s.closeCalls := by
  cases ending with
  | inTime =>
    simp only [writeResult, Sink.finish]
    split
    · next h => exact ⟨⟨rfl, rfl, fun ha => absurd h (by simp [ha])⟩, rfl⟩
    · exact ⟨⟨rfl, rfl, fun ha => ha⟩, rfl⟩
  | timedOut | broken => exact ⟨.refl s, rfl⟩

theorem set_of_getElem? {α : Type} {xs : List α} {k : Nat} {x : α} (hx : xs[k]? = some x) :
    xs.set k x = xs := by
  obtain ⟨hlt, rfl⟩ := List.getElem?_eq_some_iff.1 hx
  exact List.set_getElem_self hlt

theorem modify_of_getElem? {xs : List Sink} {k : SinkId} {s : Sink} (hs : xs[k]? = some s)
    (f : Sink → Sink) : xs.modify k f = xs.set k (f s) := by
  rw [List.modify_eq_set_getElem?, hs]
  rfl

/-- What the next move does to the write sides: one of them goes on as it was, and has one close
more if the move evicts. -/
def Touches (settings : Settings) (payload : Bytes) (g : Gateway) (d : Delivery) (s : Sink)
    (g' : Gateway) : Prop :=
  ∃ s', g'.sinks = g.sinks.set d.sink s' ∧ s.GoesOn s' ∧
    s'.closeCalls = s.closeCalls + (d.evicts settings payload g).toNat

theorem settle_cases (settings : Settings) (payload : Bytes) {s : Sink}
    (hs : g.sinks[d.sink]? = some s) {due : Nat} {ending : Ending}
    (hstage : d.stage = .writing due ending) :
    ∃ s' : Sink, s.GoesOn s' ∧ s'.closeCalls = s.closeCalls ∧
      ((d.evicts settings payload g = false ∧
          (d.settle settings payload due ending g).1.sinks = g.sinks.set d.sink s' ∧
          ∃ o, (d.settle settings payload due ending g).2.stage = .ended due o) ∨
        (d.evicts settings payload g = true ∧
          (d.settle settings payload due ending g).1.sinks = g.sinks.set d.sink s'.beginClose ∧
          ∃ e, (d.settle settings payload due ending g).2.stage =
            .closing (due + s.closing.capped settings.timeout) e)) := by
  have hevicts : d.evicts settings payload g = _ := evicts_eq hs
  simp only [hstage] at hevicts
  obtain ⟨hgoes, hcalls⟩ := goesOn_writeResult payload ending s
  cases hw : writeResult payload ending s with
  | mk result s' =>
    rw [hw] at hgoes hcalls
    have hs' : (g.sinks.set d.sink s')[d.sink]? = some s' :=
      List.getElem?_set_self (List.getElem?_eq_some_iff.1 hs).1
    refine ⟨s', hgoes, hcalls, ?_⟩
    cases result with
    | ok u =>
      simp only [settle, hs, hw] at hevicts ⊢
      exact Or.inl ⟨hevicts, rfl, _, rfl⟩
    | error e =>
      simp only [settle, hs, hw] at hevicts ⊢
      rcases fail_cases settings (g := { g with sinks := g.sinks.set d.sink s' }) (d := d) rfl due
        s'.closing with ⟨-, hfail⟩ | ⟨-, h, -, hfail⟩
      · simp only [hfail] at hevicts ⊢
        exact Or.inl ⟨hevicts, rfl, _, rfl⟩
      · simp only [hfail] at hevicts ⊢
        refine Or.inr ⟨hevicts, ?_, _, by rw [← hgoes.closing, ← Pace.within_eq]⟩
        rw [modify_of_getElem? hs', List.set_set]

theorem touches_move (settings : Settings) (payload : Bytes) {s : Sink}
    (hs : g.sinks[d.sink]? = some s) :
    Touches settings payload g d s (d.move settings payload g).1 := by
  have hevicts : d.evicts settings payload g = _ := evicts_eq hs
  have hsame : g.sinks = g.sinks.set d.sink s := (set_of_getElem? hs).symm
  cases hstage : d.stage with
  | waiting =>
    rw [hstage] at hevicts
    simp only [move, hstage, start, hs]
    refine ⟨s.attempt, ?_, ⟨rfl, rfl, fun ha => ha⟩, by rw [hevicts]; rfl⟩
    rw [← modify_of_getElem? hs]
    split <;> rfl
  | writing due ending =>
    simp only [move, hstage]
    obtain ⟨s', hgoes, hcalls, ⟨hnot, hsinks, -⟩ | ⟨hyes, hsinks, -⟩⟩ :=
      settle_cases settings payload hs hstage
    · exact ⟨s', hsinks, hgoes, by rw [hnot]; exact hcalls⟩
    · exact ⟨s'.beginClose, hsinks, hgoes.trans ⟨rfl, rfl, fun ha => ha⟩,
        by rw [hyes]; exact congrArg (· + 1) hcalls⟩
  | closing due ending =>
    rw [hstage] at hevicts
    simp only [move, hstage]
    cases ending with
    | inTime =>
      exact ⟨{ s with closed := true }, modify_of_getElem? hs _, ⟨rfl, rfl, fun ha => ha⟩,
        by rw [hevicts]; rfl⟩
    | timedOut | broken => exact ⟨s, hsame, .refl s, by rw [hevicts]; rfl⟩
  | ended time o =>
    rw [hstage] at hevicts
    simp only [move, hstage]
    exact ⟨s, hsame, .refl s, by rw [hevicts]; rfl⟩

end Delivery

/-! ## One delivery -/

/-- When a delivery makes its next move or, once it is over, has ended. -/
def Stage.time : Stage → Nat
  | .waiting => 0
  | .writing due _ => due
  | .closing due _ => due
  | .ended time _ => time

/-- Where a delivery stands whose write side has these paces, and which has evicted or has not. -/
def Stage.Timely (timeout : Nat) (writing closing : Pace) (evicted : Bool) : Stage → Prop
  | .waiting => evicted = false
  | .writing due ending => writing.within timeout = (due, ending) ∧ evicted = false
  | .closing due _ =>
    due = writing.capped timeout + closing.capped timeout ∧ evicted = true
  | .ended time _ =>
    time = writing.capped timeout + if evicted then closing.capped timeout else 0

namespace Delivery

/-- A move is made in time, and evicts when it goes on to a close. -/
theorem timely_move (payload : Bytes) {s : Sink} (hs : g.sinks[d.sink]? = some s) {evicted : Bool}
    (h : d.stage.Timely settings.timeout s.writing s.closing evicted) :
    (d.move settings payload g).2.stage.Timely settings.timeout s.writing s.closing
      (evicted || d.evicts settings payload g) := by
  cases hstage : d.stage with
  | waiting =>
    rw [hstage] at h
    have hevicts : d.evicts settings payload g = false := by
      rw [evicts_eq hs, hstage]
    have hstart : (d.move settings payload g).2.stage =
        .writing (s.writing.within settings.timeout).1 (s.writing.within settings.timeout).2 := by
      simp only [move, hstage, start, hs]
    rw [hstart, hevicts, Bool.or_false]
    exact ⟨rfl, h⟩
  | writing due ending =>
    rw [hstage] at h
    obtain ⟨hdue, rfl⟩ := h
    simp only [move, hstage, Bool.false_or]
    obtain ⟨s', -, -, ⟨hnot, -, o, hended⟩ | ⟨hyes, -, e, hclosing⟩⟩ :=
      settle_cases settings payload hs hstage
    · rw [hended, hnot]
      simp [Stage.Timely, ← Pace.within_eq, hdue]
    · rw [hclosing, hyes]
      simp [Stage.Timely, ← Pace.within_eq, hdue]
  | closing due ending =>
    rw [hstage] at h
    obtain ⟨hdue, rfl⟩ := h
    simp only [move, hstage]
    cases ending <;> simp [finishClose, Stage.Timely, hdue]
  | ended time o =>
    have hevicts : d.evicts settings payload g = false := by
      rw [evicts_eq hs, hstage]
    rw [hevicts, Bool.or_false]
    rw [hstage] at h
    simp only [move, hstage]
    exact h

theorem due?_eq (d : Delivery) : d.due? = if d.isOver then none else some d.stage.time := by
  cases hstage : d.stage <;> simp [isOver, due?, hstage, Stage.time]

/-- Time does not go back, and a delivery ends when its last move is due. -/
theorem time_move (settings : Settings) (payload : Bytes) {s : Sink}
    (hs : g.sinks[d.sink]? = some s) :
    d.stage.time ≤ (d.move settings payload g).2.stage.time ∧
      ((d.move settings payload g).2.isOver = true →
        (d.move settings payload g).2.stage.time = d.stage.time) := by
  cases hstage : d.stage with
  | waiting =>
    refine ⟨Nat.zero_le _, fun hover => ?_⟩
    simp [move, hstage, start, hs, isOver, due?] at hover
  | writing due ending =>
    simp only [move, hstage]
    obtain ⟨s', -, -, ⟨-, -, o, hended⟩ | ⟨-, -, e, hclosing⟩⟩ :=
      settle_cases settings payload hs hstage
    · rw [hended]
      exact ⟨Nat.le_refl _, fun _ => rfl⟩
    · refine ⟨by rw [hclosing]; exact Nat.le_add_right _ _, fun hover => ?_⟩
      simp [isOver, due?, hclosing] at hover
  | closing due ending =>
    simp only [move, hstage]
    cases ending <;> simp [finishClose, Stage.time]
  | ended time o => simp [move, hstage]

theorem evicts_of_timely {s : Sink} (hs : g.sinks[d.sink]? = some s) {writing closing : Pace}
    (h : d.stage.Timely settings.timeout writing closing true) :
    d.evicts settings payload g = false := by
  rw [evicts_eq hs]
  cases hstage : d.stage with
  | writing due ending =>
    rw [hstage] at h
    exact absurd h.2 (by simp)
  | waiting | closing due ending | ended time o => rfl

end Delivery

theorem Stage.Timely.time_le_of_unanswered {stage : Stage} {timeout : Nat} {writing closing : Pace}
    {evicted : Bool} (h : stage.Timely timeout writing closing evicted)
    (hnot : stage.answered = false) : stage.time ≤ writing.capped timeout := by
  cases stage with
  | waiting => exact Nat.zero_le _
  | writing due ending =>
    rw [← Pace.within_eq, h.1]
    exact Nat.le_refl _
  | closing due ending | ended time o => simp [answered] at hnot

/-- No delivery takes longer than two timeouts. -/
theorem Stage.Timely.time_le {stage : Stage} {timeout : Nat} {writing closing : Pace}
    {evicted : Bool} (h : stage.Timely timeout writing closing evicted) :
    stage.time ≤ 2 * timeout := by
  have hwrite := writing.capped_le timeout
  have hclose := closing.capped_le timeout
  cases stage with
  | waiting => exact Nat.zero_le _
  | writing due ending =>
    have hdue : due = writing.capped timeout := by rw [← Pace.within_eq, h.1]
    simp only [time]
    omega
  | closing due ending =>
    simp only [time, h.1]
    omega
  | ended time o =>
    have htime : time = _ := h
    simp only [Stage.time, htime]
    split <;> omega

/-! ## One dispatch -/

namespace Traffic

variable {s t : Traffic} {m : Message} {rest : List Message} {d : Dispatched} {a : Act}
  {v : Delivery}

/-- Whether the deliveries of a handle have evicted its connection between two states of a
gateway. -/
def evictedSince (s t : Traffic) (h : HandleId) : Bool :=
  (t.removals.drop s.removals.length).any fun q => q.who == .eviction h && q.got.isSome

theorem evictedSince_self (s : Traffic) (h : HandleId) : s.evictedSince s h = false := by
  simp [evictedSince]

theorem evictedSince_append {t' : Traffic} {l : List Removal} (hs : s.removals <+: t.removals)
    (ht : t'.removals = t.removals ++ l) (h : HandleId) :
    s.evictedSince t' h =
      (s.evictedSince t h || l.any fun q => q.who == .eviction h && q.got.isSome) := by
  rw [evictedSince, evictedSince, ht, List.drop_append_of_le_length hs.length_le, List.any_append]

/-- How far one delivery of a dispatch that began in `s` has come. -/
structure Advances (s t : Traffic) (d : Dispatched) (v : Delivery) (x y : Sink) : Prop where
  aimed : v.Aimed s.gateway.registry
  /-- Its write side was this one, and is that one now. -/
  before : s.gateway.sinks[v.sink]? = some x
  now : t.gateway.sinks[v.sink]? = some y
  goesOn : x.GoesOn y
  closeCalls : y.closeCalls = x.closeCalls + (s.evictedSince t v.handle).toNat
  timely : v.stage.Timely s.settings.timeout x.writing x.closing (s.evictedSince t v.handle)
  taken : Prompt s.settings x → ∀ a ∈ d.answersOf v.handle, a = .ok ()

/-- A dispatch that began in `s`, as far as it has come. -/
structure Underway (s : Traffic) (m : Message) (t : Traffic) (d : Dispatched) : Prop where
  current : t.current = some d
  past : t.past = s.dispatches
  settings : d.flight.settings = s.settings
  message : d.message = m
  snapshot : d.snapshot = s.gateway.registry
  removals : s.removals <+: t.removals
  advances : ∀ v ∈ d.flight.deliveries, ∃ x y, Advances s t d v x y

theorem Booked.underway (hb : s.Booked) (hl : s.landed = true) (m : Message)
    (rest : List Message) :
    Underway s m (s.afterTake m rest)
      (Dispatched.launch s.settings (s.gateway.count .busMessages) m) := by
  have hnone : ∀ h, s.evictedSince (s.afterTake m rest) h = false := evictedSince_self s
  refine ⟨rfl, rfl, rfl, rfl, rfl, List.prefix_rfl, ?_⟩
  intro v hv
  have hmem : Dispatched.launch s.settings (s.gateway.count .busMessages) m ∈
      (s.afterTake m rest).dispatches := List.mem_append_right _ (Option.mem_toList.2 rfl)
  have hbooked : (s.afterTake m rest).Booked := hb.afterTake hl m rest
  have haimed : v.Aimed s.gateway.registry := hbooked.aimed _ hmem v hv
  obtain ⟨x, hx⟩ := hbooked.sink_of_delivery hmem hv
  obtain ⟨h, -, hv⟩ := List.mem_filterMap.1 hv
  obtain ⟨y, -, rfl⟩ := Option.map_eq_some_iff.1 hv
  exact ⟨x, x, haimed, hx, hx, .refl x, by rw [hnone]; rfl, hnone _,
    fun _ a ha => absurd ha List.not_mem_nil⟩

/-- One delivery for each connection that the topic matched. -/
theorem Underway.handles (hu : Underway s m t d) (hb : t.Booked) :
    d.flight.deliveries.map (·.handle) = s.gateway.registry.matching m.topic := by
  have hd : d ∈ t.dispatches := mem_dispatches hu.current
  rw [(hb.exact d hd).handles, hu.snapshot, hu.message]

/-! What others do leaves the dispatch and the write sides as they are, and evicts nobody. -/

theorem aside_step (t : Traffic) (ha : a.isAside = true) :
    (t.step a).current = t.current ∧ (t.step a).past = t.past ∧
      t.gateway.sinks <+: (t.step a).gateway.sinks ∧
      ∃ l, (t.step a).removals = t.removals ++ l ∧ ∀ q ∈ l, ∀ h, q.who ≠ .eviction h := by
  cases a with
  | take | move k | retune k m => simp [Act.isAside] at ha
  | close i =>
    refine ⟨rfl, rfl, (ends_closeSession i).2 ▸ List.prefix_rfl, _, rfl, ?_⟩
    intro q hq h
    have hq : closing? t.gateway i = some q := Option.mem_toList.1 hq
    unfold closing? at hq
    split at hq
    · split at hq
      · simp at hq
      · obtain rfl := Option.some.inj hq
        simp
    · simp at hq
  | unregister id =>
    refine ⟨rfl, rfl, List.prefix_rfl, _, rfl, ?_⟩
    intro q hq h
    obtain rfl := List.mem_singleton.1 hq
    simp
  | enroll id manner =>
    simp only [Traffic.step]
    split
    · exact ⟨rfl, rfl, List.prefix_append _ _, [], (List.append_nil _).symm, by simp⟩
    · exact ⟨rfl, rfl, List.prefix_rfl, [], (List.append_nil _).symm, by simp⟩
  | register id manner =>
    exact ⟨rfl, rfl, List.prefix_append _ _, [], (List.append_nil _).symm, by simp⟩
  | receive i data =>
    exact ⟨rfl, rfl, (ends_receive i data).2 ▸ List.prefix_rfl, [],
      (List.append_nil _).symm, by simp⟩
  | _ => exact ⟨rfl, rfl, List.prefix_rfl, [], (List.append_nil _).symm, by simp⟩

theorem Underway.aside (hu : Underway s m t d) (ha : a.isAside = true) :
    Underway s m (t.step a) d := by
  obtain ⟨hcurrent, hpast, hsinks, l, hremovals, hl⟩ := aside_step t ha
  have hsame : ∀ h, s.evictedSince (t.step a) h = s.evictedSince t h := by
    intro h
    have hnone : (l.any fun q => q.who == .eviction h && q.got.isSome) = false := by
      rw [List.any_eq_false]
      intro q hq
      simp [hl q hq h]
    rw [evictedSince_append hu.removals hremovals, hnone, Bool.or_false]
  refine ⟨hcurrent.trans hu.current, hpast.trans hu.past, hu.settings, hu.message, hu.snapshot,
    by rw [hremovals]; exact hu.removals.trans (List.prefix_append _ _), ?_⟩
  intro v hv
  obtain ⟨x, y, haimed, hbefore, hnow, hgoes, hcalls, htimely, htaken⟩ := hu.advances v hv
  have hnow' : (t.step a).gateway.sinks[v.sink]? = some y := by
    obtain ⟨more, hmore⟩ := hsinks
    rw [← hmore, List.getElem?_append_left (List.getElem?_eq_some_iff.1 hnow).1, hnow]
  exact ⟨x, y, haimed, hbefore, hnow', hgoes, by rw [hsame]; exact hcalls,
    by rw [hsame]; exact htimely, htaken⟩

/-! A move keeps its own delivery in time, and leaves the others where they are. -/

theorem any_removal (settings : Settings) (payload : Bytes) (g : Gateway) (v : Delivery)
    (h : HandleId) :
    ((v.removal? settings payload g).toList.any fun q => q.who == .eviction h && q.got.isSome) =
      (decide (v.handle = h) && v.evicts settings payload g) := by
  cases hq : v.removal? settings payload g with
  | none => simp [Delivery.evicts, hq]
  | some q =>
    obtain ⟨who, id, got⟩ := q
    cases who with
    | eviction h' =>
      obtain ⟨rfl, -⟩ := Delivery.answer?_of_evicts hq rfl
      by_cases hh : v.handle = h <;> cases got <;> simp [Delivery.evicts, hq, hh]
    | session i | outside => simp [Delivery.evicts, hq]

/-- What comes of a write to a side that takes it in time. -/
theorem Prompt.answer_of_timely {settings : Settings} {payload : Bytes} {g : Gateway} {y : Sink}
    {evicted : Bool} (hp : Prompt settings y) (hy : g.sinks[v.sink]? = some y)
    (ht : v.stage.Timely settings.timeout y.writing y.closing evicted)
    {a : Except DeliveryError Unit} (ha : v.answer? payload g = some a) : a = .ok () := by
  obtain ⟨due, ending, z, hstage, hz, rfl⟩ := Delivery.answer?_cases ha
  obtain rfl : z = y := Option.some.inj (hz.symm.trans hy)
  rw [hstage] at ht
  have hinTime : ending = .inTime := by rw [← within_inTime.2 hp.inTime, ht.1]
  exact Delivery.writeResult_eq_ok_iff.2 ⟨hinTime, hp.accepts⟩

theorem Underway.evictedSince_afterMove (hu : Underway s m t d) (k : Nat) (v : Delivery)
    (h : HandleId) : s.evictedSince (t.afterMove d k v) h = (s.evictedSince t h ||
      decide (v.handle = h) && v.evicts d.flight.settings d.flight.payload t.gateway) := by
  rw [← any_removal]
  exact evictedSince_append hu.removals rfl h

theorem Underway.advances_self (hu : Underway s m t d) {k : Nat} {x y : Sink} {st : Stage}
    (hv : Advances s t d v x y)
    (hmove : (v.move d.flight.settings d.flight.payload t.gateway).2 = { v with stage := st })
    (w : Delivery) :
    ∃ x y, Advances s (t.afterMove d k v) (d.moved t.gateway k v w) { v with stage := st } x y := by
  obtain ⟨haimed, hbefore, hnow, hgoes, hcalls, htimely, htaken⟩ := hv
  have hevicted : s.evictedSince (t.afterMove d k v) v.handle =
      (s.evictedSince t v.handle || v.evicts d.flight.settings d.flight.payload t.gateway) := by
    rw [hu.evictedSince_afterMove]
    simp
  have htimely' : v.stage.Timely d.flight.settings.timeout y.writing y.closing
      (s.evictedSince t v.handle) := by
    rw [hu.settings, hgoes.writing, hgoes.closing]
    exact htimely
  obtain ⟨y', hsinks, hgoes', hcalls'⟩ :=
    Delivery.touches_move d.flight.settings d.flight.payload hnow
  refine ⟨x, y', haimed, hbefore, ?_, hgoes.trans hgoes', ?_, ?_, ?_⟩
  · show (v.move d.flight.settings d.flight.payload t.gateway).1.sinks[v.sink]? = some y'
    rw [hsinks, List.getElem?_set_self (List.getElem?_eq_some_iff.1 hnow).1]
  · rw [hevicted, hcalls', hcalls]
    cases he : s.evictedSince t v.handle with
    | false => rfl
    | true =>
      rw [he] at htimely'
      rw [Delivery.evicts_of_timely hnow htimely']
      rfl
  · have hafter := Delivery.timely_move d.flight.payload hnow htimely'
    rw [hmove, hgoes.writing, hgoes.closing, ← hevicted, hu.settings] at hafter
    exact hafter
  · intro hp a ha
    rw [Dispatched.answersOf_moved, if_pos rfl] at ha
    rcases List.mem_append.1 ha with ha | ha
    · exact htaken hp a ha
    · rw [hu.settings] at htimely'
      exact (hgoes.prompt hp).answer_of_timely hnow htimely' (Option.mem_toList.1 ha)

theorem Underway.advances_other (hu : Underway s m t d) (hb : t.Booked) {k : Nat} {w : Delivery}
    (hw : w ∈ d.flight.deliveries) (hv : v ∈ d.flight.deliveries) (hne : w.handle ≠ v.handle)
    (u : Delivery) :
    ∃ x y, Advances s (t.afterMove d k v) (d.moved t.gateway k v u) w x y := by
  have hd : d ∈ t.dispatches := mem_dispatches hu.current
  obtain ⟨x, y, haimed, hbefore, hnow, hgoes, hcalls, htimely, htaken⟩ := hu.advances w hw
  have hevicted : s.evictedSince (t.afterMove d k v) w.handle = s.evictedSince t w.handle := by
    rw [hu.evictedSince_afterMove, decide_eq_false (Ne.symm hne), Bool.false_and, Bool.or_false]
  -- Two handles have two write sides.
  have hsink : v.sink ≠ w.sink := by
    obtain ⟨z, hz, hzsink, -⟩ := hb.aimed d hd v hv
    obtain ⟨z', hz', hzsink', -⟩ := hb.aimed d hd w hw
    intro heq
    exact hne (hb.unshared _ _ z' z hz' hz (hzsink'.trans (heq.symm.trans hzsink.symm)))
  obtain ⟨z, hz⟩ := hb.sink_of_delivery hd hv
  obtain ⟨z', hsinks, -⟩ := Delivery.touches_move d.flight.settings d.flight.payload hz
  refine ⟨x, y, haimed, hbefore, ?_, hgoes, by rw [hevicted]; exact hcalls,
    by rw [hevicted]; exact htimely, ?_⟩
  · show (v.move d.flight.settings d.flight.payload t.gateway).1.sinks[w.sink]? = some y
    rw [hsinks, List.getElem?_set_ne hsink, hnow]
  · intro hp a ha
    rw [Dispatched.answersOf_moved, if_neg hne, List.append_nil] at ha
    exact htaken hp a ha

theorem Underway.move (hu : Underway s m t d) (hb : t.Booked) {k : Nat}
    (hk : d.flight.deliveries[k]? = some v) :
    Underway s m (t.afterMove d k v) (d.moved t.gateway k v
      (v.move d.flight.settings d.flight.payload t.gateway).2) := by
  have hd : d ∈ t.dispatches := mem_dispatches hu.current
  have hv : v ∈ d.flight.deliveries := List.mem_of_getElem? hk
  obtain ⟨y, hy⟩ := hb.sink_of_delivery hd hv
  obtain ⟨st, hmove, -⟩ := Delivery.stage_move d.flight.settings d.flight.payload hy
  refine ⟨rfl, hu.past, hu.settings, hu.message, hu.snapshot,
    hu.removals.trans (List.prefix_append _ _), ?_⟩
  intro w hw
  have hw : w ∈ d.flight.deliveries.set k { v with stage := st } := hmove ▸ hw
  rcases (hb.exact d hd).mem_set hk hw with ⟨hw, hne⟩ | rfl
  · exact hu.advances_other hb hw hv hne _
  · obtain ⟨x, y, hadvances⟩ := hu.advances v hv
    exact hu.advances_self hadvances hmove _

/-! ## What it costs to serve a connection -/

theorem Booked.received (hb : s.Booked) {h : HandleId} {x : Sink}
    (hx : s.gateway.sinkOf? h = some x) : x.received = taken s.dispatches h := by
  obtain ⟨z, hz, hsink⟩ := Option.bind_eq_some_iff.1 hx
  obtain ⟨l, hlog, hreceived, -⟩ := hb.log h z hz
  rw [log?, hsink] at hlog
  obtain rfl := Option.some.inj hlog
  exact hreceived

/-- What it costs a dispatch, from one state to another, to serve a connection: its write and, if
the dispatch evicts it, its close, each as long as it lasts but no longer than the timeout. -/
def cost (s t : Traffic) (h : HandleId) : Nat :=
  match s.gateway.sinkOf? h with
  | some x =>
    x.writing.capped s.settings.timeout +
      if s.evictedSince t h then x.closing.capped s.settings.timeout else 0
  | none => 0

/-- A delivery that is over has ended when it has cost what it costs. -/
theorem Advances.time_of_isOver {t : Traffic} {x y : Sink} (ha : Advances s t d v x y)
    (hover : v.isOver = true) : v.stage.time = s.cost t v.handle := by
  have htimely := ha.timely
  simp only [cost, ha.aimed.sinkOf?, ha.before]
  cases hstage : v.stage with
  | ended time o =>
    rw [hstage] at htimely
    exact htimely
  | waiting | writing due ending | closing due ending =>
    simp [Delivery.isOver, Delivery.due?, hstage] at hover

end Traffic

end CandleRelay.Gateway
