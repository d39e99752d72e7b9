import CandleRelay.Proofs.Traffic.Pace
import CandleRelay.Proofs.Traffic.Reports

/-!
# What closes tell on

An eviction takes its connection out of the registry, closes the write side under the timeout, and
is counted when the close is over. The write is guarded: one that breaks down is a failure like any
other. The close is not, and one that breaks down takes its task with it, at a point where the
connection is out of the registry and has not been counted as evicted. So closes tell on the
evictions, in the report and in the counters, and they tell on nothing else.

What is proved:
  1. `AlikeButCloses.advanceAll`: from two gateways that differ in closes and counted evictions
     only, the same deliveries come to two such gateways, and the same of them succeed. Each of the
     four moves of a delivery keeps this.
  2. `evictions_advanceAll`: what is counted is the deliveries whose connection has ended, was not
     left by its client, and has a close that does not break down.
  3. `countP_launch`: of a dispatch these are the registrations it has ended, broken closes aside.
  4. `closes_tell_on_evictions`: both together, for all closes and all orders of the tasks' steps.
  5. `broken_close_not_counted`: a connection whose close breaks down is gone from the registry, and
     no eviction has been counted.
-/

namespace CandleRelay.Gateway

variable {g g' g'' : Gateway} {d : Delivery} {settings : Settings} {payload : Bytes}

/-! ## Apart from closes -/

/-- A write side but for how a close of it runs and whether one has come to its end. -/
def Sink.unclosed (s : Sink) : Sink := { s with closing := .after 0, closed := false }

/-- Nobody tells the two gateways apart who does not look at closes and does not count evictions. -/
structure AlikeButCloses (g g' : Gateway) : Prop where
  registry : g.registry = g'.registry
  sinks : ∀ k : SinkId, (g.sinks[k]?).map Sink.unclosed = (g'.sinks[k]?).map Sink.unclosed
  sessions : g.sessions = g'.sessions
  metrics : { g.metrics with evictions := 0 } = { g'.metrics with evictions := 0 }

namespace AlikeButCloses

theorem refl (g : Gateway) : g.AlikeButCloses g := ⟨rfl, fun _ => rfl, rfl, rfl⟩

theorem symm (h : g.AlikeButCloses g') : g'.AlikeButCloses g :=
  ⟨h.registry.symm, fun k => (h.sinks k).symm, h.sessions.symm, h.metrics.symm⟩

theorem trans (h : g.AlikeButCloses g') (h' : g'.AlikeButCloses g'') : g.AlikeButCloses g'' :=
  ⟨h.registry.trans h'.registry, fun k => (h.sinks k).trans (h'.sinks k),
    h.sessions.trans h'.sessions, h.metrics.trans h'.metrics⟩

theorem withRegistry (h : g.AlikeButCloses g') (r : Registry) :
    ({ g with registry := r } : Gateway).AlikeButCloses { g' with registry := r } :=
  ⟨rfl, h.sinks, h.sessions, h.metrics⟩

theorem count (h : g.AlikeButCloses g') (c : Counter) :
    (g.count c).AlikeButCloses (g'.count c) := by
  have hbump : ∀ m : Metrics, { m.bump c with evictions := 0 } =
      if c = .evictions then { m with evictions := 0 }
      else ({ m with evictions := 0 } : Metrics).bump c := by
    intro m
    cases c <;> rfl
  refine ⟨h.registry, h.sinks, h.sessions, ?_⟩
  show ({ g.metrics.bump c with evictions := 0 } : Metrics) =
    { g'.metrics.bump c with evictions := 0 }
  rw [hbump, hbump, h.metrics]

theorem modify (h : g.AlikeButCloses g') (k : SinkId) {f : Sink → Sink}
    (hf : ∀ s : Sink, (f s).unclosed = (f s.unclosed).unclosed) :
    ({ g with sinks := g.sinks.modify k f } : Gateway).AlikeButCloses
      { g' with sinks := g'.sinks.modify k f } := by
  refine ⟨h.registry, fun j => ?_, h.sessions, h.metrics⟩
  have hread : ∀ o : Option Sink, (o.map fun s => if k = j then f s else s).map Sink.unclosed =
      (o.map Sink.unclosed).map fun s => if k = j then (f s).unclosed else s := by
    intro o
    cases o with
    | none => rfl
    | some s =>
      by_cases hk : k = j
      · simp [hk, hf s]
      · simp [hk]
  simp only [List.getElem?_modify, Option.map_eq_map, hread, h.sinks j]

theorem set (h : g.AlikeButCloses g') (k : SinkId) (s s' : Sink) (hs : s.unclosed = s'.unclosed) :
    ({ g with sinks := g.sinks.set k s } : Gateway).AlikeButCloses
      { g' with sinks := g'.sinks.set k s' } := by
  refine ⟨h.registry, fun j => ?_, h.sessions, h.metrics⟩
  have hread : ∀ (o : Option Sink) (s : Sink),
      (if k = j then Function.const Sink s <$> o else o).map Sink.unclosed =
        (o.map Sink.unclosed).map fun x => if k = j then s.unclosed else x := by
    intro o s
    cases o <;> by_cases hk : k = j <;> simp [hk]
  simp only [List.getElem?_set', hread, h.sinks j, hs]

theorem closed (g : Gateway) (k : SinkId) : g.AlikeButCloses
    { g with sinks := g.sinks.modify k fun s => { s with closed := true } } := by
  refine ⟨rfl, fun j => ?_, rfl, rfl⟩
  simp only [List.getElem?_modify, Option.map_eq_map, Option.map_map]
  congr 1
  funext s
  simp only [Function.comp]
  split <;> rfl

theorem evicted (g : Gateway) : g.AlikeButCloses (g.count .evictions) :=
  ⟨rfl, fun _ => rfl, rfl, rfl⟩

theorem sink? (h : g.AlikeButCloses g') (k : SinkId) :
    (g.sinks[k]? = none ∧ g'.sinks[k]? = none) ∨ ∃ (s : Sink) (p : Pace) (b : Bool),
      g.sinks[k]? = some s ∧ g'.sinks[k]? = some { s with closing := p, closed := b } := by
  have hsame := h.sinks k
  cases hs : g.sinks[k]? with
  | none =>
    rw [hs, Option.map_none] at hsame
    exact Or.inl ⟨rfl, Option.map_eq_none_iff.1 hsame.symm⟩
  | some s =>
    rw [hs, Option.map_some] at hsame
    obtain ⟨s', hs', hunclosed⟩ := Option.map_eq_some_iff.1 hsame.symm
    refine Or.inr ⟨s, s'.closing, s'.closed, rfl, ?_⟩
    rw [hs']
    cases s with
    | mk manner received attempts closeCalls closed =>
      cases s' with
      | mk manner' received' attempts' closeCalls' closed' =>
        cases manner
        cases manner'
        simp only [Sink.unclosed, Sink.mk.injEq, Manner.mk.injEq] at hunclosed ⊢
        simp [hunclosed]

end AlikeButCloses

/-- What a stage says of a delivery but for how its close ends: a delivery that closes has evicted.
-/
def Stage.verdict? : Stage → Option Outcome
  | .closing _ _ => some .evicted
  | .ended _ o => some o
  | _ => none

namespace AlikeButCloses

theorem start (settings : Settings) (h : g.AlikeButCloses g') (d : Delivery) :
    (d.start settings g).1.AlikeButCloses (d.start settings g').1 ∧
      (d.start settings g).2 = (d.start settings g').2 := by
  rcases h.sink? d.sink with ⟨hs, hs'⟩ | ⟨s, p, b, hs, hs'⟩
  · simp only [Delivery.start, hs, hs']
    exact ⟨h, trivial⟩
  · have hattempt := h.modify d.sink (f := Sink.attempt) fun _ => rfl
    have hleave := hattempt.withRegistry (g.registry.unregister d.id).2
    cases hleaves : s.leaves with
    | false =>
      simp only [Delivery.start, hs, hs', hleaves, Bool.false_eq_true, if_false]
      exact ⟨hattempt, trivial⟩
    | true =>
      simp only [Delivery.start, hs, hs', hleaves, if_true, ← h.registry]
      exact ⟨hleave, trivial⟩

theorem fail (h : g.AlikeButCloses g') (d : Delivery) (now : Nat) (pace pace' : Pace) :
    (d.fail settings now pace g).1.AlikeButCloses (d.fail settings now pace' g').1 ∧
      (d.fail settings now pace g).2.stage.verdict? =
        (d.fail settings now pace' g').2.stage.verdict? := by
  obtain ⟨streak, r, hf⟩ : ∃ streak r, g.registry.recordFailure d.handle = (streak, r) :=
    ⟨_, _, rfl⟩
  have hf' : g'.registry.recordFailure d.handle = (streak, r) := h.registry ▸ hf
  have hcounted := h.count .deliveryFailures
  -- Both are below the limit or come too late, or both evict, for both look at the same registry.
  rcases Delivery.fail_cases settings hf now pace with ⟨hno, hfail⟩ | ⟨hlimit, k, hgot, hfail⟩ <;>
    rcases Delivery.fail_cases settings hf' now pace' with
      ⟨hno', hfail'⟩ | ⟨hlimit', k', hgot', hfail'⟩
  · rw [hfail, hfail']
    exact ⟨hcounted.withRegistry r, rfl⟩
  · rw [hno.resolve_left hlimit'] at hgot'
    simp at hgot'
  · rw [hno'.resolve_left hlimit] at hgot
    simp at hgot
  · rw [hfail, hfail']
    have hclose := hcounted.modify d.sink (f := Sink.beginClose) fun _ => rfl
    exact ⟨hclose.withRegistry (r.unregister d.id).2, rfl⟩

theorem writeResult (payload : Bytes) (ending : Ending) (s : Sink) (p : Pace) (b : Bool) :
    Delivery.writeResult payload ending { s with closing := p, closed := b } =
      ((Delivery.writeResult payload ending s).1,
        { (Delivery.writeResult payload ending s).2 with closing := p, closed := b }) := by
  cases ending with
  | inTime =>
    simp only [Delivery.writeResult, Sink.finish]
    split <;> rfl
  | timedOut | broken => rfl

theorem settle (settings : Settings) (payload : Bytes) (h : g.AlikeButCloses g') (d : Delivery)
    (due : Nat) (ending : Ending) :
    (d.settle settings payload due ending g).1.AlikeButCloses
        (d.settle settings payload due ending g').1 ∧
      (d.settle settings payload due ending g).2.stage.verdict? =
        (d.settle settings payload due ending g').2.stage.verdict? := by
  rcases h.sink? d.sink with ⟨hs, hs'⟩ | ⟨s, p, b, hs, hs'⟩
  · simp only [Delivery.settle, hs, hs']
    exact ⟨h, trivial⟩
  · simp only [Delivery.settle, hs, hs', writeResult]
    cases hw : Delivery.writeResult payload ending s with
    | mk result x =>
      have hset := h.set d.sink x { x with closing := p, closed := b } rfl
      cases result with
      | ok u =>
        refine ⟨?_, rfl⟩
        have hsuccess := hset.withRegistry (g.registry.recordSuccess d.handle)
        simp only [← h.registry]
        exact hsuccess.count .deliveries
      | error e => exact hset.fail d due x.closing p

end AlikeButCloses

/-! ## One delivery -/

namespace Delivery

/-- A delivery until something has come of its write. -/
def settled (settings : Settings) (payload : Bytes) (g : Gateway) (d : Delivery) :
    Gateway × Delivery :=
  (d.start settings g).2.move settings payload (d.start settings g).1

theorem moveBefore_none_eq (gd : Gateway × Delivery) :
    moveBefore settings payload none gd = gd.2.move settings payload gd.1 := by
  obtain ⟨g, d⟩ := gd
  cases hstage : d.stage <;> simp [moveBefore, due?, move, hstage]

theorem advance_of_waiting (hstage : d.stage = .waiting) :
    advance settings payload none (g, d) =
      (d.settled settings payload g).2.move settings payload (d.settled settings payload g).1 := by
  have hfirst : d.move settings payload g = d.start settings g := by rw [move, hstage]
  simp only [advance, moveBefore_none_eq, hfirst, settled]

theorem stage_start (settings : Settings) (g : Gateway) (d : Delivery) :
    (∃ due ending, (d.start settings g).2.stage = .writing due ending) ∨
      (d.start settings g).2.stage = .ended 0 .failed := by
  simp only [start]
  split
  · exact Or.inr rfl
  · exact Or.inl ⟨_, _, rfl⟩

theorem exists_verdict? {st : Stage} (h : st.answered = true) :
    ∃ o, st.verdict? = some o := by
  cases st with
  | closing due ending => exact ⟨.evicted, rfl⟩
  | ended time o => exact ⟨o, rfl⟩
  | waiting | writing due ending => simp [Stage.answered] at h

theorem move_of_verdict? (settings : Settings) (payload : Bytes) (g : Gateway) {o : Outcome}
    (ho : d.stage.verdict? = some o) :
    g.AlikeButCloses (d.move settings payload g).1 ∧
      ∃ time o', (d.move settings payload g).2.stage = .ended time o' ∧
        (o' = .delivered ↔ o = .delivered) := by
  cases hstage : d.stage with
  | waiting | writing due ending => simp [hstage, Stage.verdict?] at ho
  | ended time o' =>
    obtain rfl : o' = o := by simpa [hstage, Stage.verdict?] using ho
    simp only [move, hstage]
    exact ⟨.refl g, time, o', rfl, Iff.rfl⟩
  | closing due ending =>
    obtain rfl : .evicted = o := by simpa [hstage, Stage.verdict?] using ho
    simp only [move, hstage]
    cases ending with
    | broken => exact ⟨.refl g, due, .failed, rfl, by simp⟩
    | timedOut => exact ⟨.evicted g, due, .evicted, rfl, by simp⟩
    | inTime =>
      have hclosed := AlikeButCloses.closed g d.sink
      exact ⟨hclosed.trans (.evicted _), due, .evicted, rfl, by simp⟩

end Delivery

namespace AlikeButCloses

theorem settled (settings : Settings) (payload : Bytes) (h : g.AlikeButCloses g')
    (d : Delivery) :
    (d.settled settings payload g).1.AlikeButCloses (d.settled settings payload g').1 ∧
      ∃ o, (d.settled settings payload g).2.stage.verdict? = some o ∧
        (d.settled settings payload g').2.stage.verdict? = some o := by
  obtain ⟨hstart, hsame⟩ := h.start settings d
  simp only [Delivery.settled, ← hsame]
  rcases Delivery.stage_start settings g d with ⟨due, ending, hstage⟩ | hstage
  · simp only [Delivery.move, hstage]
    obtain ⟨hsettle, hverdict⟩ := hstart.settle settings payload (d.start settings g).2 due
      ending
    obtain ⟨st, hst, hanswered⟩ := Delivery.stage_settle settings payload (d.start settings g).1
      (d.start settings g).2 due ending
    obtain ⟨o, ho⟩ := Delivery.exists_verdict? hanswered
    have hfirst : ((d.start settings g).2.settle settings payload due ending
        (d.start settings g).1).2.stage.verdict? = some o := by rw [hst]; exact ho
    exact ⟨hsettle, o, hfirst, hverdict ▸ hfirst⟩
  · simp only [Delivery.move, hstage]
    exact ⟨hstart, .failed, rfl, rfl⟩

/-- A delivery goes its way whatever becomes of closes. -/
theorem advance (settings : Settings) (payload : Bytes) (h : g.AlikeButCloses g')
    (hstage : d.stage = .waiting) :
    let r := Delivery.advance settings payload none (g, d)
    let r' := Delivery.advance settings payload none (g', d)
    r.1.AlikeButCloses r'.1 ∧ ∃ o o', r.2.stage.outcome? = some o ∧
      r'.2.stage.outcome? = some o' ∧ (o = .delivered ↔ o' = .delivered) := by
  intro r r'
  obtain ⟨hsettled, v, hv, hv'⟩ := h.settled settings payload d
  obtain ⟨hend, time, o, ho, hsame⟩ := Delivery.move_of_verdict? settings payload
    (d.settled settings payload g).1 hv
  obtain ⟨hend', time', o', ho', hsame'⟩ := Delivery.move_of_verdict? settings payload
    (d.settled settings payload g').1 hv'
  have hr : r = _ := Delivery.advance_of_waiting hstage
  have hr' : r' = _ := Delivery.advance_of_waiting hstage
  rw [hr, hr', ho, ho']
  exact ⟨hend.symm.trans (hsettled.trans hend'), o, o', rfl, rfl, hsame.trans hsame'.symm⟩

theorem advanceAll (settings : Settings) (payload : Bytes) (h : g.AlikeButCloses g')
    {ds : List Delivery} (hstage : ∀ d ∈ ds, d.stage = .waiting) :
    let r := Flight.advanceAll settings payload none g ds
    let r' := Flight.advanceAll settings payload none g' ds
    r.1.AlikeButCloses r'.1 ∧
      (r.2.filterMap (·.stage.outcome?)).map (· == .delivered) =
        (r'.2.filterMap (·.stage.outcome?)).map (· == .delivered) := by
  induction ds generalizing g g' with
  | nil => exact ⟨h, rfl⟩
  | cons d ds ih =>
    obtain ⟨hfirst, o, o', ho, ho', hsame⟩ := h.advance settings payload
      (hstage d List.mem_cons_self)
    obtain ⟨hrest, houtcomes⟩ := ih hfirst fun d' hd' => hstage d' (List.mem_cons_of_mem d hd')
    refine ⟨hrest, ?_⟩
    have hhead : (o == .delivered) = (o' == .delivered) := by
      rw [Bool.eq_iff_iff, beq_iff_eq, beq_iff_eq]
      exact hsame
    simp only [Flight.advanceAll, List.filterMap_cons, ho, ho', List.map_cons, hhead, houtcomes]

end AlikeButCloses

/-! ## Evictions that are counted -/

theorem Registry.contains_unregister (r : Registry) (id c : ConnectionId) :
    (r.unregister id).2.contains c = if c = id then false else r.contains c := by
  rw [Registry.contains_eq, Registry.find?_unregister]
  split <;> rfl

namespace Delivery

/-- Where a delivery stands that is over or closes, and who is registered then: an eviction takes
one connection out of the registry, its own, and nothing else takes anybody out. -/
structure Reckoned (settings : Settings) (g : Gateway) (d : Delivery) (s : Sink)
    (r : Gateway × Delivery) : Prop where
  others : ∀ c, c ≠ d.id → r.1.registry.contains c = g.registry.contains c
  evictions : r.1.metrics.evictions = g.metrics.evictions
  sinks : ∀ k, k ≠ d.sink → r.1.sinks[k]? = g.sinks[k]?
  own : (∃ time o, r.2.stage = .ended time o ∧ o ≠ .evicted ∧
      r.1.registry.contains d.id = g.registry.contains d.id) ∨
    ∃ due, r.2.stage = .closing due (s.closing.within settings.timeout).2 ∧
      g.registry.contains d.id = true ∧ r.1.registry.contains d.id = false

theorem reckoned_fail (settings : Settings) (g : Gateway) (d : Delivery) (s : Sink) (now : Nat) :
    Reckoned settings g d s (d.fail settings now s.closing g) := by
  obtain ⟨streak, r, hf⟩ : ∃ streak r, g.registry.recordFailure d.handle = (streak, r) :=
    ⟨_, _, rfl⟩
  have hsame : ∀ c, r.contains c = g.registry.contains c := by
    intro c
    obtain rfl : (g.registry.recordFailure d.handle).2 = r := congrArg Prod.snd hf
    rfl
  rcases fail_cases settings hf now s.closing with ⟨-, hfail⟩ | ⟨-, h, hgot, hfail⟩
  · rw [hfail]
    exact ⟨fun c _ => hsame c, rfl, fun _ _ => rfl,
      Or.inl ⟨now, .failed, rfl, by simp, hsame d.id⟩⟩
  · rw [hfail]
    have hregistered : g.registry.contains d.id = true := by
      rw [Registry.fst_unregister] at hgot
      obtain ⟨e, he, -⟩ := Option.map_eq_some_iff.1 hgot
      rw [← hsame, Registry.contains_eq, he]
      rfl
    have hleft : ∀ c, (r.unregister d.id).2.contains c =
        if c = d.id then false else g.registry.contains c :=
      fun c => by rw [Registry.contains_unregister, hsame]
    refine ⟨fun c hc => (hleft c).trans (if_neg hc), rfl, fun k hk => ?_,
      Or.inr ⟨_, rfl, hregistered, (hleft d.id).trans (if_pos rfl)⟩⟩
    exact List.getElem?_modify_ne _ _ (Ne.symm hk)

theorem reckoned_settle (settings : Settings) (payload : Bytes) {s : Sink}
    (hs : g.sinks[d.sink]? = some s) (due : Nat) (ending : Ending) :
    Reckoned settings g d s (d.settle settings payload due ending g) := by
  cases hw : writeResult payload ending s with
  | mk result x =>
    have hclosing : x.closing = s.closing := by
      have hgoes := (goesOn_writeResult payload ending s).1
      rw [hw] at hgoes
      exact hgoes.closing
    have hset : ∀ k, k ≠ d.sink → (g.sinks.set d.sink x)[k]? = g.sinks[k]? :=
      fun k hk => List.getElem?_set_ne (Ne.symm hk)
    cases result with
    | ok u =>
      simp only [settle, hs, hw]
      exact ⟨fun _ _ => rfl, rfl, hset, Or.inl ⟨due, .delivered, rfl, by simp, rfl⟩⟩
    | error e =>
      simp only [settle, hs, hw]
      have hfail := reckoned_fail settings { g with sinks := g.sinks.set d.sink x } d x due
      refine ⟨hfail.others, hfail.evictions, fun k hk => (hfail.sinks k hk).trans (hset k hk), ?_⟩
      rw [← hclosing]
      exact hfail.own

/-- Whether a delivery's connection has ended since, was not left by its client, and has a close
that does not break down. -/
def countsAsEvicted (settings : Settings) (g : Gateway) (r : Registry) (d : Delivery) : Bool :=
  !r.contains d.id && (g.sinks[d.sink]?).any fun s =>
    !s.leaves && (s.closing.within settings.timeout).2 != .broken

theorem countsAsEvicted_congr {r r' : Registry} (hregistered : r.contains d.id = r'.contains d.id)
    (hsink : g.sinks[d.sink]? = g'.sinks[d.sink]?) :
    d.countsAsEvicted settings g r = d.countsAsEvicted settings g' r' := by
  rw [countsAsEvicted, countsAsEvicted, hregistered, hsink]

/-- A delivery from its beginning to its end: who is registered afterwards, and whether it counts as
an eviction. -/
structure Served (settings : Settings) (g : Gateway) (d : Delivery) (r : Gateway × Delivery) :
    Prop where
  others : ∀ c, c ≠ d.id → r.1.registry.contains c = g.registry.contains c
  sinks : ∀ k, k ≠ d.sink → r.1.sinks[k]? = g.sinks[k]?
  outcome : ∃ time o, r.2.stage = .ended time o ∧
    (o == .evicted) = d.countsAsEvicted settings g r.1.registry ∧
    r.1.metrics.evictions = g.metrics.evictions + (o == .evicted).toNat

theorem start_of_sink (settings : Settings) {s : Sink} (hs : g.sinks[d.sink]? = some s) :
    (∃ due ending, (d.start settings g).2 = { d with stage := .writing due ending }) ∧
      (d.start settings g).1.sinks = g.sinks.modify d.sink Sink.attempt ∧
      (d.start settings g).1.metrics = g.metrics ∧
      ∀ c, (d.start settings g).1.registry.contains c =
        if c = d.id ∧ s.leaves = true then false else g.registry.contains c := by
  simp only [start, hs]
  refine ⟨⟨_, _, rfl⟩, ?_, ?_, fun c => ?_⟩
  · split <;> rfl
  · split <;> rfl
  · split
    · next hleaves =>
      simp only [hleaves, and_true, Registry.contains_unregister]
    · next hstays => simp [hstays]

/-- The last move of a delivery that is over or closes: it touches no registration, and counts an
eviction unless the close breaks down. -/
theorem move_of_reckoned (payload : Bytes) {s : Sink} {r : Gateway × Delivery}
    (h : Reckoned settings g d s r) (hsink : r.2.sink = d.sink) :
    let r' := r.2.move settings payload r.1
    r'.1.registry = r.1.registry ∧ (∀ k, k ≠ d.sink → r'.1.sinks[k]? = r.1.sinks[k]?) ∧
      ∃ time o, r'.2.stage = .ended time o ∧
        (o == .evicted) = (g.registry.contains d.id && !r.1.registry.contains d.id &&
          (s.closing.within settings.timeout).2 != .broken) ∧
        r'.1.metrics.evictions = g.metrics.evictions + (o == .evicted).toNat := by
  intro r'
  rcases h.own with ⟨time, o, hstage, hnot, hown⟩ | ⟨due, hstage, hbefore, hafter⟩
  · have hr' : r' = r := by simp only [r', move, hstage]
    have hno : (o == .evicted) = false := by simpa using hnot
    rw [hr']
    refine ⟨rfl, fun _ _ => rfl, time, o, hstage, ?_, ?_⟩
    · rw [hno, hown]
      cases g.registry.contains d.id <;> rfl
    · rw [hno]
      exact h.evictions
  · have hother : ∀ k, k ≠ d.sink →
        (r.1.sinks.modify r.2.sink fun x => { x with closed := true })[k]? = r.1.sinks[k]? :=
      fun k hk => List.getElem?_modify_ne _ _ fun heq => hk (heq ▸ hsink)
    have hcounted : (r.1.count .evictions).metrics.evictions = g.metrics.evictions + 1 :=
      congrArg (· + 1) h.evictions
    have hr' : r' = r.2.finishClose due (s.closing.within settings.timeout).2 r.1 := by
      simp only [r', move, hstage]
    rw [hr', hbefore, hafter]
    cases (s.closing.within settings.timeout).2 with
    | broken => exact ⟨rfl, fun _ _ => rfl, due, .failed, rfl, rfl, h.evictions⟩
    | timedOut => exact ⟨rfl, fun _ _ => rfl, due, .evicted, rfl, rfl, hcounted⟩
    | inTime => exact ⟨rfl, hother, due, .evicted, rfl, rfl, hcounted⟩

theorem served_advance (settings : Settings) (payload : Bytes) (hstage : d.stage = .waiting)
    (hreg : g.registry.contains d.id = true) :
    Served settings g d (advance settings payload none (g, d)) := by
  rw [advance_of_waiting hstage, settled]
  cases hs : g.sinks[d.sink]? with
  | none =>
    simp only [start, hs, move]
    refine ⟨fun _ _ => rfl, fun _ _ => rfl, 0, .failed, rfl, ?_, rfl⟩
    simp [countsAsEvicted, hreg]
  | some s =>
    obtain ⟨⟨due, ending, hwriting⟩, hsinks, hmetrics, hleft⟩ := start_of_sink settings hs
    have hs₁ : (d.start settings g).1.sinks[d.sink]? = some s.attempt := by
      rw [hsinks, List.getElem?_modify_eq, hs]
      rfl
    have hreckoned := reckoned_settle settings payload
      (d := { d with stage := .writing due ending }) hs₁ due ending
    obtain ⟨st, hst, -⟩ := stage_settle settings payload (d.start settings g).1
      { d with stage := .writing due ending } due ending
    obtain ⟨hregistry, hother, time, o, hended, hcounts, hevictions⟩ :=
      move_of_reckoned payload hreckoned (by rw [hst])
    rw [hwriting]
    have hfirst : move settings payload (d.start settings g).1
        { d with stage := .writing due ending } = settle settings payload due ending
          (d.start settings g).1 { d with stage := .writing due ending } := rfl
    rw [hfirst]
    refine ⟨fun c hc => ?_, fun k hk => ?_, time, o, hended, ?_, ?_⟩
    · rw [hregistry, hreckoned.others c hc, hleft c, if_neg fun h => hc h.1]
    · rw [hother k hk, hreckoned.sinks k hk, hsinks, List.getElem?_modify_ne _ _ (Ne.symm hk)]
    · rw [hcounts, hregistry, countsAsEvicted, hs, Option.any_some, hleft d.id, hreg]
      cases s.leaves <;> simp [Sink.attempt]
    · rw [hevictions, hmetrics]

end Delivery

/-! ## All deliveries -/

/-- Of deliveries to different connections as many count as evictions as end connections that were
not left by their clients, closes that break down aside. -/
theorem evictions_advanceAll (settings : Settings) (payload : Bytes) {ds : List Delivery}
    (hstage : ∀ d ∈ ds, d.stage = .waiting)
    (hreg : ∀ d ∈ ds, g.registry.contains d.id = true)
    (hids : (ds.map (·.id)).Nodup) (hsinks : (ds.map (·.sink)).Nodup) :
    let r := Flight.advanceAll settings payload none g ds
    let evicted := (r.2.filterMap (·.stage.outcome?)).count .evicted
    (∀ c, c ∉ ds.map (·.id) → r.1.registry.contains c = g.registry.contains c) ∧
      evicted = ds.countP (·.countsAsEvicted settings g r.1.registry) ∧
      r.1.metrics.evictions = g.metrics.evictions + evicted := by
  induction ds generalizing g with
  | nil => exact ⟨fun _ _ => rfl, rfl, rfl⟩
  | cons d ds ih =>
    rw [List.map_cons, List.nodup_cons] at hids hsinks
    obtain ⟨hothers, hsink, time, o, ho, hcounts, hgrown⟩ :=
      Delivery.served_advance settings payload (hstage d List.mem_cons_self)
        (hreg d List.mem_cons_self)
    intro r evicted
    let first := Delivery.advance settings payload none (g, d)
    have hne : ∀ d' ∈ ds, d'.id ≠ d.id ∧ d'.sink ≠ d.sink := fun d' hd' =>
      ⟨fun h => hids.1 (h ▸ List.mem_map_of_mem hd'),
        fun h => hsinks.1 (h ▸ List.mem_map_of_mem hd')⟩
    obtain ⟨hrest, hrestCounts, hrestGrown⟩ := ih (g := first.1)
      (fun d' hd' => hstage d' (List.mem_cons_of_mem d hd'))
      (fun d' hd' => by
        rw [hothers d'.id (hne d' hd').1]
        exact hreg d' (List.mem_cons_of_mem d hd'))
      hids.2 hsinks.2
    have hevicted : evicted = ((Flight.advanceAll settings payload none first.1 ds).2.filterMap
        (·.stage.outcome?)).count .evicted + (o == .evicted).toNat := by
      simp only [evicted, r, Flight.advanceAll, List.filterMap_cons, ho, Stage.outcome?,
        List.count_cons, first]
      cases o <;> rfl
    refine ⟨fun c hc => ?_, ?_, ?_⟩
    · rw [List.map_cons, List.mem_cons, not_or] at hc
      exact (hrest c hc.2).trans (hothers c hc.1)
    · -- What the others do changes neither this delivery's reckoning nor this one theirs.
      have hown : d.countsAsEvicted settings g r.1.registry =
          d.countsAsEvicted settings g first.1.registry :=
        Delivery.countsAsEvicted_congr (hrest d.id hids.1) rfl
      have htheirs : ds.countP (·.countsAsEvicted settings first.1 r.1.registry) =
          ds.countP (·.countsAsEvicted settings g r.1.registry) := by
        refine List.countP_congr fun d' hd' => ?_
        rw [Delivery.countsAsEvicted_congr rfl (hsink d'.sink (hne d' hd').2)]
      rw [hevicted, hrestCounts, List.countP_cons, hown, ← hcounts]
      refine congrArg₂ (· + ·) htheirs ?_
      cases o <;> rfl
    · rw [hevicted]
      refine hrestGrown.trans ?_
      rw [hgrown]
      omega

/-! ## Whom a dispatch ends -/

/-- The registrations that a dispatch has ended: they are not in the registry that it leaves, and
their clients did not leave by themselves. -/
def endedIn (g : Gateway) (r : Registry) : List Registration :=
  g.registry.entries.filter fun e =>
    !r.contains e.id && (g.sinkOf? e.handle).any fun s => !s.leaves

/-- Whether a close of the connection breaks down. -/
def breaksDown (settings : Settings) (g : Gateway) (e : Registration) : Bool :=
  (g.sinkOf? e.handle).any fun s => (s.closing.within settings.timeout).2 == .broken

variable {m : Message} {r : Registry}

theorem nodup_launch (settings : Settings) (m : Message) (hsound : g.registry.Sound)
    (hunshared : g.registry.Unshared) :
    ((Flight.launch settings g m).deliveries.map (·.id)).Nodup ∧
      ((Flight.launch settings g m).deliveries.map (·.sink)).Nodup := by
  have hexact : (Dispatched.launch settings g m).Exact := Dispatched.exact_launch hsound
  have hnodup : (Flight.launch settings g m).deliveries.Nodup :=
    List.Nodup.of_map (·.handle) (hexact.handles ▸ hexact.snapshot.nodup_matching)
  have hseparate := separate_targets hsound hunshared m.topic
  have happart : ∀ d ∈ (Flight.launch settings g m).deliveries,
      ∀ d' ∈ (Flight.launch settings g m).deliveries, d ≠ d' → d.target.Apart d'.target := by
    intro d hd d' hd' hne
    obtain ⟨hwaits, htarget⟩ := target_of_mem_launch hd
    obtain ⟨hwaits', htarget'⟩ := target_of_mem_launch hd'
    refine hseparate _ htarget _ htarget' fun heq => hne ?_
    cases d
    cases d'
    simp_all [Delivery.target]
  exact ⟨(List.nodup_map_iff_inj_on hnodup).2 fun d hd d' hd' heq =>
      by_contra fun hne => (happart d hd d' hd' hne).id heq,
    (List.nodup_map_iff_inj_on hnodup).2 fun d hd d' hd' heq =>
      by_contra fun hne => (happart d hd d' hd' hne).sink heq⟩

theorem contains_of_mem_launch (hsound : g.registry.Sound)
    (hd : d ∈ (Flight.launch settings g m).deliveries) : g.registry.contains d.id = true := by
  obtain ⟨-, e, -, -, -, he, -, hid, -⟩ :=
    registration_of_target hsound (target_of_mem_launch hd).2
  have hfind := hsound.find?_of_mem he
  rw [hid] at hfind
  rw [Registry.contains_eq]
  exact hfind ▸ rfl

/-- Only who wants the topic can have been ended, and the deliveries that count as evictions are
those of the connections that were, closes that break down aside. -/
theorem countP_launch (hsound : g.registry.Sound)
    (hothers : ∀ c, c ∉ (Flight.launch settings g m).deliveries.map (·.id) →
      r.contains c = g.registry.contains c) :
    (Flight.launch settings g m).deliveries.countP (·.countsAsEvicted settings g r) =
      (g.endedIn r).countP fun e => !g.breaksDown settings e := by
  simp only [Flight.launch, Registry.matching, List.countP_filterMap, List.countP_map, endedIn,
    List.countP_filter]
  refine List.countP_congr fun e he => ?_
  obtain ⟨x, hx, hid, -⟩ := hsound.live e he
  have hsink : g.sinkOf? e.handle = g.sinks[x.sink]? := by simp [sinkOf?, hx]
  cases hwants : e.topics.contains m.topic with
  | false =>
    have hkept : r.contains e.id = true := by
      rw [hothers e.id, Registry.contains_eq, hsound.find?_of_mem he]
      · rfl
      · intro hmem
        obtain ⟨d, hd, heq⟩ := List.mem_map.1 hmem
        obtain ⟨-, e', -, -, -, he', -, hid', htopic⟩ :=
          registration_of_target hsound (target_of_mem_launch hd).2
        have hsame : e' = e := List.inj_on_of_nodup_map hsound.ids he' he (hid'.trans heq)
        rw [hsame, hwants] at htopic
        simp at htopic
    simp [hkept]
  | true =>
    simp only [Function.comp, hx, hsink, Option.map_some, Delivery.countsAsEvicted, breaksDown, hid]
    cases g.sinks[x.sink]? <;> simp [and_comm, and_left_comm, and_assoc]

/-! ## What closes tell on -/

/-- The gateway with closes that run so. -/
def closingAs (g : Gateway) (closes : SinkId → Pace) : Gateway :=
  { g with sinks := g.sinks.mapIdx fun k s => { s with closing := closes k } }

/-- The gateway with closes that end at once. -/
def calm (g : Gateway) : Gateway := g.closingAs fun _ => .after 0

theorem calm_closingAs (g : Gateway) (closes : SinkId → Pace) :
    (g.closingAs closes).calm = g.calm := by
  simp only [calm, closingAs, List.mapIdx_mapIdx]
  rfl

theorem AlikeButCloses.calm (g : Gateway) : g.AlikeButCloses g.calm := by
  refine ⟨rfl, fun k => ?_, rfl, rfl⟩
  simp only [Gateway.calm, closingAs, List.getElem?_mapIdx, Option.map_map]
  rfl

/-- Whom a dispatch has ended does not depend on closes. -/
theorem AlikeButCloses.endedIn (h : g.AlikeButCloses g') (r : Registry) :
    g.endedIn r = g'.endedIn r := by
  have hleaves : ∀ k : HandleId, ((g.sinkOf? k).any fun s => !s.leaves) =
      (g'.sinkOf? k).any fun s => !s.leaves := by
    intro k
    simp only [sinkOf?, ← h.registry]
    cases g.registry.handles[k]? with
    | none => rfl
    | some x =>
      simp only [Option.bind_some]
      rcases h.sink? x.sink with ⟨hs, hs'⟩ | ⟨s, p, b, hs, hs'⟩
      · rw [hs, hs']
      · rw [hs, hs']
        rfl
  simp only [Gateway.endedIn, h.registry, hleaves]

theorem breaksDown_calm (settings : Settings) (g : Gateway) (e : Registration) :
    g.calm.breaksDown settings e = false := by
  simp only [breaksDown, sinkOf?, calm, closingAs]
  cases g.registry.handles[e.handle]? with
  | none => rfl
  | some x =>
    simp only [Option.bind_some, List.getElem?_mapIdx]
    cases g.sinks[x.sink]? with
    | none => rfl
    | some s => simp [Pace.within]

theorem Flight.report_of_delivered {f f' : Flight}
    (hmatched : f.deliveries.length = f'.deliveries.length)
    (hdelivered : f.outcomes.map (· == .delivered) = f'.outcomes.map (· == .delivered)) :
    f.report = { f'.report with evicted := f.report.evicted } := by
  have hcount : ∀ os : List Outcome,
      os.count .delivered = (os.map (· == .delivered)).count true := by
    intro os
    rw [List.count, List.count, List.countP_map]
    refine List.countP_congr fun o _ => ?_
    cases o <;> decide
  have hsame : f.outcomes.count .delivered = f'.outcomes.count .delivered := by
    rw [hcount, hcount, hdelivered]
  have hlength : f.outcomes.length = f'.outcomes.length := by
    simpa using congrArg List.length hdelivered
  rw [Dispatched.length_eq_counts, Dispatched.length_eq_counts] at hlength
  simp only [report, countEnded_eq, hmatched, hsame, DispatchReport.mk.injEq, true_and, and_true]
  omega

/-- How a dispatch comes out against one with closes that end at once. The registrations, what the
clients got, the report and the counters are the same but for the evictions. These are the
connections that were ended but for those whose close broke down. -/
structure ClosesTell (settings : Settings) (g : Gateway) (calm : DispatchReport × Nat × Gateway)
    (report : DispatchReport) (after : Gateway) : Prop where
  alike : after.AlikeButCloses calm.2.2
  reported : report = { calm.1 with evicted := report.evicted }
  /-- The counters and the report count the same evictions. -/
  counted : after.metrics.evictions = g.metrics.evictions + report.evicted
  evicted : report.evicted = (g.endedIn after.registry).countP fun e => !g.breaksDown settings e
  /-- If no such close breaks down, nobody can tell the two dispatches apart. -/
  unbroken : (∀ e ∈ g.endedIn after.registry, g.breaksDown settings e = false) →
    report.evicted = (g.endedIn after.registry).length ∧ report = calm.1 ∧
      after.metrics = calm.2.2.metrics

theorem evictions_dispatch (settings : Settings) (m : Message) (hsound : g.registry.Sound)
    (hunshared : g.registry.Unshared) :
    let after := dispatch settings g m
    after.1.evicted =
        (g.endedIn after.2.2.registry).countP (fun e => !g.breaksDown settings e) ∧
      after.2.2.metrics.evictions = g.metrics.evictions + after.1.evicted := by
  intro after
  let f := Flight.launch settings g m
  obtain ⟨hids, hsinks⟩ := nodup_launch settings m hsound hunshared
  obtain ⟨hothers, hcount, hgrown⟩ := evictions_advanceAll settings m.payload
    (fun d hd => (target_of_mem_launch hd).1) (fun d hd => contains_of_mem_launch hsound hd)
    hids hsinks
  have hevicted : after.1.evicted = ((Flight.advanceAll settings m.payload none g
      f.deliveries).2.filterMap (·.stage.outcome?)).count .evicted := Flight.countEnded_eq _ _
  rw [hevicted]
  exact ⟨hcount.trans (countP_launch hsound hothers), hgrown⟩

/-- Whatever the closes of a dispatch do, they tell on its evictions only. -/
theorem closesTell_dispatch (settings : Settings) (m : Message) (hsound : g.registry.Sound)
    (hunshared : g.registry.Unshared) :
    let after := dispatch settings g m
    ClosesTell settings g (dispatch settings g.calm m) after.1 after.2.2 := by
  intro after
  let calm := dispatch settings g.calm m
  have halike : g.AlikeButCloses g.calm := .calm g
  have hwait : ∀ d ∈ (Flight.launch settings g m).deliveries, d.stage = .waiting :=
    fun d hd => (target_of_mem_launch hd).1
  obtain ⟨hgateways, hdelivered⟩ := halike.advanceAll settings m.payload hwait
  obtain ⟨hevicted, hcounted⟩ := evictions_dispatch settings m hsound hunshared
  obtain ⟨hevicted', hcounted'⟩ := evictions_dispatch (g := g.calm) settings m hsound hunshared
  have halike' : after.2.2.AlikeButCloses calm.2.2 := hgateways
  have hmatched : (Flight.advanceAll settings m.payload none g
      (Flight.launch settings g m).deliveries).2.length =
        (Flight.advanceAll settings m.payload none g.calm
          (Flight.launch settings g m).deliveries).2.length :=
    (Flight.length_advanceAll _ _ _ _).trans (Flight.length_advanceAll _ _ _ _).symm
  have hreport : after.1 = { calm.1 with evicted := after.1.evicted } :=
    Flight.report_of_delivered hmatched hdelivered
  refine ⟨halike', hreport, hcounted, hevicted, fun hwhole => ?_⟩
  -- With no close that breaks down both count everybody who was ended, and these are the same.
  have hall : after.1.evicted = (g.endedIn after.2.2.registry).length := by
    rw [hevicted, List.countP_eq_length]
    exact fun e he => by rw [hwhole e he]; rfl
  have hall' : calm.1.evicted = (g.endedIn after.2.2.registry).length := by
    rw [hevicted', halike'.registry, halike.endedIn, List.countP_eq_length]
    exact fun e _ => by rw [breaksDown_calm settings g e]; rfl
  have hsame : after.1.evicted = calm.1.evicted := hall.trans hall'.symm
  have hevictions : after.2.2.metrics.evictions = calm.2.2.metrics.evictions :=
    hcounted.trans ((congrArg (g.metrics.evictions + ·) hsame).trans hcounted'.symm)
  refine ⟨hall, hreport.trans (by rw [hsame]), ?_⟩
  calc after.2.2.metrics
      = { ({ after.2.2.metrics with evictions := 0 } : Metrics) with
            evictions := after.2.2.metrics.evictions } := rfl
    _ = { ({ calm.2.2.metrics with evictions := 0 } : Metrics) with
            evictions := calm.2.2.metrics.evictions } := by rw [halike'.metrics, hevictions]
    _ = calm.2.2.metrics := rfl

/-- A dispatch of a message through any gateway, with closes that end, hang or break down as they
like, and with steps of its tasks in any order: when all are over the registrations, what the
clients got, the counters and the report are those of closes that end at once, but for the
evictions. As evictions count the connections that the dispatch has ended and whose close has not
broken down, in the report and in the counters, and so all that it has ended if no such close breaks
down. All are over once each task has had its turn twelve times, and `dispatch` is no exception. -/
theorem closes_tell_on_evictions (settings : Settings) (m : Message) (hsound : g.registry.Sound)
    (hunshared : g.registry.Unshared) (closes : SinkId → Pace) :
    let calm := dispatch settings g.calm m
    let g' := g.closingAs closes
    let ts := g'.targets m.topic
    let after := dispatch settings g' m
    (∀ schedule, (∀ t ∈ schedule, t ∈ ts) →
      let s := (Running.launch g' m).run settings m.payload schedule
      ((∀ t ∈ ts, 12 ≤ schedule.count t) → s.Over ts) ∧
      (s.Over ts → ClosesTell settings g' calm s.report s.gateway)) ∧
    ClosesTell settings g' calm after.1 after.2.2 := by
  intro calm g' ts after
  have htell : ClosesTell settings g' calm after.1 after.2.2 := by
    have htold := closesTell_dispatch (g := g') settings m hsound hunshared
    rwa [calm_closingAs] at htold
  refine ⟨fun schedule hmem => ⟨fun hturns => ?_, fun hover => ?_⟩, htell⟩
  · exact Running.over_of_count (separate_targets hsound hunshared m.topic) hmem hturns
  · obtain ⟨hreport, hgateway⟩ := run_eq_dispatch (g := g') settings m hsound hunshared hmem hover
    rw [hreport, hgateway]
    exact htell

/-- Of three clients one takes the message and two refuse it and are evicted. One of their closes
never ends and the other breaks down, and only the first is counted. -/
theorem two_closes_in_turns :
    let btc := Topic.ofString "BTCUSDT"
    let m : Message := ⟨btc, [1]⟩
    let acts : List Act := [.reserve, .reserve, .reserve, .enroll 1 {},
      .enroll 2 { failures := .always }, .enroll 3 { failures := .always },
      .subscribe 1 [btc], .subscribe 2 [btc], .subscribe 3 [btc]]
    let g := ((Traffic.start {}).run acts).gateway
    let closes : SinkId → Pace := fun k => if k = 1 then .never else .breaks 0
    let calm := dispatch {} g.calm m
    let g' := g.closingAs closes
    let ts := g'.targets m.topic
    let s := (Running.launch g' m).run {} m.payload (List.replicate 12 ts).flatten
    (g.registry.Sound ∧ g.registry.Unshared) ∧ s.Over ts ∧
      ClosesTell {} g' calm s.report s.gateway ∧
      calm.1 = ⟨3, 1, 2, 2⟩ ∧ s.report = ⟨3, 1, 2, 1⟩ ∧
      (g'.endedIn s.gateway.registry).map (·.id) = [2, 3] := by
  intro btc m acts g closes calm g' ts s
  have hbooked := Traffic.booked_run {} acts
  have hmem : ∀ t ∈ (List.replicate 12 ts).flatten, t ∈ ts := by decide
  have hturns : ∀ t ∈ ts, 12 ≤ (List.replicate 12 ts).flatten.count t := by decide
  obtain ⟨hevery, -⟩ := closes_tell_on_evictions (g := g) {} m hbooked.sound
    hbooked.unshared closes
  obtain ⟨hends, htells⟩ := hevery _ hmem
  refine ⟨⟨hbooked.sound, hbooked.unshared⟩, hends hturns, htells (hends hturns), ?_⟩
  decide

/-- A close that breaks down is told from one that ends at once: the client is gone either way, and
has been evicted by one account and not by the other. -/
theorem broken_close_not_counted :
    let btc := Topic.ofString "BTCUSDT"
    let m : Message := ⟨btc, [1]⟩
    let acts : List Act := [.reserve, .enroll 1 { failures := .always }, .subscribe 1 [btc]]
    let g := ((Traffic.start {}).run acts).gateway
    let calm := dispatch {} (g.closingAs fun _ => .after 0) m
    let broken := dispatch {} (g.closingAs fun _ => .breaks 0) m
    g.registry.contains 1 = true ∧
      calm.2.2.registry.contains 1 = false ∧ broken.2.2.registry.contains 1 = false ∧
      calm.1 = ⟨1, 0, 1, 1⟩ ∧ broken.1 = ⟨1, 0, 1, 0⟩ ∧
      calm.2.2.metrics.evictions = 1 ∧ broken.2.2.metrics.evictions = 0 := by
  decide

end CandleRelay.Gateway
