import CandleRelay.Proofs.Traffic.Confluence
import CandleRelay.Proofs.Traffic.Pace

/-!
# Dispatches that nobody disturbs

As long as nobody else calls the registry, it makes no difference in which order the deliveries of a
dispatch make their moves: when all are over, the gateway, the report and what it costs to serve
each connection are those of `dispatch`, which serves one connection after the other.

What is proved:
  1. Moves of deliveries are steps of their tasks (`mirrors_moves`), so that the confluence of tasks
     is one of deliveries (`moves_confluent`).
  2. Two dispatches that end with the same write sides have evicted the same connections
     (`evictedSince_eq`).
  3. The time that `dispatch` takes is the cost of its costliest connection (`Underway.duration`).
-/

namespace CandleRelay.Gateway

open Running

theorem Flight.advanceAll_of_over (settings : Settings) (payload : Bytes) (g : Gateway)
    {vs : List Delivery} (hover : ∀ v ∈ vs, v.isOver = true) :
    advanceAll settings payload none g vs = (g, vs) := by
  induction vs with
  | nil => rfl
  | cons v vs ih =>
    have hdue : v.due? = none := by simpa [Delivery.isOver] using hover v List.mem_cons_self
    have hsame : Delivery.advance settings payload none (g, v) = (g, v) := by
      simp only [Delivery.advance, Delivery.moveBefore, hdue]
    simp only [advanceAll, hsame, ih fun w hw => hover w (List.mem_cons_of_mem v hw)]

namespace Traffic

variable {s t : Traffic} {m : Message} {rest : List Message} {d : Dispatched} {v : Delivery}

/-! ## Moves and tasks -/

/-- The tasks of the dispatch that begins in `s`, under a schedule. -/
def tasks (s : Traffic) (m : Message) (schedule : List Target) : Running :=
  (Running.launch (s.gateway.count .busMessages) m).run s.settings m.payload schedule

/-- The tasks of a dispatch, under a schedule, stand where its deliveries do. -/
structure Mirrors (s : Traffic) (m : Message) (t : Traffic) (d : Dispatched)
    (schedule : List Target) : Prop where
  underway : Underway s m t d
  booked : t.Booked
  targets : d.flight.deliveries.map Delivery.target = s.gateway.targets m.topic
  scheduled : ∀ x ∈ schedule, x ∈ s.gateway.targets m.topic
  gateway : (s.tasks m schedule).gateway = t.gateway
  report : (s.tasks m schedule).report = { matched := (s.gateway.targets m.topic).length }
  points : ∀ v ∈ d.flight.deliveries, (s.tasks m schedule).points v.handle = v.stage.point

theorem tasks_append (s : Traffic) (m : Message) (l l' : List Target) :
    s.tasks m (l ++ l') = (s.tasks m l).run s.settings m.payload l' := Running.run_append ..

theorem mirrors_start (hb : s.Booked) (hl : s.landed = true) (m : Message) (rest : List Message) :
    Mirrors s m (s.afterTake m rest)
      (Dispatched.launch s.settings (s.gateway.count .busMessages) m) [] := by
  refine ⟨hb.underway hl m rest, hb.afterTake hl m rest, targets_eq _ _ m, by simp, rfl, rfl, ?_⟩
  intro v hv
  rw [(target_of_mem_launch hv).1]
  rfl

theorem Mirrors.move {schedule : List Target} (hr : Mirrors s m t d schedule) {k : Nat}
    (hk : d.flight.deliveries[k]? = some v) :
    ∃ l, Mirrors s m (t.afterMove d k v) (d.moved t.gateway k v
      (v.move d.flight.settings d.flight.payload t.gateway).2) l := by
  have hd : d ∈ t.dispatches := mem_dispatches hr.underway.current
  have hv : v ∈ d.flight.deliveries := List.mem_of_getElem? hk
  have hexact := hr.booked.exact d hd
  have hpayload : d.flight.payload = m.payload := by rw [hexact.payload, hr.underway.message]
  obtain ⟨y, hy⟩ := hr.booked.sink_of_delivery hd hv
  obtain ⟨st, hmove, -⟩ := Delivery.stage_move d.flight.settings d.flight.payload hy
  -- The task is where the delivery is, and goes on as it does.
  have hgoes : Running.Goes d.flight.settings d.flight.payload v.target
      ((s.tasks m schedule).place t.gateway v.target v.stage.point)
      ((s.tasks m schedule).place (v.move d.flight.settings d.flight.payload t.gateway).1 v.target
        (v.move d.flight.settings d.flight.payload t.gateway).2.stage.point) := goes_move rfl
  have hself : (s.tasks m schedule).place t.gateway v.target v.stage.point =
      s.tasks m schedule := by
    rw [← hr.gateway, ← hr.points v hv]
    exact place_self _ v.target
  rw [hself, hr.underway.settings, hpayload] at hgoes
  obtain ⟨n, hn⟩ := hgoes
  rw [← tasks_append] at hn
  rw [← hr.underway.settings, ← hpayload] at hn
  have hset : (d.moved t.gateway k v
      (v.move d.flight.settings d.flight.payload t.gateway).2).flight.deliveries =
        d.flight.deliveries.set k { v with stage := st } := by
    rw [hmove]
    rfl
  refine ⟨schedule ++ List.replicate n v.target, hr.underway.move hr.booked hk,
    hr.booked.afterMove hr.underway.current hk, ?_, ?_, ?_, ?_, ?_⟩
  · rw [hset, List.map_set, ← hr.targets]
    exact Delivery.set_of_getElem? (by rw [List.getElem?_map, hk]; rfl)
  · intro x hx
    rcases List.mem_append.1 hx with hx | hx
    · exact hr.scheduled x hx
    · rw [List.eq_of_mem_replicate hx, ← hr.targets]
      exact List.mem_map_of_mem hv
  · rw [hn]
    rfl
  · rw [hn]
    exact hr.report
  · intro w hw
    rw [hn, hmove]
    rcases hexact.mem_set hk (hset ▸ hw) with ⟨hw, hne⟩ | rfl
    · exact (points_moveTo_other hne).trans (hr.points w hw)
    · exact points_moveTo_self _ _ _

theorem mirrors_moves (hb : s.Booked) (hl : s.landed = true) (m : Message) (rest : List Message)
    (ks : List Nat) :
    ∃ d l, Mirrors s m ((s.afterTake m rest).run (ks.map .move)) d l := by
  induction ks using List.reverseRecOn with
  | nil => exact ⟨_, _, mirrors_start hb hl m rest⟩
  | append_singleton ks k ih =>
    obtain ⟨d, l, hr⟩ := ih
    rw [List.map_append, List.map_singleton, run_concat]
    show ∃ d l, Mirrors s m (Traffic.moveDelivery _ k) d l
    rcases moveDelivery_cases ((s.afterTake m rest).run (ks.map .move)) k with
      hsame | ⟨d', old, hcurrent, hk, hmove⟩
    · rw [hsame]
      exact ⟨d, l, hr⟩
    · rw [hmove]
      obtain rfl : d' = d := Option.some.inj (hcurrent.symm.trans hr.underway.current)
      exact ⟨_, hr.move hk⟩

theorem Mirrors.join {schedule : List Target} (hr : Mirrors s m t d schedule)
    (hl : d.landed = true) :
    ∃ l, (∀ x ∈ l, x ∈ s.gateway.targets m.topic) ∧
      (s.tasks m l).Over (s.gateway.targets m.topic) ∧ (s.tasks m l).gateway = t.gateway ∧
      (s.tasks m l).report = d.flight.report := by
  have hd : d ∈ t.dispatches := mem_dispatches hr.underway.current
  have hexact := hr.booked.exact d hd
  have hnodup : (d.flight.deliveries.map (·.handle)).Nodup := by
    rw [hexact.handles]
    exact hexact.snapshot.nodup_matching
  obtain ⟨l, hl', hgateway, hreport, hover, -⟩ := exists_schedule s.settings m.payload
    d.flight.deliveries hnodup (s.tasks m schedule) hr.points
  rw [Flight.advanceAll_of_over _ _ _ (List.all_eq_true.1 hl)] at hgateway hreport
  rw [hr.targets] at hl' hover
  rw [← tasks_append] at hgateway hreport hover
  refine ⟨schedule ++ l, ?_, hover, hgateway.trans hr.gateway, ?_⟩
  · exact fun x hx => (List.mem_append.1 hx).elim (hr.scheduled x) (hl' x)
  · rw [hreport, hr.report, Flight.report_eq, ← hr.targets, List.length_map]
    rfl

/-- In whatever order the deliveries make their moves, they all end alike. -/
theorem moves_confluent (hb : s.Booked) {t' : Traffic} {d' : Dispatched} {l l' : List Target}
    (hr : Mirrors s m t d l) (hr' : Mirrors s m t' d' l') (hl : d.landed = true)
    (hl' : d'.landed = true) :
    t.gateway = t'.gateway ∧ d.flight.report = d'.flight.report := by
  obtain ⟨j, hj, hover, hgateway, hreport⟩ := hr.join hl
  obtain ⟨j', hj', hover', hgateway', hreport'⟩ := hr'.join hl'
  have hsame : s.tasks m j = s.tasks m j' :=
    run_eq_of_over (separate_targets hb.sound hb.unshared m.topic) hj hj' hover hover'
  rw [← hgateway, ← hreport, hsame]
  exact ⟨hgateway', hreport'⟩

/-! ## Evictions and costs -/

theorem Underway.evictedSince_eq {t' : Traffic} {d' : Dispatched} (hb : t.Booked) (hb' : t'.Booked)
    (hu : Underway s m t d) (hu' : Underway s m t' d') (hsinks : t.gateway.sinks = t'.gateway.sinks)
    {h : HandleId} (hh : h ∈ s.gateway.registry.matching m.topic) :
    s.evictedSince t h = s.evictedSince t' h := by
  obtain ⟨v, hv, rfl⟩ : ∃ v ∈ d.flight.deliveries, v.handle = h := by
    rwa [← hu.handles hb, List.mem_map] at hh
  obtain ⟨v', hv', hhandle⟩ : ∃ v' ∈ d'.flight.deliveries, v'.handle = v.handle := by
    rwa [← hu'.handles hb', List.mem_map] at hh
  obtain ⟨x, y, ha⟩ := hu.advances v hv
  obtain ⟨x', y', ha'⟩ := hu'.advances v' hv'
  have hsink : v'.sink = v.sink := by
    obtain ⟨z, hz, hsink, -⟩ := ha.aimed
    obtain ⟨z', hz', hsink', -⟩ := ha'.aimed
    rw [hhandle, hz] at hz'
    rw [← hsink, ← hsink', Option.some.inj hz']
  have hx : x' = x := by
    have hbefore := ha'.before
    rw [hsink, ha.before] at hbefore
    exact (Option.some.inj hbefore).symm
  have hy : y' = y := by
    have hnow := ha'.now
    rw [hsink, ← hsinks, ha.now] at hnow
    exact (Option.some.inj hnow).symm
  have hcalls := ha.closeCalls
  have hcalls' := ha'.closeCalls
  rw [hx, hy, hhandle] at hcalls'
  have hsame : (s.evictedSince t v.handle).toNat = (s.evictedSince t' v.handle).toNat := by omega
  revert hsame
  cases s.evictedSince t v.handle <;> cases s.evictedSince t' v.handle <;> decide

/-- A dispatch takes as long as it costs to serve the costliest connection. -/
theorem Underway.duration (hu : Underway s m t d) (hb : t.Booked) (hl : d.landed = true) :
    d.flight.duration = ((s.gateway.registry.matching m.topic).map (s.cost t)).foldl max 0 := by
  rw [← hu.handles hb, List.map_map, Flight.duration]
  refine congrArg (List.foldl max 0) (List.map_congr_left fun v hv => ?_)
  obtain ⟨x, y, ha⟩ := hu.advances v hv
  have hover := List.all_eq_true.1 hl v hv
  have htime := ha.time_of_isOver hover
  cases hstage : v.stage with
  | ended time o => rwa [hstage] at htime
  | waiting | writing due ending | closing due ending =>
    simp [Delivery.isOver, Delivery.due?, hstage] at hover

/-- What becomes of a dispatch that nobody disturbs is what `dispatch` says. -/
theorem Mirrors.dispatch_eq {l : List Target} (hb : s.Booked) (hlanded : s.landed = true)
    (hr : Mirrors s m t d l) (hl : d.landed = true) :
    dispatch s.settings (s.gateway.count .busMessages) m = (d.flight.report,
      ((s.gateway.registry.matching m.topic).map (s.cost t)).foldl max 0, t.gateway) := by
  obtain ⟨ks, d', hcurrent, hl', hdispatch⟩ := dispatch_moves s m []
  obtain ⟨d'', l', hr'⟩ := mirrors_moves hb hlanded m [] ks
  obtain rfl : d'' = d' := Option.some.inj (hr'.underway.current.symm.trans hcurrent)
  obtain ⟨hgateway, hreport⟩ := moves_confluent hb hr hr' hl hl'
  have hcosts : (s.gateway.registry.matching m.topic).map (s.cost t) =
      (s.gateway.registry.matching m.topic).map
        (s.cost ((s.afterTake m []).run (ks.map .move))) := by
    refine List.map_congr_left fun h hh => ?_
    have hevicted := hr.underway.evictedSince_eq hr.booked hr'.booked hr'.underway
      (by rw [hgateway]) hh
    simp only [cost, hevicted]
  rw [hdispatch, hr'.underway.duration hr'.booked hl', hcosts, hgateway, hreport]

end Traffic

end CandleRelay.Gateway
