import CandleRelay.Proofs.Traffic.Undisturbed
import Mathlib.Algebra.BigOperators.Group.List.Basic
import Mathlib.Data.Finset.Max

/-!
# Dispatches on time

A dispatch under way beside a clock. When it returns, the clock shows what it has cost to serve the
costliest of its connections, and that is two timeouts at most.

What is proved:
  1. `OnTime`: no move is overdue, and the clock waits for the deliveries that are not over. A tick
     keeps this (`OnTime.step`), and if it brings the dispatch on there is less left to do; so does
     a run (`OnTime.run`).
  2. When all deliveries are over, a dispatch on time has taken just as long as its costliest
     connection (`OnTime.returns`), and a connection that takes its write in time holds the payload
     from then on (`OnTime.serves`).
  3. `returns_with_the_costliest`: all of this for every dispatch of every gateway, together with
     the same for `dispatch`, which knows no clock.
-/

namespace CandleRelay.Gateway

/-! ## What is left to do -/

namespace Dispatched

variable {d : Dispatched} {g : Gateway} {k : Nat} {old v : Delivery}

/-- How many moves there are at most before all deliveries are over. -/
def movesLeft (d : Dispatched) : Nat := (d.flight.deliveries.map (·.stage.movesLeft)).sum

theorem movesLeft_moved (hk : d.flight.deliveries[k]? = some old) :
    (d.moved g k old v).movesLeft + old.stage.movesLeft = d.movesLeft + v.stage.movesLeft := by
  have hlt := (List.getElem?_eq_some_iff.1 hk).1
  have hset : ∀ w : Delivery, ((d.flight.deliveries.set k w).map (·.stage.movesLeft)).sum =
      ((d.flight.deliveries.map (·.stage.movesLeft)).take k).sum + w.stage.movesLeft +
        ((d.flight.deliveries.map (·.stage.movesLeft)).drop (k + 1)).sum := by
    intro w
    rw [List.map_set, List.sum_set, if_pos (by simpa using hlt)]
  have hbefore := hset old
  rw [Delivery.set_of_getElem? hk] at hbefore
  have hafter := hset v
  show ((d.flight.deliveries.set k v).map (·.stage.movesLeft)).sum + _ = _
  rw [movesLeft]
  omega

theorem movesLeft_launch (settings : Settings) (g : Gateway) (m : Message) :
    (launch settings g m).movesLeft = 3 * (launch settings g m).flight.deliveries.length := by
  have hthree : ∀ v ∈ (launch settings g m).flight.deliveries, v.stage.movesLeft = 3 := by
    intro v hv
    rw [(target_of_mem_launch hv).1]
    rfl
  rw [movesLeft, List.map_congr_left hthree, List.map_const', List.sum_replicate_nat,
    Nat.mul_comm]

end Dispatched

/-! ## The clock -/

namespace Timed

open Traffic

variable {s : Traffic} {m : Message} {rest : List Message} {d : Dispatched} {u : Timed}
  {tick : Tick}

theorem deliveries_eq (hd : u.traffic.current = some d) : u.deliveries = d.flight.deliveries := by
  rw [deliveries, hd]

theorem landed_eq (hd : u.traffic.current = some d) : u.traffic.landed = d.landed := by
  rw [Traffic.landed, hd]
  rfl

theorem isDue_iff (hd : u.traffic.current = some d) {k : Nat} :
    u.isDue k = true ↔
      ∃ v, d.flight.deliveries[k]? = some v ∧ v.isOver = false ∧ v.stage.time ≤ u.now := by
  simp only [isDue, deliveries_eq hd, Option.any_eq_true, Delivery.due?_eq]
  refine exists_congr fun v => and_congr_right fun _ => ?_
  cases v.isOver <;> simp

theorem mayPass_iff (hd : u.traffic.current = some d) {ms : Nat} :
    u.mayPass ms = true ↔ d.landed = false ∧
      ∀ v ∈ d.flight.deliveries, v.isOver = false → u.now + ms ≤ v.stage.time := by
  simp only [mayPass, deliveries_eq hd, landed_eq hd, Bool.and_eq_true, Bool.not_eq_true',
    List.all_eq_true, Delivery.due?_eq]
  refine and_congr_right fun _ => forall_congr' fun v => imp_congr_right fun _ => ?_
  cases v.isOver <;> simp

theorem step_cases (u : Timed) (tick : Tick) :
    (u.step tick = u ∧ u.bringsOn tick = false) ∨
    (∃ a, tick = .act a ∧ a.isAside = true ∧
      u.step tick = { u with traffic := u.traffic.step a } ∧ u.bringsOn tick = false) ∨
    (∃ k, u.isDue k = true ∧ u.step tick = { u with traffic := u.traffic.step (.move k) }) ∨
    ∃ ms, u.mayPass ms = true ∧ u.step tick = { u with now := u.now + ms } ∧
      u.bringsOn tick = decide (0 < ms) := by
  cases tick with
  | pass ms =>
    cases hms : u.mayPass ms with
    | true => exact Or.inr (Or.inr (Or.inr ⟨ms, hms, by simp [step, hms], by simp [bringsOn, hms]⟩))
    | false => exact Or.inl ⟨by simp [step, hms], by simp [bringsOn, hms]⟩
  | act a =>
    cases a with
    | move k =>
      cases hk : u.isDue k with
      | true => exact Or.inr (Or.inr (Or.inl ⟨k, hk, by simp [step, hk]⟩))
      | false => exact Or.inl ⟨by simp [step, hk], hk⟩
    | take => exact Or.inl ⟨rfl, rfl⟩
    | retune k manner => exact Or.inl ⟨rfl, rfl⟩
    | _ => exact Or.inr (Or.inl ⟨_, rfl, rfl, rfl, rfl⟩)

/-- A dispatch keeps to the clock: what is to come is not overdue, and the clock has not gone on
without one of the deliveries. -/
structure OnTime (s : Traffic) (m : Message) (u : Timed) (d : Dispatched) : Prop where
  underway : Underway s m u.traffic d
  booked : u.traffic.Booked
  pending : ∀ v ∈ d.flight.deliveries, v.isOver = false → u.now ≤ v.stage.time
  ended : ∀ v ∈ d.flight.deliveries, v.isOver = true → v.stage.time ≤ u.now
  waits : u.now = 0 ∨ ∃ v ∈ d.flight.deliveries, u.now ≤ v.stage.time

/-- How much a dispatch still has to do at most. -/
def left (s : Traffic) (d : Dispatched) (now : Nat) : Nat :=
  d.movesLeft + (2 * s.settings.timeout - now)

theorem traffic_start (hl : s.landed = true) (hw : s.waiting = m :: rest) :
    (start s).traffic = s.afterTake m rest := by
  show s.takeNext = _
  rw [takeNext, hw]
  simp only [hl, if_true]
  rfl

theorem onTime_start (hb : s.Booked) (hl : s.landed = true) (hw : s.waiting = m :: rest) :
    OnTime s m (start s) (Dispatched.launch s.settings (s.gateway.count .busMessages) m) := by
  have hstart := traffic_start hl hw
  refine ⟨hstart ▸ hb.underway hl m rest, hstart ▸ hb.afterTake hl m rest,
    fun _ _ _ => Nat.zero_le _, ?_, Or.inl rfl⟩
  intro v hv hover
  simp [Delivery.isOver, Delivery.due?, (target_of_mem_launch hv).1] at hover

theorem OnTime.time_le (h : OnTime s m u d) {v : Delivery} (hv : v ∈ d.flight.deliveries) :
    v.stage.time ≤ 2 * s.settings.timeout := by
  obtain ⟨x, y, ha⟩ := h.underway.advances v hv
  exact ha.timely.time_le

theorem OnTime.move (h : OnTime s m u d) {k : Nat} (hk : u.isDue k = true) :
    ∃ d', OnTime s m { u with traffic := u.traffic.step (.move k) } d' ∧
      left s d' u.now + 1 ≤ left s d u.now := by
  obtain ⟨old, hold, hnot, htime⟩ := (isDue_iff h.underway.current).1 hk
  have hmem : old ∈ d.flight.deliveries := List.mem_of_getElem? hold
  have hd : d ∈ u.traffic.dispatches := mem_dispatches h.underway.current
  obtain ⟨y, hy⟩ := h.booked.sink_of_delivery hd hmem
  obtain ⟨st, hmove, -⟩ := Delivery.stage_move d.flight.settings d.flight.payload hy
  obtain ⟨hlater, hends⟩ := Delivery.time_move d.flight.settings d.flight.payload hy
  rw [hmove] at hlater hends
  have hnow : old.stage.time = u.now := Nat.le_antisymm htime (h.pending old hmem hnot)
  have hstep : u.traffic.step (.move k) = u.traffic.afterMove d k old := by
    show u.traffic.moveDelivery k = _
    simp only [moveDelivery, h.underway.current, hold]
    rfl
  have hset : (d.moved u.traffic.gateway k old { old with stage := st }).flight.deliveries =
      d.flight.deliveries.set k { old with stage := st } := rfl
  have hunderway := h.underway.move h.booked hold
  rw [hmove] at hunderway
  refine ⟨_, ⟨by rw [hstep]; exact hunderway, h.booked.step (.move k), ?_, ?_, ?_⟩, ?_⟩
  · intro v hv hnot'
    rcases List.mem_or_eq_of_mem_set (hset ▸ hv) with hv | rfl
    · exact h.pending v hv hnot'
    · exact hnow ▸ hlater
  · intro v hv hover
    rcases List.mem_or_eq_of_mem_set (hset ▸ hv) with hv | rfl
    · exact h.ended v hv hover
    · exact Nat.le_of_eq ((hends hover).trans hnow)
  · refine Or.inr ⟨_, ?_, hnow ▸ hlater⟩
    rw [hset]
    exact List.mem_set (List.getElem?_eq_some_iff.1 hold).1 _
  · have hmoved := Dispatched.movesLeft_moved (g := u.traffic.gateway)
      (v := { old with stage := st }) hold
    have hless := Delivery.movesLeft_move d.flight.settings d.flight.payload
      (g := u.traffic.gateway) (v := old)
    rw [hmove] at hless
    have hpos : old.stage.movesLeft ≠ 0 := by
      rw [Ne, ← Delivery.isOver_iff, hnot]
      simp
    simp only [left]
    omega

theorem OnTime.pass (h : OnTime s m u d) {ms : Nat} (hms : u.mayPass ms = true) :
    OnTime s m { u with now := u.now + ms } d ∧ left s d (u.now + ms) + ms ≤ left s d u.now := by
  obtain ⟨hnot, hdue⟩ := (mayPass_iff h.underway.current).1 hms
  obtain ⟨v, hv, hpending⟩ : ∃ v ∈ d.flight.deliveries, v.isOver = false := by
    simpa [Dispatched.landed] using hnot
  refine ⟨⟨h.underway, h.booked, hdue, ?_, Or.inr ⟨v, hv, hdue v hv hpending⟩⟩, ?_⟩
  · intro w hw hover
    exact Nat.le_add_right_of_le (h.ended w hw hover)
  · have hle := h.time_le hv
    have hpass := hdue v hv hpending
    simp only [left]
    omega

/-- A tick keeps a dispatch on time, and one that brings it on leaves less to do. -/
theorem OnTime.step (h : OnTime s m u d) (tick : Tick) :
    ∃ d', OnTime s m (u.step tick) d' ∧
      (u.bringsOn tick).toNat + left s d' (u.step tick).now ≤ left s d u.now := by
  rcases step_cases u tick with ⟨hstep, hnot⟩ | ⟨a, -, ha, hstep, hnot⟩ | ⟨k, hk, hstep⟩ |
    ⟨ms, hms, hstep, hbrings⟩
  · rw [hstep, hnot]
    exact ⟨d, h, by simp⟩
  · rw [hstep, hnot]
    exact ⟨d, ⟨h.underway.aside ha, h.booked.step a, h.pending, h.ended, h.waits⟩, by simp⟩
  · rw [hstep]
    obtain ⟨d', hd', hless⟩ := h.move hk
    have hone : (u.bringsOn tick).toNat ≤ 1 := Bool.toNat_le _
    exact ⟨d', hd', by simp only; omega⟩
  · rw [hstep, hbrings]
    obtain ⟨hd', hless⟩ := h.pass hms
    refine ⟨d, hd', ?_⟩
    by_cases hpos : 0 < ms <;> simp [hpos] <;> omega

theorem OnTime.run (h : OnTime s m u d) (ticks : List Tick) :
    ∃ d', OnTime s m (u.run ticks) d' ∧
      u.progress ticks + left s d' (u.run ticks).now ≤ left s d u.now := by
  induction ticks generalizing u d with
  | nil => exact ⟨d, h, Nat.le_of_eq (Nat.zero_add _)⟩
  | cons tick ticks ih =>
    obtain ⟨d', hd', hless⟩ := h.step tick
    obtain ⟨d'', hd'', hless'⟩ := ih hd'
    refine ⟨d'', hd'', ?_⟩
    show (u.bringsOn tick).toNat + (u.step tick).progress ticks + left s d'' _ ≤ _
    have hrun : u.run (tick :: ticks) = (u.step tick).run ticks := rfl
    rw [hrun]
    omega

/-! ## The end of a dispatch -/

/-- As long as a delivery is not over there is a move that is due, or time to pass until one is. -/
theorem OnTime.goes (h : OnTime s m u d) (hnot : u.traffic.landed = false) :
    ∃ tick, u.bringsOn tick = true := by
  rw [landed_eq h.underway.current] at hnot
  let pending := (d.flight.deliveries.filter fun v => !v.isOver).toFinset
  have hmem : ∀ v, v ∈ pending ↔ v ∈ d.flight.deliveries ∧ v.isOver = false := by
    simp [pending]
  obtain ⟨v, hv, hpending⟩ : ∃ v ∈ d.flight.deliveries, v.isOver = false := by
    simpa [Dispatched.landed] using hnot
  -- The one that is due next.
  obtain ⟨w, hw, hfirst⟩ := pending.exists_min_image (·.stage.time) ⟨v, (hmem v).2 ⟨hv, hpending⟩⟩
  obtain ⟨hw, hpending⟩ := (hmem w).1 hw
  rcases Nat.eq_or_lt_of_le (h.pending w hw hpending) with hnow | hlater
  · obtain ⟨k, hk⟩ := List.mem_iff_getElem?.1 hw
    exact ⟨.act (.move k),
      (isDue_iff h.underway.current).2 ⟨w, hk, hpending, Nat.le_of_eq hnow.symm⟩⟩
  · refine ⟨.pass (w.stage.time - u.now), ?_⟩
    have hpass : u.mayPass (w.stage.time - u.now) = true := by
      refine (mayPass_iff h.underway.current).2 ⟨hnot, fun x hx hx' => ?_⟩
      have hle := hfirst x ((hmem x).2 ⟨hx, hx'⟩)
      omega
    simp only [bringsOn, hpass, Bool.and_true, decide_eq_true_eq]
    omega

/-- The clock shows what the costliest connection has cost. -/
theorem OnTime.returns (h : OnTime s m u d) (hl : u.traffic.landed = true)
    (hne : s.gateway.registry.matching m.topic ≠ []) :
    ((s.gateway.registry.matching m.topic).map (s.cost u.traffic)).max? = some u.now := by
  rw [landed_eq h.underway.current] at hl
  have hover : ∀ v ∈ d.flight.deliveries, v.isOver = true := List.all_eq_true.1 hl
  have htime : ∀ v ∈ d.flight.deliveries, v.stage.time = s.cost u.traffic v.handle := by
    intro v hv
    obtain ⟨x, y, ha⟩ := h.underway.advances v hv
    exact ha.time_of_isOver (hover v hv)
  have hcosts : (s.gateway.registry.matching m.topic).map (s.cost u.traffic) =
      d.flight.deliveries.map (·.stage.time) := by
    rw [← h.underway.handles h.booked, List.map_map]
    exact List.map_congr_left fun v hv => (htime v hv).symm
  rw [hcosts, List.max?_eq_some_iff]
  refine ⟨?_, ?_⟩
  · rcases h.waits with hzero | ⟨v, hv, hle⟩
    · -- Nothing has taken any time.
      obtain ⟨v, hv⟩ : ∃ v, v ∈ d.flight.deliveries := by
        refine List.exists_mem_of_ne_nil _ fun hnil => hne ?_
        rw [← h.underway.handles h.booked, hnil]
        rfl
      have hle := h.ended v hv (hover v hv)
      exact List.mem_map.2 ⟨v, hv, by omega⟩
    · exact List.mem_map.2 ⟨v, hv, Nat.le_antisymm (h.ended v hv (hover v hv)) hle⟩
  · intro t ht
    obtain ⟨v, hv, rfl⟩ := List.mem_map.1 ht
    exact h.ended v hv (hover v hv)

theorem OnTime.atOnce (h : OnTime s m u d) (hnil : s.gateway.registry.matching m.topic = []) :
    u.traffic.landed = true ∧ u.now = 0 := by
  have hnone : d.flight.deliveries = [] := by
    rw [← List.map_eq_nil_iff, h.underway.handles h.booked, hnil]
  refine ⟨by rw [landed_eq h.underway.current, Dispatched.landed, hnone]; rfl, ?_⟩
  rcases h.waits with hzero | ⟨v, hv, -⟩
  · exact hzero
  · rw [hnone] at hv
    exact absurd hv List.not_mem_nil

theorem OnTime.duration (h : OnTime s m u d) (hl : u.traffic.landed = true) :
    ((s.gateway.registry.matching m.topic).map (s.cost u.traffic)).foldl max 0 = u.now := by
  rw [List.foldl_max]
  by_cases hnil : s.gateway.registry.matching m.topic = []
  · rw [hnil, (h.atOnce hnil).2]
    rfl
  · rw [h.returns hl hnil]
    exact Nat.max_eq_right (Nat.zero_le _)

theorem OnTime.now_le (h : OnTime s m u d) : u.now ≤ 2 * s.settings.timeout := by
  rcases h.waits with hzero | ⟨v, hv, hle⟩
  · omega
  · exact Nat.le_trans hle (h.time_le hv)

/-- A connection whose write ends in time, and not with an error, holds the payload when the clock
has passed the end of the write. -/
theorem OnTime.serves (h : OnTime s m u d) (hb : s.Booked) {c : HandleId}
    (hc : c ∈ s.gateway.registry.matching m.topic) {x : Sink} (hx : s.gateway.sinkOf? c = some x)
    {ms : Nat} (hms : x.writing = .after ms) (hle : ms ≤ s.settings.timeout)
    (haccepts : x.failures.any = false) (hthen : ms < u.now ∨ u.traffic.landed = true) :
    ∃ y, u.traffic.gateway.sinkOf? c = some y ∧ y.received = x.received ++ [m.payload] := by
  have hd : d ∈ u.traffic.dispatches := mem_dispatches h.underway.current
  obtain ⟨v, hv, rfl⟩ : ∃ v ∈ d.flight.deliveries, v.handle = c := by
    rwa [← h.underway.handles h.booked, List.mem_map] at hc
  obtain ⟨x', y, ha⟩ := h.underway.advances v hv
  obtain rfl : x' = x := by
    rw [ha.aimed.sinkOf?, ha.before] at hx
    exact Option.some.inj hx
  have hy : u.traffic.gateway.sinkOf? v.handle = some y := by
    rw [(h.booked.aimed d hd v hv).sinkOf?, ha.now]
  -- The write has ended.
  have hanswered : v.stage.answered = true := by
    by_contra hnot
    rw [Bool.not_eq_true] at hnot
    have hover : v.isOver = false := by
      rw [← Bool.not_eq_true]
      intro hover
      rw [Delivery.answered_of_isOver hover] at hnot
      simp at hnot
    rcases hthen with hpast | hl
    · have htime := ha.timely.time_le_of_unanswered hnot
      have hnow := h.pending v hv hover
      rw [hms, Pace.capped, Nat.min_eq_left hle] at htime
      omega
    · rw [landed_eq h.underway.current] at hl
      rw [List.all_eq_true.1 hl v hv] at hover
      simp at hover
  have htook : d.tookBy v.handle = true := by
    have hlength := (h.booked.exact d hd).answers v hv
    rw [hanswered] at hlength
    obtain ⟨a, hanswer⟩ := List.length_eq_one_iff.1 hlength
    have hmem : a ∈ d.answersOf v.handle := by
      rw [hanswer]
      exact List.mem_singleton.2 rfl
    rw [Dispatched.tookBy, hanswer, ha.taken ⟨⟨ms, hms, hle⟩, haccepts⟩ a hmem]
    rfl
  have hdispatches : u.traffic.dispatches = s.dispatches ++ [d] := by
    rw [dispatches, h.underway.past, h.underway.current]
    rfl
  refine ⟨y, hy, ?_⟩
  rw [h.booked.received hy, hb.received hx, hdispatches, taken_append, taken_singleton, htook,
    h.underway.message]
  rfl

theorem run_own (u : Timed) {ticks : List Tick} (hown : ticks.all Tick.isOwn = true) :
    ∃ ks : List Nat, (u.run ticks).traffic = u.traffic.run (ks.map .move) := by
  induction ticks generalizing u with
  | nil => exact ⟨[], rfl⟩
  | cons tick ticks ih =>
    rw [List.all_cons, Bool.and_eq_true] at hown
    obtain ⟨ks, hks⟩ := ih (u.step tick) hown.2
    have hstep : (u.step tick).traffic = u.traffic ∨
        ∃ k, (u.step tick).traffic = u.traffic.step (.move k) := by
      rcases step_cases u tick with ⟨hstep, -⟩ | ⟨a, rfl, ha, -⟩ | ⟨k, -, hstep⟩ |
        ⟨ms, -, hstep, -⟩
      · exact Or.inl (by rw [hstep])
      · cases a <;> simp [Tick.isOwn, Act.isAside] at hown ha
      · exact Or.inr ⟨k, by rw [hstep]⟩
      · exact Or.inl (by rw [hstep])
    show ∃ ks : List Nat, ((u.step tick).run ticks).traffic = _
    rcases hstep with hsame | ⟨k, hmove⟩
    · exact ⟨ks, by rw [hks, hsame]⟩
    · exact ⟨k :: ks, by rw [hks, hmove]; rfl⟩

/-- What is so of a dispatch of `m` that began in `s`, after some ticks. -/
structure Punctual (s : Traffic) (m : Message) (ticks : List Tick) (u : Timed) : Prop where
  /-- It is never later than two timeouts. -/
  bound : u.now ≤ 2 * s.settings.timeout
  /-- The dispatch returns when the costliest connection has been served, -/
  returns : u.traffic.landed = true → s.gateway.registry.matching m.topic ≠ [] →
    ((s.gateway.registry.matching m.topic).map (s.cost u.traffic)).max? = some u.now
  /-- at once if there is none, -/
  atOnce : s.gateway.registry.matching m.topic = [] → u.traffic.landed = true ∧ u.now = 0
  /-- and in any case: until then something can bring it on, -/
  goes : u.traffic.landed = false → ∃ tick, u.bringsOn tick = true
  /-- though not for ever. -/
  ends : (start s).progress ticks ≤
    3 * (s.gateway.registry.matching m.topic).length + 2 * s.settings.timeout
  /-- Who takes the write in time holds the payload then. -/
  serves : ∀ c ∈ s.gateway.registry.matching m.topic, ∀ x, s.gateway.sinkOf? c = some x →
    ∀ ms ≤ s.settings.timeout, x.writing = .after ms → x.failures.any = false →
    ms < u.now ∨ u.traffic.landed = true →
    ∃ y, u.traffic.gateway.sinkOf? c = some y ∧ y.received = x.received ++ [m.payload]
  /-- If nobody has disturbed it, it is what `dispatch` says. -/
  undisturbed : ticks.all Tick.isOwn = true → u.traffic.landed = true →
    ∃ d, u.traffic.current = some d ∧
      dispatch s.settings (s.gateway.count .busMessages) m =
        (d.flight.report, u.now, u.traffic.gateway)

/-- **Dispatches are punctual.** Whatever has gone on in a gateway, and whatever goes on while a
message is dispatched, the dispatch returns when its costliest connection has been served: when that
one's write has ended or timed out and, if it is evicted, its close has too. So a dispatch takes two
timeouts at most, however many write sides stall, and who takes the write in time has the payload
whatever becomes of the others. -/
theorem returns_with_the_costliest (settings : Settings) (acts : List Act) {m : Message}
    {rest : List Message} (hw : ((Traffic.start settings).run acts).waiting = m :: rest)
    (hl : ((Traffic.start settings).run acts).landed = true) (ticks : List Tick) :
    Punctual ((Traffic.start settings).run acts) m ticks
      ((start ((Traffic.start settings).run acts)).run ticks) := by
  have hb := booked_run settings acts
  generalize (Traffic.start settings).run acts = s at hb hw hl ⊢
  have hbegins := onTime_start hb hl hw
  obtain ⟨d, h, hless⟩ := hbegins.run ticks
  refine ⟨h.now_le, h.returns, h.atOnce, h.goes, ?_, ?_, ?_⟩
  · have hlength := congrArg List.length (hbegins.underway.handles hbegins.booked)
    rw [List.length_map] at hlength
    have hzero : (start s).now = 0 := rfl
    simp only [left, Dispatched.movesLeft_launch, hzero] at hless
    omega
  · intro c hc x hx ms hle hms haccepts hthen
    exact h.serves hb hc hx hms hle haccepts hthen
  · intro hown hlanded
    obtain ⟨ks, hks⟩ := run_own (start s) hown
    rw [traffic_start hl hw] at hks
    obtain ⟨d', l, hr⟩ := mirrors_moves hb hl m rest ks
    rw [← hks] at hr
    have hcurrent := hr.underway.current
    have hover : d'.landed = true := by rwa [landed_eq hcurrent] at hlanded
    refine ⟨d', hcurrent, ?_⟩
    rw [hr.dispatch_eq hb hl hover, h.duration hlanded]

/-- Of three clients one takes the message after 20 ms, though it is unregistered meanwhile; one
neither takes it nor lets itself be closed; and one breaks down after 7 ms and takes 30 more to
close. -/
theorem three_clients_on_the_clock :
    let btc := Topic.ofString "BTCUSDT"
    let m : Message := ⟨btc, [1]⟩
    let acts : List Act := [.reserve, .reserve, .reserve, .enroll 1 { writing := .after 20 },
      .enroll 2 { writing := .never, closing := .never },
      .enroll 3 { writing := .breaks 7, closing := .after 30 },
      .subscribe 1 [btc], .subscribe 2 [btc], .subscribe 3 [btc], .publish m]
    let s := (Traffic.start {}).run acts
    let ticks : List Tick := [.act (.move 0), .act (.move 1), .act (.move 2), .pass 7,
      .act (.move 2), .act (.unregister 1), .pass 13, .act (.move 0), .pass 17, .act (.move 2),
      .pass 4963, .act (.move 1), .pass 5000, .act (.move 1)]
    let u := (start s).run ticks
    (s.waiting = m :: [] ∧ s.landed = true) ∧ Punctual s m ticks u ∧ u.traffic.landed = true ∧
      u.now = 10000 ∧ (s.gateway.registry.matching btc).map (s.cost u.traffic) = [20, 10000, 37] ∧
      u.traffic.gateway.sinks.map (·.received) = [[[1]], [], []] := by
  intro btc m acts s ticks u
  have hw : s.waiting = m :: [] := by decide
  have hl : s.landed = true := by decide
  exact ⟨⟨hw, hl⟩, returns_with_the_costliest {} acts hw hl ticks, by decide⟩

end Timed

end CandleRelay.Gateway
