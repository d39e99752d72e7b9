import CandleRelay.Proofs.Traffic.Landing
import Mathlib.Algebra.GroupWithZero.Nat
import Mathlib.Data.List.Induction

/-!
# The books of a gateway

Whatever happens in a gateway, and in whatever order, each write side is given just the messages
that its connection wanted when their dispatches began, each of them once, and holds the payloads of
those it took in time, in the order of the bus.

What is proved:
  1. `Dispatched.Exact`: within one dispatch, a write is begun once for each delivery that has left
     its first stage, and answered once for each that has left its second; nothing is begun or
     answered for anybody else. A move keeps this (`Exact.moved`).
  2. `Traffic.Booked`: the log of each write side is what the dispatches say was begun and taken on
     its handle. One act keeps this (`Booked.step`), and so does a run (`booked_run`).
  3. `Booked.ends`: a dispatch comes to its end, and all who wanted the message have been called.
  4. `messages_run`, `snapshot_run`: the messages are dispatched in the order of the bus, each by
     the registry as it was when the message was taken.
-/

namespace CandleRelay.Gateway

/-! ## Snapshots -/

namespace Registry

variable {r : Registry} {h : HandleId} {t : Topic}

theorem Sound.nodup_matching (hr : r.Sound) : (r.matching t).Nodup := by
  have hentries : r.entries.Nodup := List.Nodup.of_map _ hr.ids
  refine (List.nodup_map_iff_inj_on (hentries.filter _)).2 ?_
  intro e he e' he' hh
  have he := List.mem_of_mem_filter he
  have he' := List.mem_of_mem_filter he'
  obtain ⟨x, hx, hid, -⟩ := hr.live e he
  obtain ⟨x', hx', hid', -⟩ := hr.live e' he'
  rw [hh, hx'] at hx
  obtain rfl := Option.some.inj hx
  -- Two registrations with one handle have one id, and there is one registration under it.
  have hfind := hr.find?_of_mem he
  rw [← hid, hid', hr.find?_of_mem he'] at hfind
  exact (Option.some.inj hfind).symm

/-- The handles that a topic matches are those whose connections want it. -/
theorem Sound.mem_matching_iff (hr : r.Sound) : h ∈ r.matching t ↔ r.wants h t = true := by
  constructor
  · intro hmem
    obtain ⟨e, he, rfl⟩ := List.mem_map.1 hmem
    obtain ⟨he, ht⟩ := List.mem_filter.1 he
    obtain ⟨x, hx, hid, -⟩ := hr.live e he
    have hfind := hr.find?_of_mem he
    rw [← hid] at hfind
    simp only [wants, hx, hfind, Option.any_some, ht, beq_self_eq_true, Bool.and_self]
  · intro hw
    cases hx : r.handles[h]? with
    | none => simp [wants, hx] at hw
    | some x =>
      cases hfind : r.find? x.id with
      | none => simp [wants, hx, hfind] at hw
      | some e =>
        have hw : e.handle = h ∧ t ∈ e.topics := by simpa [wants, hx, hfind] using hw
        exact List.mem_map.2
          ⟨e, List.mem_filter.2 ⟨mem_of_find? hfind, by simpa using hw.2⟩, hw.1⟩

theorem Sound.handle_of_mem_matching (hr : r.Sound) (hmem : h ∈ r.matching t) :
    ∃ x, r.handles[h]? = some x := by
  obtain ⟨e, he, rfl⟩ := List.mem_map.1 hmem
  obtain ⟨x, hx, -, -⟩ := hr.live e (List.mem_of_mem_filter he)
  exact ⟨x, hx⟩

/-- No two handles have one sink. -/
def Unshared (r : Registry) : Prop :=
  ∀ (h h' : HandleId) (x x' : Handle), r.handles[h]? = some x → r.handles[h']? = some x' →
    x.sink = x'.sink → h = h'

theorem Unshared.of_keeps {r' : Registry} (hu : r.Unshared) (hk : Keeps r r') : r'.Unshared := by
  intro h h' x x' hx hx' hsink
  obtain ⟨y, hy, -, hys⟩ := hk.back hx
  obtain ⟨y', hy', -, hys'⟩ := hk.back hx'
  exact hu h h' y y' hy hy' (by rw [← hys, ← hys', hsink])

end Registry

/-- A delivery goes to the sink and the connection of its handle. -/
def Delivery.Aimed (r : Registry) (v : Delivery) : Prop :=
  ∃ x : Handle, r.handles[v.handle]? = some x ∧ x.sink = v.sink ∧ x.id = v.id

theorem Delivery.Aimed.of_keeps {r r' : Registry} {v : Delivery} (ha : v.Aimed r)
    (hk : Registry.Keeps r r') : v.Aimed r' := by
  obtain ⟨x, hx, hsink, hid⟩ := ha
  obtain ⟨y, hy, hyid, hysink, -⟩ := hk.handle _ x hx
  exact ⟨y, hy, hysink.trans hsink, hyid.trans hid⟩

/-- The write side of a handle. -/
def sinkOf? (g : Gateway) (h : HandleId) : Option Sink :=
  (g.registry.handles[h]?).bind fun x => g.sinks[x.sink]?

theorem Delivery.Aimed.sinkOf? {g : Gateway} {v : Delivery} (ha : v.Aimed g.registry) :
    g.sinkOf? v.handle = g.sinks[v.sink]? := by
  obtain ⟨x, hx, hsink, -⟩ := ha
  simp [Gateway.sinkOf?, hx, hsink]

/-! ## One dispatch -/

namespace Dispatched

variable {d : Dispatched} {g : Gateway} {h : HandleId} {k : Nat} {old v : Delivery} {m : Message}
  {settings : Settings}

/-- The accounts of a dispatch are those of its deliveries. -/
structure Exact (d : Dispatched) : Prop where
  snapshot : d.snapshot.Sound
  payload : d.flight.payload = d.message.payload
  handles : d.flight.deliveries.map (·.handle) = d.snapshot.matching d.message.topic
  calls : ∀ v ∈ d.flight.deliveries, d.calls.count v.handle = v.stage.begun.toNat
  answers : ∀ v ∈ d.flight.deliveries, (d.answersOf v.handle).length = v.stage.answered.toNat
  others : ∀ h, d.wanted h = false → d.calls.count h = 0 ∧ d.answersOf h = []

theorem Exact.wanted_iff (hd : d.Exact) :
    d.wanted h = true ↔ ∃ v ∈ d.flight.deliveries, v.handle = h := by
  rw [wanted, ← hd.snapshot.mem_matching_iff, ← hd.handles, List.mem_map]

theorem Exact.eq_of_handle (hd : d.Exact) {j : Nat} {w : Delivery}
    (hj : d.flight.deliveries[j]? = some w) (hk : d.flight.deliveries[k]? = some v)
    (hh : w.handle = v.handle) : j = k := by
  have hnodup : (d.flight.deliveries.map (·.handle)).Nodup := by
    rw [hd.handles]
    exact hd.snapshot.nodup_matching
  have hj' : (d.flight.deliveries.map (·.handle))[j]? = some w.handle := by simp [hj]
  have hk' : (d.flight.deliveries.map (·.handle))[k]? = some v.handle := by simp [hk]
  have hlt := (List.getElem?_eq_some_iff.1 hj').1
  refine (List.getElem?_inj hlt hnodup).1 ?_
  rw [hj', hk', hh]

/-- A handle is called once at most, and not unless its connection wanted the message. -/
theorem Exact.count_le (hd : d.Exact) (h : HandleId) :
    d.calls.count h ≤ (d.wanted h).toNat := by
  cases hw : d.wanted h with
  | false => exact Nat.le_of_eq (hd.others h hw).1
  | true =>
    obtain ⟨v, hv, rfl⟩ := hd.wanted_iff.1 hw
    rw [hd.calls v hv]
    exact Bool.toNat_le _

/-- When all deliveries are over, those who wanted the message were called and answered once. -/
theorem Exact.of_landed (hd : d.Exact) (hl : d.landed = true) (h : HandleId) :
    d.calls.count h = (d.wanted h).toNat ∧ (d.answersOf h).length = (d.wanted h).toNat := by
  cases hw : d.wanted h with
  | false =>
    obtain ⟨hcalls, hanswers⟩ := hd.others h hw
    rw [hcalls, hanswers]
    exact ⟨rfl, rfl⟩
  | true =>
    obtain ⟨v, hv, rfl⟩ := hd.wanted_iff.1 hw
    have hanswered := Delivery.answered_of_isOver (List.all_eq_true.1 hl v hv)
    rw [hd.calls v hv, hd.answers v hv, Delivery.begun_of_answered hanswered, hanswered]
    exact ⟨rfl, rfl⟩

theorem Exact.wanted_of_tookBy (hd : d.Exact) (ht : d.tookBy h = true) : d.wanted h = true := by
  by_contra hw
  rw [Bool.not_eq_true] at hw
  rw [tookBy, (hd.others h hw).2] at ht
  simp at ht

/-! A dispatch that begins has begun and answered nothing. -/

theorem stage_of_mem_launch (hv : v ∈ (launch settings g m).flight.deliveries) :
    v.stage = .waiting := by
  obtain ⟨h, -, hv⟩ := List.mem_filterMap.1 hv
  obtain ⟨x, -, rfl⟩ := Option.map_eq_some_iff.1 hv
  rfl

theorem exact_launch (hr : g.registry.Sound) : (launch settings g m).Exact := by
  have hhandles : (launch settings g m).flight.deliveries.map (·.handle) =
      g.registry.matching m.topic := by
    simp only [launch, Flight.launch, List.map_filterMap]
    refine (List.filterMap_congr ?_).trans List.filterMap_some
    intro h hmem
    obtain ⟨x, hx⟩ := hr.handle_of_mem_matching hmem
    simp [hx]
  refine ⟨hr, rfl, hhandles, ?_, ?_, fun _ _ => ⟨rfl, rfl⟩⟩ <;>
  · intro v hv
    rw [stage_of_mem_launch hv]
    rfl

/-! ## One move -/

theorem answersOf_moved : (d.moved g k old v).answersOf h =
    d.answersOf h ++ if h = old.handle then (old.answer? d.flight.payload g).toList else [] := by
  simp only [answersOf, moved, List.filter_append, List.map_append]
  congr 1
  cases old.answer? d.flight.payload g with
  | none => simp
  | some a =>
    by_cases hh : h = old.handle
    · simp [hh]
    · have hne : ¬ old.handle = h := fun h' => hh h'.symm
      simp [hh, hne]

theorem count_moved : (d.moved g k old v).calls.count h =
    d.calls.count h + (old.call? g).toList.count h := by
  simp [moved]

theorem Exact.mem_set (hd : d.Exact) (hk : d.flight.deliveries[k]? = some old) {st : Stage}
    (hv : v ∈ d.flight.deliveries.set k { old with stage := st }) :
    (v ∈ d.flight.deliveries ∧ v.handle ≠ old.handle) ∨ v = { old with stage := st } := by
  obtain ⟨j, hj⟩ := List.mem_iff_getElem?.1 hv
  by_cases hjk : k = j
  · subst hjk
    rw [List.getElem?_set_self (List.getElem?_eq_some_iff.1 hk).1] at hj
    exact Or.inr (Option.some.inj hj).symm
  · rw [List.getElem?_set_ne hjk] at hj
    refine Or.inl ⟨List.mem_of_getElem? hj, ?_⟩
    intro hh
    exact hjk (hd.eq_of_handle hj hk hh).symm

theorem handles_set {vs : List Delivery} (hk : vs[k]? = some old) (st : Stage) :
    (vs.set k { old with stage := st }).map (·.handle) = vs.map (·.handle) := by
  refine List.ext_getElem? ?_
  intro j
  by_cases hjk : k = j
  · subst hjk
    have hlt := (List.getElem?_eq_some_iff.1 hk).1
    simp only [List.getElem?_map, List.getElem?_set_self hlt, hk, Option.map_some]
  · simp only [List.getElem?_map, List.getElem?_set_ne hjk]

/-- A move begins or answers one write at most, that of its own handle, and none twice. -/
theorem Exact.moved (hd : d.Exact) (hk : d.flight.deliveries[k]? = some old) {x : Sink}
    (hs : g.sinks[old.sink]? = some x) :
    (d.moved g k old (old.move d.flight.settings d.flight.payload g).2).Exact := by
  obtain ⟨st, hmove, hbegun, hanswered⟩ :=
    Delivery.stage_move d.flight.settings d.flight.payload hs
  have hold : old ∈ d.flight.deliveries := List.mem_of_getElem? hk
  rw [hmove]
  refine ⟨hd.snapshot, hd.payload, (handles_set hk st).trans hd.handles, ?_, ?_, ?_⟩
  · intro v hv
    rw [count_moved, Delivery.call?_eq hs]
    rcases hd.mem_set hk hv with ⟨hmem, hne⟩ | rfl
    · rw [hd.calls v hmem]
      split <;> simp [Ne.symm hne]
    · rw [hd.calls old hold]
      cases old.stage.begun <;> simp [hbegun]
  · intro v hv
    rw [answersOf_moved]
    rcases hd.mem_set hk hv with ⟨hmem, hne⟩ | rfl
    · rw [if_neg hne, List.append_nil, hd.answers v hmem]
    · have hsome := Delivery.isSome_answer? d.flight.payload hs
      rw [if_pos rfl, List.length_append, hd.answers old hold, Option.length_toList, hsome,
        hanswered]
      -- An answer comes once: after the write has begun, and before it is answered.
      cases hb : old.stage.begun
      · cases ha : old.stage.answered
        · rfl
        · simp [Delivery.begun_of_answered ha] at hb
      · cases old.stage.answered <;> rfl
  · intro h hw
    -- The delivery that moved is for somebody who wanted the message.
    have hne : h ≠ old.handle := by
      rintro rfl
      rw [wanted] at hw
      simp only [Dispatched.moved] at hw
      rw [← wanted, hd.wanted_iff.2 ⟨old, hold, rfl⟩] at hw
      simp at hw
    obtain ⟨hcalls, hanswers⟩ := hd.others h hw
    rw [count_moved, answersOf_moved, hcalls, hanswers, if_neg hne, Delivery.call?_eq hs]
    refine ⟨?_, rfl⟩
    split <;> simp [Ne.symm hne]

end Dispatched

/-! ## All dispatches -/

namespace Traffic

/-- The payloads that the sink of a handle took in time. -/
def taken (ds : List Dispatched) (h : HandleId) : List Bytes :=
  (ds.filter (·.tookBy h)).map (·.message.payload)

/-- How many writes to the sink of a handle were begun. -/
def called (ds : List Dispatched) (h : HandleId) : Nat := (ds.map (·.calls.count h)).sum

variable {s s' : Traffic} {h : HandleId} {x : Handle} {ds ds' : List Dispatched} {d : Dispatched}

theorem mem_dispatches (hcurrent : s.current = some d) : d ∈ s.dispatches := by
  simp [dispatches, hcurrent]

theorem taken_singleton : taken [d] h = if d.tookBy h then [d.message.payload] else [] := by
  cases ht : d.tookBy h <;> simp [taken, ht]

theorem called_singleton : called [d] h = d.calls.count h := by simp [called]

@[simp] theorem taken_append : taken (ds ++ ds') h = taken ds h ++ taken ds' h := by
  simp [taken]

@[simp] theorem called_append : called (ds ++ ds') h = called ds h + called ds' h := by
  simp [called]

/-- The books agree with the write sides: each sink belongs to one handle at most, has been written
to as the dispatches say of that handle, and not at all if it belongs to none. -/
structure Booked (s : Traffic) : Prop where
  sound : s.gateway.registry.Sound
  unshared : s.gateway.registry.Unshared
  exact : ∀ d ∈ s.dispatches, d.Exact
  landed : ∀ d ∈ s.past, d.landed = true
  aimed : ∀ d ∈ s.dispatches, ∀ v ∈ d.flight.deliveries, v.Aimed s.gateway.registry
  log : ∀ (h : HandleId) (x : Handle), s.gateway.registry.handles[h]? = some x →
    ∃ l, s.gateway.log? x.sink = some l ∧ l.received = taken s.dispatches h ∧
      l.attempts = called s.dispatches h
  unheld : ∀ k l, s.gateway.log? k = some l →
    (∀ (h : HandleId) (x : Handle), s.gateway.registry.handles[h]? = some x → x.sink ≠ k) →
    l.received = [] ∧ l.attempts = 0

theorem Booked.unwanted_of_unknown (hb : s.Booked)
    (hnone : s.gateway.registry.handles[h]? = none) (hd : d ∈ s.dispatches) :
    d.wanted h = false := by
  by_contra hw
  rw [Bool.not_eq_false] at hw
  obtain ⟨v, hv, rfl⟩ := (hb.exact d hd).wanted_iff.1 hw
  obtain ⟨x, hx, -, -⟩ := hb.aimed d hd v hv
  rw [hnone] at hx
  simp at hx

theorem Booked.unknown (hb : s.Booked) (hnone : s.gateway.registry.handles[h]? = none) :
    taken s.dispatches h = [] ∧ called s.dispatches h = 0 := by
  have hw : ∀ d ∈ s.dispatches, d.wanted h = false := fun d hd => hb.unwanted_of_unknown hnone hd
  constructor
  · rw [taken, List.map_eq_nil_iff, List.filter_eq_nil_iff]
    intro d hd ht
    have := (hb.exact d hd).wanted_of_tookBy ht
    rw [hw d hd] at this
    simp at this
  · rw [called, List.sum_eq_zero_iff_forall_eq_nat]
    intro n hn
    obtain ⟨d, hd, rfl⟩ := List.mem_map.1 hn
    exact ((hb.exact d hd).others h (hw d hd)).1

theorem booked_start (settings : Settings) : (start settings).Booked := by
  have hnone : ∀ h : HandleId, (start settings).gateway.registry.handles[h]? = none :=
    fun _ => rfl
  refine ⟨Registry.sound_empty, ?_, ?_, ?_, ?_, ?_, ?_⟩
  · intro h h' x x' hx
    rw [hnone] at hx
    simp at hx
  · exact fun d hd => absurd hd List.not_mem_nil
  · exact fun d hd => absurd hd List.not_mem_nil
  · exact fun d hd => absurd hd List.not_mem_nil
  · intro h x hx
    rw [hnone] at hx
    simp at hx
  · intro k l hl
    simp [log?, start] at hl

/-- An act that makes no handle and writes to nobody. -/
theorem Booked.of_keeps (hb : s.Booked)
    (hk : Registry.Keeps s.gateway.registry s'.gateway.registry)
    (hr : s'.gateway.registry.Sound) (hlog : ∀ k, s'.gateway.log? k = s.gateway.log? k)
    (hds : s'.dispatches = s.dispatches) (hpast : s'.past = s.past) : s'.Booked := by
  refine ⟨hr, hb.unshared.of_keeps hk, ?_, ?_, ?_, ?_, ?_⟩
  · rw [hds]
    exact hb.exact
  · rw [hpast]
    exact hb.landed
  · rw [hds]
    exact fun d hd v hv => (hb.aimed d hd v hv).of_keeps hk
  · intro h x hx
    obtain ⟨y, hy, -, hys⟩ := hk.back hx
    rw [hds, hlog, hys]
    exact hb.log h y hy
  · intro k l hl hno
    rw [hlog] at hl
    refine hb.unheld k l hl ?_
    intro h x hx
    obtain ⟨y, hy, -, hysink, -⟩ := hk.handle _ x hx
    rw [← hysink]
    exact hno h y hy

theorem Booked.of_ends (hb : s.Booked) {m : Option Removal}
    (hends : s.gateway.registry.Ends m s'.gateway.registry)
    (hlog : ∀ k, s'.gateway.log? k = s.gateway.log? k) (hds : s'.dispatches = s.dispatches)
    (hpast : s'.past = s.past) : s'.Booked :=
  hb.of_keeps hends.keeps (hends.sound hb.sound) hlog hds hpast

theorem Booked.of_register (hb : s.Booked) {id : ConnectionId} {m : Manner}
    (hreg : s'.gateway.registry = (s.gateway.registry.register id s.gateway.sinks.length).2)
    (hsinks : s'.gateway.sinks = s.gateway.sinks ++ [{ toManner := m }])
    (hds : s'.dispatches = s.dispatches) (hpast : s'.past = s.past) : s'.Booked := by
  have hlog : ∀ k, s'.gateway.log? k =
      if k = s.gateway.sinks.length then some {} else s.gateway.log? k := by
    intro k
    rw [← log?_append m]
    exact Delivery.log?_of_sinks hsinks
  -- The sinks of the handles there were are not the new one.
  have hne : ∀ (h : HandleId) (x : Handle), s.gateway.registry.handles[h]? = some x →
      x.sink ≠ s.gateway.sinks.length := by
    intro h x hx hsink
    obtain ⟨l, hl, -, -⟩ := hb.log h x hx
    rw [hsink, log?_length] at hl
    simp at hl
  refine ⟨by rw [hreg]; exact hb.sound.register _, ?_, ?_, ?_, ?_, ?_, ?_⟩
  · -- Each of the two handles is an old one or the new one.
    intro h h' x x' hx hx' hsink
    rw [hreg] at hx hx'
    rcases Registry.handle_register_back _ hx with hx | ⟨-, hh, rfl⟩
    · rcases Registry.handle_register_back _ hx' with hx' | ⟨-, -, rfl⟩
      · exact hb.unshared h h' x x' hx hx' hsink
      · exact absurd hsink (hne h x hx)
    · rcases Registry.handle_register_back _ hx' with hx' | ⟨-, hh', rfl⟩
      · exact absurd hsink.symm (hne h' x' hx')
      · rw [hh, hh']
  · rw [hds]
    exact hb.exact
  · rw [hpast]
    exact hb.landed
  · rw [hds, hreg]
    intro d hd v hv
    obtain ⟨x, hx, hx'⟩ := hb.aimed d hd v hv
    exact ⟨x, Registry.handle_register _ hx, hx'⟩
  · intro h x hx
    rw [hreg] at hx
    rw [hds, hlog]
    rcases Registry.handle_register_back _ hx with hx | ⟨-, rfl, rfl⟩
    · rw [if_neg (hne h x hx)]
      exact hb.log h x hx
    · -- No dispatch so far was for the new handle.
      obtain ⟨htaken, hcalled⟩ := hb.unknown (List.getElem?_eq_none (Nat.le_refl _))
      rw [htaken, hcalled]
      exact ⟨{}, if_pos rfl, rfl, rfl⟩
  · intro k l hl hno
    rw [hlog] at hl
    split at hl
    · obtain rfl := Option.some.inj hl
      exact ⟨rfl, rfl⟩
    · refine hb.unheld k l hl ?_
      intro h x hx
      exact hno h x (by rw [hreg]; exact Registry.handle_register _ hx)

/-- With no message in flight all dispatches are over. -/
theorem Booked.all_landed (hb : s.Booked) (hl : s.landed = true) (hd : d ∈ s.dispatches) :
    d.landed = true := by
  rcases List.mem_append.1 hd with hd | hd
  · exact hb.landed d hd
  · exact (Option.all_eq_true ..).1 hl d (Option.mem_toList.1 hd)

theorem Booked.afterTake (hb : s.Booked) (hl : s.landed = true) (m : Message)
    (rest : List Message) : (s.afterTake m rest).Booked := by
  have hds : (s.afterTake m rest).dispatches = s.dispatches ++
      [Dispatched.launch s.settings (s.gateway.count .busMessages) m] := rfl
  have htaken : ∀ h, taken (s.afterTake m rest).dispatches h = taken s.dispatches h := by
    intro h
    rw [hds, taken_append]
    exact List.append_nil _
  have hcalled : ∀ h, called (s.afterTake m rest).dispatches h = called s.dispatches h := by
    intro h
    rw [hds, called_append]
    exact Nat.add_zero _
  refine ⟨hb.sound, hb.unshared, ?_, ?_, ?_, ?_, hb.unheld⟩
  · intro d hd
    rcases List.mem_append.1 hd with hd | hd
    · exact hb.exact d hd
    · obtain rfl := List.mem_singleton.1 hd
      exact Dispatched.exact_launch hb.sound
  · exact fun d hd => hb.all_landed hl hd
  · intro d hd
    rcases List.mem_append.1 hd with hd | hd
    · exact hb.aimed d hd
    · obtain rfl := List.mem_singleton.1 hd
      intro v hv
      obtain ⟨h, -, hv⟩ := List.mem_filterMap.1 hv
      obtain ⟨x, hx, rfl⟩ := Option.map_eq_some_iff.1 hv
      exact ⟨x, hx, rfl, rfl⟩
  · intro h x hx
    rw [htaken, hcalled]
    exact hb.log h x hx

theorem taken_moved {g : Gateway} {k : Nat} {old v : Delivery} {y : Sink} (hd : d.Exact)
    (hold : old ∈ d.flight.deliveries) (hs : g.sinks[old.sink]? = some y) (h : HandleId) :
    taken [d.moved g k old v] h = taken [d] h ++
      if h = old.handle then (old.effect d.flight.settings d.flight.payload g).received
      else [] := by
  have hanswers : (d.moved g k old v).answersOf h = d.answersOf h ++
      if h = old.handle then (old.answer? d.flight.payload g).toList else [] :=
    Dispatched.answersOf_moved
  have hmessage : (d.moved g k old v).message = d.message := rfl
  rw [taken_singleton, taken_singleton, Dispatched.tookBy, Dispatched.tookBy, hanswers, hmessage]
  by_cases hh : h = old.handle
  · subst hh
    cases ha : old.answer? d.flight.payload g with
    | none => simp [Delivery.effect, ha]
    | some a =>
      -- Nothing had come of the write before.
      have hnone : d.answersOf old.handle = [] := by
        have hsome := Delivery.isSome_answer? d.flight.payload hs
        rw [ha] at hsome
        have hnot : old.stage.answered = false := by
          cases hst : old.stage.answered
          · rfl
          · simp [hst] at hsome
        rw [← List.length_eq_zero_iff, hd.answers old hold, hnot]
        rfl
      cases a <;> simp [Delivery.effect, ha, hnone, ← hd.payload]
  · simp [hh]

theorem called_moved {g : Gateway} {k : Nat} {old v : Delivery} {y : Sink}
    (hs : g.sinks[old.sink]? = some y) (h : HandleId) :
    called [d.moved g k old v] h = called [d] h +
      if h = old.handle then (old.effect d.flight.settings d.flight.payload g).attempts else 0 := by
  rw [called_singleton, called_singleton, Dispatched.count_moved, Delivery.effect,
    Delivery.call?_eq hs]
  cases old.stage.begun with
  | true => simp
  | false =>
    by_cases hh : h = old.handle
    · simp [hh]
    · simp [hh, Ne.symm hh]

theorem Booked.sink_of_delivery (hb : s.Booked) {v : Delivery} (hd : d ∈ s.dispatches)
    (hv : v ∈ d.flight.deliveries) : ∃ y, s.gateway.sinks[v.sink]? = some y := by
  obtain ⟨x, hx, hsink, -⟩ := hb.aimed d hd v hv
  obtain ⟨l, hl, -, -⟩ := hb.log _ x hx
  rw [hsink] at hl
  obtain ⟨y, hy, -⟩ := Option.map_eq_some_iff.1 hl
  exact ⟨y, hy⟩

/-- What a move adds to the log of a sink is what it adds to the books of its handle. -/
theorem Booked.log_afterMove (hb : s.Booked) {k : Nat} {old : Delivery}
    (hcurrent : s.current = some d) (hold : old ∈ d.flight.deliveries)
    (hz : s.gateway.registry.handles[h]? = some x) :
    ∃ l, (s.afterMove d k old).gateway.log? x.sink = some l ∧
      l.received = taken (s.afterMove d k old).dispatches h ∧
      l.attempts = called (s.afterMove d k old).dispatches h := by
  have hds : s.dispatches = s.past ++ [d] := by simp [dispatches, hcurrent]
  have hd : d ∈ s.dispatches := by simp [hds]
  obtain ⟨y, hy, hysink, -⟩ := hb.aimed d hd old hold
  obtain ⟨w, hw⟩ := hb.sink_of_delivery hd hold
  have hspec := Delivery.moveSpec d.flight.settings d.flight.payload s.gateway old
  have hafter : (s.afterMove d k old).dispatches = s.past ++ [d.moved s.gateway k old
      (old.move d.flight.settings d.flight.payload s.gateway).2] := rfl
  have htaken := taken_moved (k := k)
    (v := (old.move d.flight.settings d.flight.payload s.gateway).2) (hb.exact d hd) hold hw h
  have hcalled := called_moved (d := d) (k := k)
    (v := (old.move d.flight.settings d.flight.payload s.gateway).2) hw h
  obtain ⟨l, hl, hreceived, hattempts⟩ := hb.log h x hz
  rw [hds, taken_append] at hreceived
  rw [hds, called_append] at hattempts
  -- The sink is that of the delivery just when the handle is.
  have hiff : x.sink = old.sink ↔ h = old.handle := by
    constructor
    · intro heq
      exact hb.unshared h old.handle x y hz hy (heq.trans hysink.symm)
    · rintro rfl
      rw [hy] at hz
      rw [← Option.some.inj hz, hysink]
  rw [hafter, taken_append, called_append, htaken, hcalled]
  show ∃ l' : Log, log? (old.move d.flight.settings d.flight.payload s.gateway).1 x.sink = some l' ∧
    l'.received = _ ∧ l'.attempts = _
  rw [hspec.logs, hl]
  by_cases hh : h = old.handle
  · rw [if_pos (hiff.2 hh), if_pos hh, if_pos hh]
    refine ⟨_, rfl, ?_, ?_⟩
    · rw [← List.append_assoc, ← hreceived]
      rfl
    · rw [← Nat.add_assoc, ← hattempts]
      rfl
  · rw [if_neg (fun heq => hh (hiff.1 heq)), if_neg hh, if_neg hh]
    exact ⟨l, rfl, by rw [List.append_nil, hreceived], by rw [Nat.add_zero, hattempts]⟩

theorem Booked.afterMove (hb : s.Booked) {k : Nat} {old : Delivery} (hcurrent : s.current = some d)
    (hk : d.flight.deliveries[k]? = some old) : (s.afterMove d k old).Booked := by
  have hdmem : d ∈ s.dispatches := mem_dispatches hcurrent
  have hold : old ∈ d.flight.deliveries := List.mem_of_getElem? hk
  obtain ⟨x, hx, hsink, -⟩ := hb.aimed d hdmem old hold
  obtain ⟨y, hy⟩ := hb.sink_of_delivery hdmem hold
  have hspec := Delivery.moveSpec d.flight.settings d.flight.payload s.gateway old
  obtain ⟨st, hst, -, -⟩ := Delivery.stage_move d.flight.settings d.flight.payload hy
  have hkeeps := hspec.ends.keeps
  refine ⟨hspec.ends.sound hb.sound, hb.unshared.of_keeps hkeeps, ?_, hb.landed, ?_, ?_, ?_⟩
  · intro d' hd'
    rcases List.mem_append.1 hd' with hd' | hd'
    · exact hb.exact d' (List.mem_append_left _ hd')
    · obtain rfl := List.mem_singleton.1 hd'
      exact (hb.exact d hdmem).moved hk hy
  · intro d' hd' v hv
    rcases List.mem_append.1 hd' with hd' | hd'
    · exact (hb.aimed d' (List.mem_append_left _ hd') v hv).of_keeps hkeeps
    · obtain rfl := List.mem_singleton.1 hd'
      rcases List.mem_or_eq_of_mem_set hv with hv | rfl
      · exact (hb.aimed d hdmem v hv).of_keeps hkeeps
      · rw [hst]
        exact (hb.aimed d hdmem old hold).of_keeps hkeeps
  · intro h z hz
    obtain ⟨z', hz', -, hzsink⟩ := hkeeps.back hz
    rw [hzsink]
    exact hb.log_afterMove hcurrent hold hz'
  · intro k' l hl hno
    have hl : log? (old.move d.flight.settings d.flight.payload s.gateway).1 k' = some l := hl
    rw [hspec.logs] at hl
    -- A sink that belongs to no handle is not the one that the delivery writes to.
    have hne : k' ≠ old.sink := by
      rintro rfl
      obtain ⟨x', hx', -, hsink', -⟩ := hkeeps.handle _ x hx
      exact hno _ x' hx' (hsink'.trans hsink)
    rw [if_neg hne] at hl
    refine hb.unheld k' l hl ?_
    intro h z hz
    obtain ⟨z', hz', -, hsink', -⟩ := hkeeps.handle _ z hz
    rw [← hsink']
    exact hno h z' hz'

theorem Booked.takeNext (hb : s.Booked) : s.takeNext.Booked := by
  rcases takeNext_cases s with hsame | ⟨m, rest, -, hl, htake⟩
  · rwa [hsame]
  · rw [htake]
    exact hb.afterTake hl m rest

theorem Booked.moveDelivery (hb : s.Booked) (k : Nat) : (s.moveDelivery k).Booked := by
  rcases moveDelivery_cases s k with hsame | ⟨d, old, hcurrent, hk, hmove⟩
  · rwa [hsame]
  · rw [hmove]
    exact hb.afterMove hcurrent hk

theorem run_append (s : Traffic) (before after : List Act) :
    s.run (before ++ after) = (s.run before).run after := List.foldl_append

theorem run_concat {acts : List Act} {a : Act} : s.run (acts ++ [a]) = (s.run acts).step a := by
  rw [run, List.foldl_append]
  rfl

/-- What happened before some `x` of a list that has one more at its end happened in the list
before, or `x` is that one. -/
theorem exists_split_concat {α : Type} {l : List α} {a x : α} {P : List α → Prop} :
    (∃ before after, l ++ [a] = before ++ x :: after ∧ P before) ↔
      (∃ before after, l = before ++ x :: after ∧ P before) ∨ a = x ∧ P l := by
  constructor
  · rintro ⟨before, after, heq, hp⟩
    rcases List.eq_nil_or_concat after with rfl | ⟨after, b, rfl⟩
    · obtain ⟨rfl, hax⟩ := List.append_inj' heq rfl
      exact Or.inr ⟨List.singleton_inj.1 hax, hp⟩
    · rw [List.concat_eq_append, ← List.cons_append, ← List.append_assoc] at heq
      exact Or.inl ⟨before, after, (List.append_inj' heq rfl).1, hp⟩
  · rintro (⟨before, after, rfl, hp⟩ | ⟨rfl, hp⟩)
    · exact ⟨before, after ++ [a], by simp, hp⟩
    · exact ⟨l, [], rfl, hp⟩

/-- One act keeps the books. -/
theorem Booked.step (hb : s.Booked) (a : Act) : (s.step a).Booked := by
  cases a with
  | reserve =>
    exact hb.of_keeps Registry.keeps_allocate hb.sound.allocate (fun _ => rfl) rfl rfl
  | enroll id manner =>
    simp only [Traffic.step]
    split
    · exact hb.of_register rfl rfl rfl rfl
    · exact hb
  | receive i data =>
    obtain ⟨hends, hsinks⟩ := ends_receive (g := s.gateway) i data
    exact hb.of_ends hends (fun _ => Delivery.log?_of_sinks hsinks) rfl rfl
  | close i =>
    obtain ⟨hends, hsinks⟩ := ends_closeSession (g := s.gateway) i
    exact hb.of_ends hends (fun _ => Delivery.log?_of_sinks hsinks) rfl rfl
  | register id manner => exact hb.of_register rfl rfl rfl rfl
  | subscribe id topics =>
    exact hb.of_ends (Registry.ends_subscribe topics) (fun _ => rfl) rfl rfl
  | unsubscribe id topics =>
    exact hb.of_ends (Registry.ends_unsubscribe topics) (fun _ => rfl) rfl rfl
  | unregister id =>
    exact hb.of_ends (Registry.ends_unregister .outside) (fun _ => rfl) rfl rfl
  | retune k manner =>
    exact hb.of_ends (Registry.Ends.refl _) (fun _ => log?_retune _) rfl rfl
  | publish m => exact hb.of_ends (Registry.Ends.refl _) (fun _ => rfl) rfl rfl
  | take => exact hb.takeNext
  | move k => exact hb.moveDelivery k

theorem Booked.run (hb : s.Booked) (acts : List Act) : (s.run acts).Booked := by
  induction acts generalizing s with
  | nil => exact hb
  | cons a acts ih => exact ih (hb.step a)

theorem booked_run (settings : Settings) (acts : List Act) :
    ((start settings).run acts).Booked := (booked_start settings).run acts

/-- Three moves for each connection that a dispatch is for bring it to its end, and then all of them
have been called and have answered. -/
theorem Booked.ends (hb : s.Booked) (hcurrent : s.current = some d) {acts : List Act}
    (hmoves : ∀ k < (d.snapshot.matching d.message.topic).length, 3 ≤ acts.count (.move k)) :
    ∃ d', (s.run acts).dispatches[s.past.length]? = some d' ∧ d'.message = d.message ∧
      d'.snapshot = d.snapshot ∧ d'.landed = true ∧ ∀ h,
        d'.calls.count h = (d.wanted h).toNat ∧ (d'.answersOf h).length = (d.wanted h).toNat := by
  have hlength : d.flight.deliveries.length = (d.snapshot.matching d.message.topic).length := by
    rw [← (hb.exact d (mem_dispatches hcurrent)).handles, List.length_map]
  rw [← hlength] at hmoves
  obtain ⟨d', hget, hmessage, hsnapshot, hlanded⟩ := landed_of_moves hcurrent hmoves
  refine ⟨d', hget, hmessage, hsnapshot, hlanded, ?_⟩
  intro h
  have hwanted : d.wanted h = d'.wanted h := by
    rw [Dispatched.wanted, Dispatched.wanted, hmessage, hsnapshot]
  rw [hwanted]
  exact ((hb.run acts).exact d' (List.mem_of_getElem? hget)).of_landed hlanded h

/-! ## Messages and snapshots -/

/-- The messages that came to the listener, in the order of the bus. -/
def published (acts : List Act) : List Message :=
  acts.filterMap fun
    | .publish m => some m
    | _ => none

theorem published_concat {acts : List Act} {a : Act} :
    published (acts ++ [a]) = published acts ++ published [a] := by
  simp [published]

theorem dispatches_step (s : Traffic) (a : Act) :
    a = .take ∨ (∃ k, a = .move k) ∨
      (s.step a).dispatches = s.dispatches ∧ (s.step a).waiting = s.waiting ++ published [a] := by
  cases a with
  | take => exact Or.inl rfl
  | move k => exact Or.inr (Or.inl ⟨k, rfl⟩)
  | publish m => exact Or.inr (Or.inr ⟨rfl, rfl⟩)
  | enroll id manner =>
    refine Or.inr (Or.inr ?_)
    simp only [Traffic.step]
    split <;> exact ⟨rfl, (List.append_nil _).symm⟩
  | _ => exact Or.inr (Or.inr ⟨rfl, (List.append_nil _).symm⟩)

theorem dispatches_takeNext (s : Traffic) :
    s.takeNext.dispatches = s.dispatches ∧ s.takeNext.waiting = s.waiting ∨
      ∃ d m rest, s.waiting = m :: rest ∧ s.takeNext.waiting = rest ∧
        s.takeNext.dispatches = s.dispatches ++ [d] ∧ d.message = m ∧
        d.snapshot = s.gateway.registry := by
  rcases takeNext_cases s with hsame | ⟨m, rest, hwaiting, -, htake⟩
  · rw [hsame]
    exact Or.inl ⟨rfl, rfl⟩
  · rw [htake]
    exact Or.inr ⟨_, m, rest, hwaiting, rfl, rfl, rfl, rfl⟩

theorem dispatches_moveDelivery (s : Traffic) (k : Nat) :
    (s.moveDelivery k).dispatches.map (fun d => (d.message, d.snapshot)) =
        s.dispatches.map (fun d => (d.message, d.snapshot)) ∧
      (s.moveDelivery k).waiting = s.waiting := by
  rcases moveDelivery_cases s k with hsame | ⟨d, old, hcurrent, -, hmove⟩
  · rw [hsame]
    exact ⟨rfl, rfl⟩
  · rw [hmove]
    exact ⟨by simp [dispatches, afterMove, hcurrent, Dispatched.moved], rfl⟩

/-- No message is lost, doubled or overtaken on the way to its dispatch. -/
theorem messages_run (settings : Settings) (acts : List Act) :
    ((start settings).run acts).dispatches.map (·.message) ++ ((start settings).run acts).waiting =
      published acts := by
  -- The induction is on the acts from the end; a message goes from those that wait to a dispatch.
  induction acts using List.reverseRecOn with
  | nil => rfl
  | append_singleton acts a ih =>
    rw [run_concat, published_concat, ← ih]
    rcases dispatches_step ((start settings).run acts) a with rfl | ⟨k, rfl⟩ | ⟨hds, hw⟩
    · show (Traffic.takeNext _).dispatches.map _ ++ (Traffic.takeNext _).waiting = _
      rcases dispatches_takeNext ((start settings).run acts) with
        ⟨hds, hw⟩ | ⟨d, m, rest, hwaiting, hw, hds, hm, -⟩
      · rw [hds, hw]
        exact (List.append_nil _).symm
      · rw [hds, hw, hwaiting, List.map_append, List.append_assoc]
        simp [published, hm]
    · show (Traffic.moveDelivery _ k).dispatches.map _ ++ (Traffic.moveDelivery _ k).waiting = _
      obtain ⟨hds, hw⟩ := dispatches_moveDelivery ((start settings).run acts) k
      have hmessages := congrArg (List.map Prod.fst) hds
      simp only [List.map_map, Function.comp_def] at hmessages
      rw [hmessages, hw]
      exact (List.append_nil _).symm
    · rw [hds, hw, List.append_assoc]

/-- A dispatch goes out to those who were registered, and wanted it, when it was taken. -/
theorem snapshot_run (settings : Settings) (acts : List Act) {d : Dispatched}
    (hd : d ∈ ((start settings).run acts).dispatches) :
    ∃ before after, acts = before ++ .take :: after ∧
      d.snapshot = ((start settings).run before).gateway.registry ∧
      ((start settings).run before).waiting.head? = some d.message := by
  induction acts using List.reverseRecOn generalizing d with
  | nil => exact absurd hd List.not_mem_nil
  | append_singleton acts a ih =>
    -- The dispatch was there before the last act, or it was begun by it.
    have hbefore : ∀ d' ∈ ((start settings).run acts).dispatches,
        d'.message = d.message → d'.snapshot = d.snapshot →
        ∃ before after, acts ++ [a] = before ++ .take :: after ∧
          d.snapshot = ((start settings).run before).gateway.registry ∧
          ((start settings).run before).waiting.head? = some d.message := by
      intro d' hd' hm hs
      obtain ⟨before, after, rfl, hsnapshot, hhead⟩ := ih hd'
      exact ⟨before, after ++ [a], by simp, hs ▸ hsnapshot, hm ▸ hhead⟩
    rw [run_concat] at hd
    rcases dispatches_step ((start settings).run acts) a with rfl | ⟨k, rfl⟩ | ⟨hds, -⟩
    · rcases dispatches_takeNext ((start settings).run acts) with
        ⟨hds, -⟩ | ⟨d', m, rest, hwaiting, -, hds, hm, hs⟩
      · exact hbefore d (hds ▸ hd) rfl rfl
      · have hd : d ∈ ((start settings).run acts).dispatches ++ [d'] := hds ▸ hd
        rcases List.mem_append.1 hd with hd | hd
        · exact hbefore d hd rfl rfl
        · obtain rfl := List.mem_singleton.1 hd
          exact ⟨acts, [], rfl, hs, by rw [hwaiting, hm]; rfl⟩
    · have hds := (dispatches_moveDelivery ((start settings).run acts) k).1
      have hmem : (d.message, d.snapshot) ∈
          (((start settings).run acts).moveDelivery k).dispatches.map fun d =>
            (d.message, d.snapshot) := List.mem_map.2 ⟨d, hd, rfl⟩
      rw [hds] at hmem
      obtain ⟨d', hd', heq⟩ := List.mem_map.1 hmem
      exact hbefore d' hd' (congrArg Prod.fst heq) (congrArg Prod.snd heq)
    · exact hbefore d (hds ▸ hd) rfl rfl

/-! ## With nothing in flight -/

theorem sum_toNat {α : Type} (p : α → Bool) (l : List α) :
    (l.map fun a => (p a).toNat).sum = (l.filter p).length := by
  induction l with
  | nil => rfl
  | cons a l ih => cases h : p a <;> simp [h, ih, Nat.add_comm]

theorem Booked.called_of_landed (hb : s.Booked) (hl : s.landed = true) (h : HandleId) :
    called s.dispatches h = (s.dispatches.filter (·.wanted h)).length := by
  have hcount : s.dispatches.map (·.calls.count h) =
      s.dispatches.map fun d => (d.wanted h).toNat := by
    refine List.map_congr_left ?_
    intro d hd
    exact ((hb.exact d hd).of_landed (hb.all_landed hl hd) h).1
  rw [called, hcount, sum_toNat]

end Traffic

end CandleRelay.Gateway
