import CandleRelay.Proofs.Traffic.Delivery

/-!
# Steady clients

A client that stays registered, wants the same topics all the time, and has a write side that takes
every write in time and without failing (`Steady`), is given every message on one of its topics and
no other. `Served` is the invariant, one dispatch at a time; an act from a steady state keeps it
(`Served.step`), and with nothing in flight it leaves no choice about what the client holds
(`Served.received`).
-/

namespace CandleRelay.Gateway.Traffic

variable {s : Traffic} {h : HandleId} {topics : List Topic} {d : Dispatched}

theorem within_inTime {pace : Pace} {timeout : Nat} :
    (pace.within timeout).2 = .inTime ↔ ∃ ms, pace = .after ms ∧ ms ≤ timeout := by
  cases pace with
  | after ms => by_cases hle : ms ≤ timeout <;> simp [Pace.within, hle]
  | breaks ms => by_cases hle : ms ≤ timeout <;> simp [Pace.within, hle]
  | never => simp [Pace.within]

/-- A write side that takes whatever is written to it, in time. -/
structure Prompt (settings : Settings) (k : Sink) : Prop where
  inTime : ∃ ms, k.writing = .after ms ∧ ms ≤ settings.timeout
  accepts : k.failures.any = false

/-- The connection behind a handle is registered with that handle and just these topics, and its
write side takes everything in time. -/
def Steady (s : Traffic) (h : HandleId) (topics : List Topic) : Prop :=
  ∃ x e k, s.gateway.registry.handles[h]? = some x ∧
    s.gateway.registry.find? x.id = some e ∧ e.handle = h ∧ (∀ t, t ∈ e.topics ↔ t ∈ topics) ∧
    s.gateway.sinks[x.sink]? = some k ∧ Prompt s.settings k

instance (settings : Settings) (k : Sink) : Decidable (Prompt settings k) :=
  decidable_of_iff ((k.writing.within settings.timeout).2 = .inTime ∧ k.failures.any = false)
    ⟨fun hk => ⟨within_inTime.1 hk.1, hk.2⟩, fun hk => ⟨within_inTime.2 hk.inTime, hk.accepts⟩⟩

instance (s : Traffic) (h : HandleId) (topics : List Topic) : Decidable (s.Steady h topics) :=
  decidable_of_iff
    (((s.gateway.registry.handles[h]?).any fun x =>
      (s.gateway.registry.find? x.id).any fun e =>
        (s.gateway.sinks[x.sink]?).any fun k =>
          decide (e.handle = h ∧ (e.topics ⊆ topics ∧ topics ⊆ e.topics) ∧
            Prompt s.settings k)) = true) <| by
    simp only [Option.any_eq_true, decide_eq_true_eq]
    constructor
    · rintro ⟨x, hx, e, he, k, hk, hh, ⟨hsub, hsup⟩, hprompt⟩
      exact ⟨x, e, k, hx, he, hh, fun t => ⟨fun ht => hsub ht, fun ht => hsup ht⟩, hk, hprompt⟩
    · rintro ⟨x, e, k, hx, he, hh, htopics, hk, hprompt⟩
      exact ⟨x, hx, e, he, k, hk, hh,
        ⟨fun t ht => (htopics t).1 ht, fun t ht => (htopics t).2 ht⟩, hprompt⟩

/-- One dispatch has served the connection well so far: it goes there if it is on one of the topics,
and no write has failed or is going to. -/
structure Serves (h : HandleId) (topics : List Topic) (settings : Settings) (d : Dispatched) :
    Prop where
  settings : d.flight.settings = settings
  wanted : d.wanted h = topics.contains d.message.topic
  answers : ∀ a ∈ d.answersOf h, a = .ok ()
  inTime : ∀ v ∈ d.flight.deliveries, v.handle = h → ∀ due ending,
    v.stage = .writing due ending → ending = .inTime

/-- All dispatches have. -/
def Served (s : Traffic) (h : HandleId) (topics : List Topic) : Prop :=
  ∀ d ∈ s.dispatches, Serves h topics s.settings d

theorem settings_step (s : Traffic) (a : Act) : (s.step a).settings = s.settings := by
  cases a with
  | take =>
    show s.takeNext.settings = s.settings
    rcases takeNext_cases s with hsame | ⟨m, rest, -, -, htake⟩
    · rw [hsame]
    · rw [htake]
      rfl
  | move k =>
    show (s.moveDelivery k).settings = s.settings
    rcases moveDelivery_cases s k with hsame | ⟨d, old, -, -, hmove⟩
    · rw [hsame]
    · rw [hmove]
      rfl
  | enroll id manner =>
    simp only [Traffic.step]
    split <;> rfl
  | _ => rfl

theorem settings_run (settings : Settings) (acts : List Act) :
    ((start settings).run acts).settings = settings := by
  induction acts using List.reverseRecOn with
  | nil => rfl
  | append_singleton acts a ih => rw [run_concat, settings_step, ih]

theorem Steady.wants (hst : s.Steady h topics) (t : Topic) :
    s.gateway.registry.wants h t = topics.contains t := by
  obtain ⟨x, e, k, hx, he, hh, htopics, -, -⟩ := hst
  rw [Bool.eq_iff_iff]
  simp [Registry.wants, hx, he, hh, htopics]

theorem Steady.serves_launch (hst : s.Steady h topics) (m : Message) :
    Serves h topics s.settings
      (Dispatched.launch s.settings (s.gateway.count .busMessages) m) := by
  refine ⟨rfl, hst.wants m.topic, fun a ha => absurd ha List.not_mem_nil, ?_⟩
  intro v hv _ due ending hstage
  rw [Dispatched.stage_of_mem_launch hv] at hstage
  simp at hstage

/-- A move serves the connection well, whosever delivery it is. -/
theorem Serves.moved (hs : Serves h topics s.settings d) (hst : s.Steady h topics)
    (hb : s.Booked) (hd : d ∈ s.dispatches) {k : Nat} {old : Delivery}
    (hk : d.flight.deliveries[k]? = some old) :
    Serves h topics s.settings (d.moved s.gateway k old
      (old.move d.flight.settings d.flight.payload s.gateway).2) := by
  obtain ⟨x, e, y, hx, -, -, -, hy, hprompt⟩ := hst
  have hold : old ∈ d.flight.deliveries := List.mem_of_getElem? hk
  -- If the delivery is the connection's, its sink is.
  have hsink : old.handle = h → s.gateway.sinks[old.sink]? = some y := by
    intro hh
    obtain ⟨z, hz, hzsink, -⟩ := hb.aimed d hd old hold
    rw [hh, hx] at hz
    rw [← hzsink, ← Option.some.inj hz, hy]
  refine ⟨hs.settings, hs.wanted, ?_, ?_⟩
  · intro a hmem
    rw [Dispatched.answersOf_moved] at hmem
    rcases List.mem_append.1 hmem with hmem | hmem
    · exact hs.answers a hmem
    · split at hmem
      · next hh =>
        obtain ⟨due, ending, z, hstage, hz, rfl⟩ :=
          Delivery.answer?_cases (Option.mem_toList.1 hmem)
        obtain rfl : z = y := Option.some.inj (hz.symm.trans (hsink hh.symm))
        have hinTime := hs.inTime old hold hh.symm due ending hstage
        exact Delivery.writeResult_eq_ok_iff.2 ⟨hinTime, hprompt.accepts⟩
      · exact absurd hmem List.not_mem_nil
  · intro v hv hh due ending hstage
    rcases List.mem_or_eq_of_mem_set hv with hv | rfl
    · exact hs.inTime v hv hh due ending hstage
    · obtain ⟨z, hz, hending⟩ := Delivery.writing_move hstage
      obtain ⟨st, hmove, -, -⟩ := Delivery.stage_move d.flight.settings d.flight.payload hz
      rw [hmove] at hh
      obtain rfl : z = y := Option.some.inj (hz.symm.trans (hsink hh))
      rw [hs.settings, within_inTime.2 hprompt.inTime] at hending
      exact hending.symm

theorem Served.step (hs : s.Served h topics) (hst : s.Steady h topics) (hb : s.Booked) (a : Act) :
    (s.step a).Served h topics := by
  intro d hd
  rw [settings_step]
  rcases dispatches_step s a with rfl | ⟨k, rfl⟩ | ⟨hds, -⟩
  · have hd : d ∈ s.takeNext.dispatches := hd
    rcases takeNext_cases s with hsame | ⟨m, rest, -, -, htake⟩
    · exact hs d (hsame ▸ hd)
    · rw [htake] at hd
      rcases List.mem_append.1 hd with hd | hd
      · exact hs d hd
      · obtain rfl := List.mem_singleton.1 hd
        exact hst.serves_launch m
  · have hd : d ∈ (s.moveDelivery k).dispatches := hd
    rcases moveDelivery_cases s k with hsame | ⟨d', old, hcurrent, hk, hmove⟩
    · exact hs d (hsame ▸ hd)
    · rw [hmove] at hd
      rcases List.mem_append.1 hd with hd | hd
      · exact hs d (List.mem_append_left _ hd)
      · obtain rfl := List.mem_singleton.1 hd
        have hmem : d' ∈ s.dispatches := mem_dispatches hcurrent
        exact (hs d' hmem).moved hst hb hmem hk
  · exact hs d (hds ▸ hd)

/-- A client that was served holds the payloads of the messages on its topics, in their order. -/
theorem Served.received (hs : s.Served h topics) (hb : s.Booked) (hl : s.landed = true)
    {x : Handle} (hx : s.gateway.registry.handles[h]? = some x) :
    ∃ k, s.gateway.sinks[x.sink]? = some k ∧
      k.received = ((s.dispatches.map (·.message)).filter fun m =>
        topics.contains m.topic).map (·.payload) := by
  obtain ⟨l, hlog, hreceived, -⟩ := hb.log h x hx
  obtain ⟨k, hk, rfl⟩ := Option.map_eq_some_iff.1 hlog
  have htook : ∀ d ∈ s.dispatches, d.tookBy h = topics.contains d.message.topic := by
    intro d hd
    have hlength := ((hb.exact d hd).of_landed (hb.all_landed hl hd) h).2
    rw [← (hs d hd).wanted]
    cases hw : d.wanted h with
    | false =>
      rw [hw] at hlength
      rw [Dispatched.tookBy, List.length_eq_zero_iff.1 hlength]
      rfl
    | true =>
      rw [hw] at hlength
      obtain ⟨a, ha⟩ := List.length_eq_one_iff.1 hlength
      have hok := (hs d hd).answers a (by rw [ha]; exact List.mem_singleton.2 rfl)
      rw [Dispatched.tookBy, ha, hok]
      rfl
  refine ⟨k, hk, ?_⟩
  have hreceived : k.received = taken s.dispatches h := hreceived
  rw [hreceived, taken, List.filter_congr htook, List.filter_map, List.map_map]
  rfl

end CandleRelay.Gateway.Traffic
