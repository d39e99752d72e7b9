import CandleRelay.Proofs.Traffic.Serving

/-!
# What comes of a write, and exact delivery

Two moments decide what comes of a write: when it begins, the pace of the write side says whether it
will end within the timeout, and when it ends, the write side may still refuse it. What happens in
the gateway between the two moves of the delivery has no part in it.

What is proved:
  1. `told_run`: for whatever came of a write there are two such moments in the run, and the write
     sides that its connection had at them decided it.
  2. `delivers_exactly`: this, and all that the books say, for every run from an empty gateway.
-/

namespace CandleRelay.Gateway.Traffic

variable {settings : Settings} {acts : List Act} {a : Act} {i k : Nat} {h : HandleId}
  {s : Traffic} {d : Dispatched} {old : Delivery} {ending : Ending} {r : Except DeliveryError Unit}

/-! ## Two moments of a write -/

/-- The `k`-th delivery of the `i`-th dispatch began its write to the sink of a handle, which was to
end so, and has not moved since. -/
inductive Begun (settings : Settings) (acts : List Act) (i k : Nat) (h : HandleId)
    (ending : Ending) : Prop where
  | intro (before since : List Act) (b : Sink) (hacts : acts = before ++ .move k :: since)
      (hsince : .move k ∉ since) (hbefore : ((start settings).run before).past.length = i)
      (hsink : ((start settings).run before).gateway.sinkOf? h = some b)
      (hending : (b.writing.within settings.timeout).2 = ending)

/-- The `k`-th delivery of the `i`-th dispatch made two moves, one after the other. At the first its
write side was `b`, and at the second it was `e`, and these two say whether the write was taken. -/
inductive Answered (settings : Settings) (acts : List Act) (i k : Nat) (h : HandleId)
    (r : Except DeliveryError Unit) : Prop where
  | intro (before mid after : List Act) (b e : Sink)
      (hacts : acts = before ++ .move k :: mid ++ .move k :: after) (hmid : .move k ∉ mid)
      (hbegins : ((start settings).run before).past.length = i)
      (hends : ((start settings).run (before ++ .move k :: mid)).past.length = i)
      (hfirst : ((start settings).run before).gateway.sinkOf? h = some b)
      (hsecond :
        ((start settings).run (before ++ .move k :: mid)).gateway.sinkOf? h = some e)
      (hr : r = .ok () ↔
        (∃ ms, b.writing = .after ms ∧ ms ≤ settings.timeout) ∧ e.failures.any = false)

theorem Begun.on (hb : Begun settings acts i k h ending) (ha : a ≠ .move k) :
    Begun settings (acts ++ [a]) i k h ending := by
  obtain ⟨before, since, b, rfl, hsince, hbefore, hsink, hending⟩ := hb
  refine .intro before (since ++ [a]) b (by simp) ?_ hbefore hsink hending
  intro hmem
  rcases List.mem_append.1 hmem with hmem | hmem
  · exact hsince hmem
  · exact ha (List.mem_singleton.1 hmem).symm

theorem Answered.on (ha : Answered settings acts i k h r) (a : Act) :
    Answered settings (acts ++ [a]) i k h r := by
  obtain ⟨before, mid, after, b, e, rfl, hmid, hbegins, hends, hfirst, hsecond, hr⟩ := ha
  exact .intro before mid (after ++ [a]) b e (by simp) hmid hbegins hends hfirst hsecond hr

/-- The second move of a delivery learns what its two moments have decided. -/
theorem Begun.answered (hb : Begun settings acts i k h ending)
    (hunder : ((start settings).run acts).past.length = i) {payload : Bytes} {e : Sink}
    (he : ((start settings).run acts).gateway.sinkOf? h = some e) :
    Answered settings (acts ++ [.move k]) i k h (Delivery.writeResult payload ending e).1 := by
  obtain ⟨before, since, b, rfl, hsince, hbefore, hsink, rfl⟩ := hb
  refine .intro before since [] b e rfl hsince hbefore hunder hsink he ?_
  rw [Delivery.writeResult_eq_ok_iff, within_inTime]

/-- Whatever came of a write has its two moments in the run, and a write under way has the first. -/
structure Told (settings : Settings) (acts : List Act) (s : Traffic) : Prop where
  flying : ∀ d, s.current = some d → d.flight.settings = settings
  begun : ∀ d k v due ending, s.current = some d → d.flight.deliveries[k]? = some v →
    v.stage = .writing due ending → Begun settings acts s.past.length k v.handle ending
  answered : ∀ (i : Nat) d h r, s.dispatches[i]? = some d → r ∈ d.answersOf h →
    ∃ k, (d.snapshot.matching d.message.topic)[k]? = some h ∧ Answered settings acts i k h r

theorem getElem?_concat_eq_some {α : Type} {l : List α} {a x : α} {i : Nat} :
    (l ++ [a])[i]? = some x ↔ l[i]? = some x ∨ i = l.length ∧ a = x := by
  rcases Nat.lt_trichotomy i l.length with hlt | rfl | hgt
  · rw [List.getElem?_append_left hlt]
    exact ⟨Or.inl, fun h => h.resolve_right fun h => absurd h.1 (Nat.ne_of_lt hlt)⟩
  · simp
  · have hlength : (l ++ [a]).length ≤ i := List.length_append ▸ hgt
    rw [List.getElem?_eq_none hlength, List.getElem?_eq_none (Nat.le_of_lt hgt)]
    simp [Nat.ne_of_gt hgt]

theorem Told.stays (ht : Told settings acts s) (hpast : (s.step a).past = s.past)
    (hcurrent : (s.step a).current = s.current)
    (hnone : ∀ k d, a = .move k → s.current = some d → d.flight.deliveries[k]? = none) :
    Told settings (acts ++ [a]) (s.step a) := by
  refine ⟨?_, ?_, ?_⟩
  · rw [hcurrent]
    exact ht.flying
  · intro d k v due ending hd hk hstage
    rw [hcurrent] at hd
    rw [hpast]
    refine (ht.begun d k v due ending hd hk hstage).on ?_
    intro ha
    rw [hnone k d ha hd] at hk
    simp at hk
  · intro i d h r hd hr
    rw [dispatches, hpast, hcurrent] at hd
    obtain ⟨k, hk, hanswered⟩ := ht.answered i d h r hd hr
    exact ⟨k, hk, hanswered.on a⟩

theorem Told.takes (ht : Told settings acts s) (hs : s.settings = settings) (m : Message)
    (rest : List Message) : Told settings (acts ++ [.take]) (s.afterTake m rest) := by
  refine ⟨?_, ?_, ?_⟩
  · intro d hd
    obtain rfl := Option.some.inj hd
    exact hs
  · intro d k v due ending hd hk hstage
    obtain rfl := Option.some.inj hd
    rw [Dispatched.stage_of_mem_launch (List.mem_of_getElem? hk)] at hstage
    simp at hstage
  · intro i d h r hd hr
    rcases getElem?_concat_eq_some.1 hd with hd | ⟨-, rfl⟩
    · obtain ⟨k, hk, hanswered⟩ := ht.answered i d h r hd hr
      exact ⟨k, hk, hanswered.on .take⟩
    · -- Nothing has come of a dispatch that begins.
      exact absurd hr List.not_mem_nil

theorem Told.moves (ht : Told settings acts s) (hs : (start settings).run acts = s)
    (hb : s.Booked) (hcurrent : s.current = some d) (hk : d.flight.deliveries[k]? = some old) :
    Told settings (acts ++ [.move k]) (s.afterMove d k old) := by
  have hd := mem_dispatches hcurrent
  have hold := List.mem_of_getElem? hk
  have hsink := (hb.aimed d hd old hold).sinkOf?
  refine ⟨?_, ?_, ?_⟩
  · intro d' hd'
    obtain rfl := Option.some.inj hd'
    exact ht.flying d hcurrent
  · intro d' j v due ending hd' hj hstage
    obtain rfl := Option.some.inj hd'
    have hj : (d.flight.deliveries.set k
        (old.move d.flight.settings d.flight.payload s.gateway).2)[j]? = some v := hj
    by_cases hne : k = j
    · -- The delivery that moved begins its write here.
      subst hne
      rw [List.getElem?_set_self (List.getElem?_eq_some_iff.1 hk).1] at hj
      obtain rfl := Option.some.inj hj
      obtain ⟨b, hb', hending⟩ := Delivery.writing_move hstage
      obtain ⟨st, hmove, -, -⟩ := Delivery.stage_move d.flight.settings d.flight.payload hb'
      rw [hmove]
      rw [ht.flying d hcurrent] at hending
      subst hs
      exact .intro acts [] b rfl List.not_mem_nil rfl (hsink.trans hb') hending
    · rw [List.getElem?_set_ne hne] at hj
      refine (ht.begun d j v due ending hcurrent hj hstage).on ?_
      intro ha
      exact hne (Act.move.inj ha)
  · intro i d' h r hd' hr
    have hd' : (s.past ++ [d.moved s.gateway k old
      (old.move d.flight.settings d.flight.payload s.gateway).2])[i]? = some d' := hd'
    rcases getElem?_concat_eq_some.1 hd' with hd' | ⟨rfl, rfl⟩
    · have hpast : s.dispatches[i]? = some d' :=
        (List.getElem?_append_left (List.getElem?_eq_some_iff.1 hd').1).trans hd'
      obtain ⟨j, hj, hanswered⟩ := ht.answered i d' h r hpast hr
      exact ⟨j, hj, hanswered.on (.move k)⟩
    rw [Dispatched.answersOf_moved] at hr
    rcases List.mem_append.1 hr with hr | hr
    · obtain ⟨j, hj, hanswered⟩ :=
        ht.answered s.past.length d h r (getElem?_dispatches hcurrent) hr
      exact ⟨j, hj, hanswered.on (.move k)⟩
    · -- The delivery that moved learns here what came of its write.
      split at hr
      · next hh =>
        obtain ⟨due, ending, e, hstage, he, rfl⟩ :=
          Delivery.answer?_cases (Option.mem_toList.1 hr)
        have hbegun := ht.begun d k old due ending hcurrent hk hstage
        subst hh hs
        refine ⟨k, ?_, hbegun.answered rfl (hsink.trans he)⟩
        show (d.snapshot.matching d.message.topic)[k]? = some old.handle
        rw [← (hb.exact d hd).handles, List.getElem?_map, hk]
        rfl
      · exact absurd hr List.not_mem_nil

theorem told_run (settings : Settings) (acts : List Act) :
    Told settings acts ((start settings).run acts) := by
  -- The induction is on the acts from the end.
  induction acts using List.reverseRecOn with
  | nil => exact ⟨by simp [start, run], by simp [start, run], by simp [start, run, dispatches]⟩
  | append_singleton acts a ih =>
    rw [run_concat]
    cases flies ((start settings).run acts) a with
    | stays hpast hcurrent hnone => exact ih.stays hpast hcurrent hnone
    | takes m rest ha hlanded hstep =>
      rw [ha] at hstep ⊢
      rw [hstep]
      exact ih.takes (settings_run settings acts) m rest
    | moves d k old ha hcurrent hk hstep =>
      rw [ha] at hstep ⊢
      rw [hstep]
      exact ih.moves rfl (booked_run settings acts) hcurrent hk

/-! ## Exact delivery -/

/-- Every message is for just those who wanted it when it was taken from the bus; they are called
once each; and every write side holds, in the order of the bus, what it took in time. -/
structure DeliveredExactly (settings : Settings) (acts : List Act) (s : Traffic) : Prop where
  /-- The messages are dispatched in the order of the bus, each once, one after the other. -/
  messages : s.dispatches.map (·.message) ++ s.waiting = published acts
  landed : ∀ d ∈ s.past, d.landed = true
  /-- A dispatch goes by the registry as it was when the message was taken. -/
  snapshot : ∀ d ∈ s.dispatches, ∃ before after, acts = before ++ .take :: after ∧
    d.snapshot = ((start settings).run before).gateway.registry ∧
    ((start settings).run before).waiting.head? = some d.message
  /-- A write is begun for nobody twice, and for nobody who did not want the message. -/
  once : ∀ d ∈ s.dispatches, ∀ h, d.calls.count h ≤ (d.wanted h).toNat
  /-- At the end of the dispatch it has been begun, and has come to an end, for all who did. -/
  everybody : ∀ d ∈ s.dispatches, d.landed = true → ∀ h,
    d.calls.count h = (d.wanted h).toNat ∧ (d.answersOf h).length = (d.wanted h).toNat
  /-- The dispatch under way comes to its end, whatever else happens, when each of those it is for
  has had its three moves: the beginning of the write, its end, and that of a close. -/
  ends : ∀ d, s.current = some d → ∀ more : List Act,
    (∀ k < (d.snapshot.matching d.message.topic).length, 3 ≤ more.count (.move k)) →
    ∃ d', (s.run more).dispatches[s.past.length]? = some d' ∧ d'.message = d.message ∧
      d'.snapshot = d.snapshot ∧ d'.landed = true ∧ ∀ h,
        d'.calls.count h = (d.wanted h).toNat ∧ (d'.answersOf h).length = (d.wanted h).toNat
  /-- After it the listener takes the next message, for those who want that one now. -/
  next : ∀ m rest, s.landed = true → s.waiting = m :: rest →
    ∃ d, (s.step .take).dispatches = s.dispatches ++ [d] ∧ (s.step .take).current = some d ∧
      (s.step .take).waiting = rest ∧ d.message = m ∧ d.snapshot = s.gateway.registry
  /-- Each connection has a write side of its own, which was written to as the dispatches say. -/
  sinks : ∀ (h : HandleId) (x : Handle), s.gateway.registry.handles[h]? = some x →
    ∃ k : Sink, s.gateway.sinks[x.sink]? = some k ∧
      k.received = (s.dispatches.filter fun d => d.wanted h && d.tookBy h).map (·.message.payload) ∧
      k.attempts = (s.dispatches.map (·.calls.count h)).sum ∧
      (s.landed = true → k.attempts = (s.dispatches.filter (·.wanted h)).length)
  /-- What came of a write was decided by the write side that the connection had when the write
  began, and by the one that it had when the write came to its end. -/
  answers : ∀ (i : Nat) d h r, s.dispatches[i]? = some d → r ∈ d.answersOf h →
    ∃ k, (d.snapshot.matching d.message.topic)[k]? = some h ∧ Answered settings acts i k h r
  unshared : s.gateway.registry.Unshared
  /-- The others have never been written to. -/
  unheld : ∀ (i : SinkId) (k : Sink), s.gateway.sinks[i]? = some k →
    (∀ (h : HandleId) (x : Handle), s.gateway.registry.handles[h]? = some x → x.sink ≠ i) →
    k.received = [] ∧ k.attempts = 0

/-- Delivery is exact, ordered, once only and verbatim, for every run from an empty gateway. -/
theorem delivers_exactly (settings : Settings) (acts : List Act) :
    DeliveredExactly settings acts ((start settings).run acts) := by
  have hb := booked_run settings acts
  refine ⟨messages_run settings acts, hb.landed, fun d hd => snapshot_run settings acts hd,
    fun d hd => (hb.exact d hd).count_le, fun d hd hl => (hb.exact d hd).of_landed hl,
    fun d hcurrent more hmoves => hb.ends hcurrent hmoves, ?_, ?_,
    (told_run settings acts).answered, hb.unshared, ?_⟩
  · intro m rest hl hw
    have htake : ((start settings).run acts).step .take =
        ((start settings).run acts).afterTake m rest := takeNext_of_landed hl hw
    rw [htake]
    exact ⟨_, rfl, rfl, rfl, rfl, rfl⟩
  · intro h x hx
    obtain ⟨l, hl, hreceived, hattempts⟩ := hb.log h x hx
    obtain ⟨k, hk, rfl⟩ := Option.map_eq_some_iff.1 hl
    refine ⟨k, hk, ?_, hattempts, ?_⟩
    · have hfilter : ((start settings).run acts).dispatches.filter (fun d => d.tookBy h) =
          ((start settings).run acts).dispatches.filter fun d => d.wanted h && d.tookBy h := by
        refine List.filter_congr ?_
        intro d hd
        cases ht : d.tookBy h with
        | true => rw [(hb.exact d hd).wanted_of_tookBy ht, Bool.and_self]
        | false => rw [Bool.and_false]
      rw [← hfilter]
      exact hreceived
    · intro hl
      exact hattempts.trans (hb.called_of_landed hl h)
  · intro i k hk
    exact hb.unheld i k.log (by rw [log?, hk]; rfl)

/-- Three clients want the first of two messages. Before it reaches them, one wants no more, the
session of one is closed in the middle of its write, one never takes anything and is evicted, and a
fourth comes. The three are written to once each, and the second message is for the fourth alone. -/
theorem delivers_exactly_amid_sessions :
    let btc := Topic.ofString "BTCUSDT"
    let first : Message := ⟨btc, [1]⟩
    let second : Message := ⟨btc, [2]⟩
    let acts : List Act := [.reserve, .enroll 1 {}, .reserve, .enroll 2 {}, .reserve,
      .enroll 3 { writing := .never }, .subscribe 1 [btc], .subscribe 2 [btc], .subscribe 3 [btc],
      .publish first, .publish second, .take]
    let more : List Act := [.unsubscribe 1 [btc], .move 2, .move 1, .close 1, .take, .move 0,
      .move 1, .move 2, .reserve, .enroll 4 {}, .subscribe 4 [btc], .move 0, .move 1, .move 2,
      .move 0]
    let s := (start {}).run acts
    let s' := (start {}).run (acts ++ more)
    DeliveredExactly {} acts s ∧ DeliveredExactly {} (acts ++ more) s' ∧
      (∃ d, s.current = some d ∧ d.snapshot.matching d.message.topic = [0, 1, 2]) ∧
      (∃ d, s'.dispatches[0]? = some d ∧ d.message = first ∧ d.landed = true ∧
        ∀ h < 3, d.calls.count h = 1 ∧ (d.answersOf h).length = 1) ∧
      s'.gateway.sinks.map (·.received) = [[[1]], [[1]], [], []] ∧
      s'.gateway.sinks.map (·.attempts) = [1, 1, 1, 0] ∧
      ∃ d, (s'.step .take).current = some d ∧ d.message = second ∧
        d.snapshot.matching d.message.topic = [3] := by
  intro btc first second acts more s s'
  have hexactly : DeliveredExactly {} acts s := delivers_exactly {} acts
  have hexactly' : DeliveredExactly {} (acts ++ more) s' := delivers_exactly {} (acts ++ more)
  have hbegun : s.current.map (fun d => (d.message, d.snapshot.matching d.message.topic)) =
      some (first, [0, 1, 2]) := by decide +kernel
  obtain ⟨d, hcurrent, hd⟩ := Option.map_eq_some_iff.1 hbegun
  obtain ⟨hfirst, hmatching⟩ := Prod.mk.inj hd
  have hmoves : ∀ k < (d.snapshot.matching d.message.topic).length, 3 ≤ more.count (.move k) := by
    rw [hmatching]
    decide
  obtain ⟨d', hget, hmessage, hsnapshot, hlanded, hcalls⟩ := hexactly.ends d hcurrent more hmoves
  have hrun : s.run more = s' := (run_append _ _ _).symm
  have hpast : s.past.length = 0 := by decide +kernel
  rw [hrun, hpast] at hget
  -- Those who wanted the message are the handles that its topic matched.
  have hwanted : ∀ h < 3, d.wanted h = true := by
    intro h hh
    have hmem : h ∈ d.snapshot.matching d.message.topic := by
      rw [hmatching]
      revert h
      decide
    have hsound := ((booked_run {} acts).exact d (mem_dispatches hcurrent)).snapshot
    exact hsound.mem_matching_iff.1 hmem
  have hcalls : ∀ h < 3, d'.calls.count h = 1 ∧ (d'.answersOf h).length = 1 := by
    intro h hh
    rw [(hcalls h).1, (hcalls h).2, hwanted h hh]
    exact ⟨rfl, rfl⟩
  have hlanded' : s'.landed = true := by decide +kernel
  have hwaiting : s'.waiting = [second] := by decide +kernel
  obtain ⟨e, -, hcurrent', -, hsecond, hregistry⟩ := hexactly'.next second [] hlanded' hwaiting
  have hfourth : s'.gateway.registry.matching btc = [3] := by decide +kernel
  refine ⟨hexactly, hexactly', ⟨d, hcurrent, hmatching⟩,
    ⟨d', hget, hmessage.trans hfirst, hlanded, hcalls⟩, by decide +kernel, by decide +kernel,
    e, hcurrent', hsecond, ?_⟩
  rw [hsecond, hregistry]
  exact hfourth

end CandleRelay.Gateway.Traffic
