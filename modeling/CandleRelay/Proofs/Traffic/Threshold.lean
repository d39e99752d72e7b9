import CandleRelay.Proofs.Traffic.Lifecycle
import CandleRelay.Proofs.Traffic.Serving

/-!
# Failures in a row

A delivery that fails lengthens the streak of its handle, one that succeeds ends it, and at the
limit the connection is evicted. The streak lives in the handle, so that it goes on from message to
message and from topic to topic, whatever else happens to the connection meanwhile.

What is proved:
  1. `streak?_move`: the streak of a handle counts the failures since the last success, over all
     that came of the writes to its sink. No other act touches it.
  2. `Reckoned`: who is registered, or has an attempt under way, is below the limit; and a handle
     that is no longer registered has been evicted at the limit, unless others ended its
     registration. A move keeps this (`Reckoned.idle`, `Reckoned.answered`), and so does every act
     (`Limited.step`).
  3. `evicts_at_limit`: what follows for every run. A limit of no failures is one of one failure.
-/

namespace CandleRelay.Gateway

/-! ## Streaks -/

/-- How many failures there have been since the last success. -/
def failuresInARow (l : List (Except DeliveryError Unit)) : Nat :=
  (l.reverse.takeWhile fun
    | .ok _ => false
    | .error _ => true).length

/-- The streak after another attempt. -/
def streakAfter (n : Nat) : Except DeliveryError Unit → Nat
  | .ok _ => 0
  | .error _ => n + 1

theorem failuresInARow_concat (l : List (Except DeliveryError Unit))
    (a : Except DeliveryError Unit) :
    failuresInARow (l ++ [a]) = streakAfter (failuresInARow l) a := by
  cases a <;> simp [failuresInARow, streakAfter]

namespace Registry

variable {r : Registry} {id : ConnectionId} {h h' : HandleId} {x : Handle}

/-- The streak of a handle. -/
def streak? (r : Registry) (h : HandleId) : Option Nat := (r.handles[h]?).map (·.streak)

theorem streak?_modify (f : Handle → Handle) (es : List Registration) :
    ({ r with handles := r.handles.modify h' f, entries := es } : Registry).streak? h =
      if h = h' then (r.handles[h]?).map fun x => (f x).streak else r.streak? h := by
  simp only [streak?, List.getElem?_modify]
  by_cases hh : h = h'
  · subst hh
    cases r.handles[h]? <;> simp
  · simp [hh, Ne.symm hh]

theorem streak?_unregister : (r.unregister id).2.streak? h = r.streak? h := by
  cases he : r.find? id with
  | none => rw [unregister_of_none he]
  | some e =>
    rw [unregister_of_some he]
    refine (streak?_modify _ _).trans ?_
    split <;> rfl

theorem streak?_recordFailure : (r.recordFailure h').2.streak? h =
    if h = h' then (r.streak? h).map (· + 1) else r.streak? h := by
  refine (streak?_modify _ r.entries).trans ?_
  rw [streak?, Option.map_map]
  rfl

theorem streak?_recordSuccess : (r.recordSuccess h').streak? h =
    if h = h' then (r.streak? h).map (fun _ => 0) else r.streak? h := by
  refine (streak?_modify _ r.entries).trans ?_
  rw [streak?, Option.map_map]
  rfl

theorem fst_recordFailure (hx : r.handles[h]? = some x) :
    (r.recordFailure h).1 = x.streak + 1 := by
  simp [recordFailure, hx]

theorem handle?_register_iff {c : ConnectionId} {k : SinkId} (hlt : h < r.handles.length) :
    (r.register id k).2.handle? c = some h ↔ r.handle? c = some h := by
  rw [handle?, handle?, find?_register]
  by_cases hc : c = id
  · subst hc
    cases r.find? c with
    | some e => simp
    | none => simp [(Nat.ne_of_lt hlt).symm]
  · rw [if_neg hc]

end Registry

namespace Delivery

variable {g : Gateway} {d : Delivery} {settings : Settings} {payload : Bytes} {h : HandleId}

theorem streak?_fail (now : Nat) (pace : Pace) :
    (d.fail settings now pace g).1.registry.streak? h =
      if h = d.handle then (g.registry.streak? h).map (· + 1) else g.registry.streak? h := by
  obtain ⟨streak, r, hf⟩ : ∃ streak r, g.registry.recordFailure d.handle = (streak, r) :=
    ⟨_, _, rfl⟩
  have hr : r.streak? h =
      if h = d.handle then (g.registry.streak? h).map (· + 1) else g.registry.streak? h := by
    rw [← Registry.streak?_recordFailure, hf]
  rcases fail_cases settings hf now pace with ⟨-, heq⟩ | ⟨-, _, -, heq⟩
  · rw [heq]
    exact hr
  · rw [heq]
    exact Registry.streak?_unregister.trans hr

/-- A move changes the streak of its own handle only, by what it learns of the write. -/
theorem streak?_move : (d.move settings payload g).1.registry.streak? h =
    match d.answer? payload g with
    | none => g.registry.streak? h
    | some a =>
      if h = d.handle then (g.registry.streak? h).map (streakAfter · a)
      else g.registry.streak? h := by
  cases hstage : d.stage with
  | waiting =>
    simp only [move, answer?, hstage, start]
    cases hs : g.sinks[d.sink]? with
    | none => rfl
    | some s =>
      cases hl : s.leaves
      · simp [hl]
      · simp [hl, Registry.streak?_unregister]
  | writing due ending =>
    simp only [move, answer?, hstage, settle]
    cases hs : g.sinks[d.sink]? with
    | none => rfl
    | some s =>
      obtain ⟨result, s', hw⟩ : ∃ result s', writeResult payload ending s = (result, s') :=
        ⟨_, _, rfl⟩
      simp only [hw]
      cases result with
      | ok u => exact Registry.streak?_recordSuccess
      | error e => exact streak?_fail due s'.closing
  | closing due ending => cases ending <;> simp [move, answer?, hstage, finishClose, count]
  | ended time o => simp [move, answer?, hstage]

theorem removal?_of_ok {u : Unit} (ha : d.answer? payload g = some (.ok u)) :
    d.removal? settings payload g = none := by
  unfold answer? at ha
  split at ha
  · next hstage hs =>
    have ha := Option.some.inj ha
    simp [removal?, hstage, hs, ha]
  · simp at ha

theorem removal?_of_error {e : DeliveryError} {x : Handle}
    (ha : d.answer? payload g = some (.error e)) (hx : g.registry.handles[d.handle]? = some x) :
    d.removal? settings payload g =
      if x.streak + 1 < settings.maxFailures then none
      else some ⟨.eviction d.handle, d.id, g.registry.handle? d.id⟩ := by
  have hgot : ((g.registry.recordFailure d.handle).2.unregister d.id).1 =
      g.registry.handle? d.id := Registry.fst_unregister
  unfold answer? at ha
  split at ha
  · next hstage hs =>
    have ha := Option.some.inj ha
    simp [removal?, hstage, hs, ha, Registry.fst_recordFailure hx, hgot]
  · simp at ha

end Delivery

namespace Traffic

variable {s s' : Traffic} {h : HandleId} {x x' : Handle} {c : ConnectionId} {m : Option Removal}
  {d : Dispatched} {old : Delivery} {k : Nat}

/-! ## Attempts -/

/-- What came of the writes to the sink of a handle, over all messages. -/
def outcomes (s : Traffic) (h : HandleId) : List (Except DeliveryError Unit) :=
  s.dispatches.flatMap (·.answersOf h)

/-- With how many failures in a row a connection is evicted. -/
def limit (s : Traffic) : Nat := max 1 s.settings.maxFailures

/-- Whether it is still open what comes of a write to the sink of a handle. -/
def Trying (s : Traffic) (h : HandleId) : Prop :=
  ∃ d, s.current = some d ∧ ∃ v ∈ d.flight.deliveries, v.handle = h ∧ v.stage.answered = false

/-- Nobody has ended a registration of the connection but deliveries that evicted it. -/
def Undisturbed (s : Traffic) (c : ConnectionId) : Prop :=
  ∀ q ∈ s.removals, q.id = c → q.got.isSome → q.who.evicts = true

theorem Undisturbed.before (hremovals : s'.removals = s.removals ++ m.toList)
    (hu : s'.Undisturbed c) : s.Undisturbed c ∧
      ∀ q, m = some q → q.id = c → q.got.isSome → q.who.evicts = true := by
  refine ⟨fun q hq => hu q ?_, fun q hq => hu q ?_⟩
  · rw [hremovals]
    exact List.mem_append_left _ hq
  · rw [hremovals, hq]
    exact List.mem_append_right _ (List.mem_singleton.2 rfl)

/-- The reckoning of one handle. -/
structure Reckoned (s : Traffic) (h : HandleId) (x : Handle) : Prop where
  streak : x.streak = failuresInARow (s.outcomes h)
  /-- Whatever attempts there were came below the limit. -/
  below : ∀ l a l', s.outcomes h = l ++ a :: l' → failuresInARow l < s.limit
  held : s.gateway.registry.handle? x.id = some h → x.streak < s.limit
  trying : s.Trying h → x.streak < s.limit
  /-- Left to the deliveries, the connection is registered or has been evicted at the limit. -/
  fate : s.Undisturbed x.id → s.gateway.registry.handle? x.id = some h ∨
    x.streak = s.limit ∧ ⟨.eviction h, x.id, some h⟩ ∈ s.removals

/-- A step in which nothing comes of a write to the sink of the handle. An attempt may begin if the
connection is registered, and a registration may end, but not by the eviction of a connection that
is registered with this handle. -/
theorem Reckoned.idle (hr : s.Reckoned h x) (hsettings : s'.settings = s.settings)
    (hid : x'.id = x.id) (hstreak : x'.streak = x.streak)
    (houtcomes : s'.outcomes h = s.outcomes h)
    (htrying : s'.Trying h → s.Trying h ∨ s.gateway.registry.handle? x.id = some h)
    (hends : s.gateway.registry.Ends m s'.gateway.registry)
    (hremovals : s'.removals = s.removals ++ m.toList)
    (hm : s.Undisturbed x.id → s.gateway.registry.handle? x.id = some h →
      ∀ q, m = some q → q.id = x.id → q.who.evicts = false) : s'.Reckoned h x' := by
  have hlimit : s'.limit = s.limit := by rw [limit, limit, hsettings]
  refine ⟨by rw [hstreak, houtcomes, hr.streak], ?_, ?_, ?_, ?_⟩
  · rw [houtcomes, hlimit]
    exact hr.below
  · intro hheld
    rw [hid] at hheld
    rw [hstreak, hlimit]
    exact hr.held (hends.held hheld)
  · intro ht
    rw [hstreak, hlimit]
    exact (htrying ht).elim hr.trying hr.held
  · intro hu
    rw [hid] at hu ⊢
    obtain ⟨hbefore, hlast⟩ := hu.before hremovals
    rw [hstreak, hlimit, hremovals]
    rcases hr.fate hbefore with hheld | ⟨hfull, hmem⟩
    · -- The registration goes on: a request that ended it would have been an eviction.
      refine Or.inl ?_
      rw [hends.holds, if_neg]
      · exact hheld
      · intro hany
        obtain ⟨q, hq, hqid⟩ := (Option.any_eq_true ..).1 hany
        have hqid : q.id = x.id := by simpa using hqid
        have hgot : q.got.isSome := by rw [hends.got q hq, hqid, hheld]; rfl
        have hevicts := hlast q hq hqid hgot
        rw [hm hbefore hheld q hq hqid] at hevicts
        simp at hevicts
    · exact Or.inr ⟨hfull, List.mem_append_left _ hmem⟩

theorem Reckoned.counted (hr : s.Reckoned h x) {a : Except DeliveryError Unit}
    (hstreak : x'.streak = streakAfter x.streak a)
    (houtcomes : s'.outcomes h = s.outcomes h ++ [a]) (htrying : s.Trying h) :
    x'.streak = failuresInARow (s'.outcomes h) ∧
      ∀ l b l', s'.outcomes h = l ++ b :: l' → failuresInARow l < s.limit := by
  refine ⟨by rw [hstreak, houtcomes, failuresInARow_concat, hr.streak], ?_⟩
  intro l b l' heq
  rw [houtcomes] at heq
  rcases List.eq_nil_or_concat l' with rfl | ⟨l', b', rfl⟩
  · obtain ⟨rfl, -⟩ := List.append_inj' heq rfl
    rw [← hr.streak]
    exact hr.trying htrying
  · rw [List.concat_eq_append, ← List.cons_append, ← List.append_assoc] at heq
    exact hr.below l b l' (List.append_inj' heq rfl).1

/-- Who has an attempt under way and is left to the deliveries is registered. -/
theorem Reckoned.held_of_trying (hr : s.Reckoned h x) (htrying : s.Trying h)
    (hu : s.Undisturbed x.id) : s.gateway.registry.handle? x.id = some h :=
  (hr.fate hu).resolve_right fun hfull => Nat.ne_of_lt (hr.trying htrying) hfull.1

theorem Reckoned.goes_on (hr : s.Reckoned h x) (hsettings : s'.settings = s.settings)
    {a : Except DeliveryError Unit} (hid : x'.id = x.id)
    (hstreak : x'.streak = streakAfter x.streak a)
    (houtcomes : s'.outcomes h = s.outcomes h ++ [a]) (htrying : s.Trying h)
    (hnot : ¬ s'.Trying h) (hends : s.gateway.registry.Ends none s'.gateway.registry)
    (hremovals : s'.removals = s.removals ++ Option.toList none)
    (hnext : x'.streak < s.limit) : s'.Reckoned h x' := by
  have hlimit : s'.limit = s.limit := by rw [limit, limit, hsettings]
  obtain ⟨hcount, hbelow⟩ := hr.counted hstreak houtcomes htrying
  refine ⟨hcount, hlimit ▸ hbelow, fun _ => hlimit ▸ hnext, fun ht => absurd ht hnot, ?_⟩
  intro hu
  rw [hid] at hu ⊢
  have hheld := hr.held_of_trying htrying (hu.before hremovals).1
  exact Or.inl (by rw [hends.holds]; exact hheld)

theorem Reckoned.evicts (hr : s.Reckoned h x) (hsettings : s'.settings = s.settings)
    {a : Except DeliveryError Unit} (hid : x'.id = x.id)
    (hstreak : x'.streak = streakAfter x.streak a)
    (houtcomes : s'.outcomes h = s.outcomes h ++ [a]) (htrying : s.Trying h)
    (hnot : ¬ s'.Trying h)
    (hm : m = some ⟨.eviction h, x.id, s.gateway.registry.handle? x.id⟩)
    (hends : s.gateway.registry.Ends m s'.gateway.registry)
    (hremovals : s'.removals = s.removals ++ m.toList)
    (hfull : x'.streak = s.limit) : s'.Reckoned h x' := by
  have hlimit : s'.limit = s.limit := by rw [limit, limit, hsettings]
  obtain ⟨hcount, hbelow⟩ := hr.counted hstreak houtcomes htrying
  have hgone : s'.gateway.registry.handle? x'.id = none := by
    rw [hid, hends.holds, hm]
    simp
  refine ⟨hcount, hlimit ▸ hbelow, ?_, fun ht => absurd ht hnot, ?_⟩
  · intro hheld
    rw [hgone] at hheld
    simp at hheld
  · intro hu
    rw [hid] at hu ⊢
    have hheld := hr.held_of_trying htrying (hu.before hremovals).1
    rw [hlimit, hremovals, hm, hheld]
    exact Or.inr ⟨hfull, List.mem_append_right _ (List.mem_singleton.2 rfl)⟩

/-- A step in which something comes of a write to the sink of the handle: at the limit, and only
there, it evicts. -/
theorem Reckoned.answered (hr : s.Reckoned h x) (hsettings : s'.settings = s.settings)
    {a : Except DeliveryError Unit} (hid : x'.id = x.id)
    (hstreak : x'.streak = streakAfter x.streak a)
    (houtcomes : s'.outcomes h = s.outcomes h ++ [a]) (htrying : s.Trying h)
    (hnot : ¬ s'.Trying h)
    (hends : s.gateway.registry.Ends m s'.gateway.registry)
    (hremovals : s'.removals = s.removals ++ m.toList)
    (hok : ∀ u, a = .ok u → m = none)
    (herror : ∀ e, a = .error e → m = if x.streak + 1 < s.settings.maxFailures then none
      else some ⟨.eviction h, x.id, s.gateway.registry.handle? x.id⟩) : s'.Reckoned h x' := by
  cases a with
  | ok u =>
    obtain rfl := hok u rfl
    refine hr.goes_on hsettings hid hstreak houtcomes htrying hnot hends hremovals ?_
    rw [hstreak, limit]
    exact Nat.lt_of_lt_of_le Nat.zero_lt_one (Nat.le_max_left ..)
  | error e =>
    have hm := herror e rfl
    split at hm
    · next hbelow =>
      subst hm
      exact hr.goes_on hsettings hid hstreak houtcomes htrying hnot hends hremovals
        (hstreak ▸ Nat.lt_of_lt_of_le hbelow (Nat.le_max_right ..))
    · next hreached =>
      refine hr.evicts hsettings hid hstreak houtcomes htrying hnot hm hends hremovals ?_
      have hlt := hr.trying htrying
      rw [limit] at hlt
      rw [hstreak, limit, streakAfter]
      omega

/-! ## The whole gateway -/

/-- Every handle is reckoned with, and all dispatches go by one limit. -/
structure Limited (s : Traffic) : Prop where
  booked : s.Booked
  settings : ∀ d ∈ s.dispatches, d.flight.settings = s.settings
  reckoned : ∀ (h : HandleId) (x : Handle), s.gateway.registry.handles[h]? = some x →
    s.Reckoned h x

theorem limited_start (settings : Settings) : (start settings).Limited := by
  refine ⟨booked_start settings, fun d hd => absurd hd List.not_mem_nil, ?_⟩
  intro h x hx
  have hx : (none : Option Handle) = some x := hx
  simp at hx

theorem Booked.outcomes_of_unknown (hb : s.Booked)
    (hnone : s.gateway.registry.handles[h]? = none) : s.outcomes h = [] ∧ ¬ s.Trying h := by
  constructor
  · rw [outcomes, List.flatMap_eq_nil_iff]
    exact fun d hd => ((hb.exact d hd).others h (hb.unwanted_of_unknown hnone hd)).2
  · rintro ⟨d, hcurrent, v, hv, hh, -⟩
    have hd : d ∈ s.dispatches := mem_dispatches hcurrent
    have hwanted := (hb.exact d hd).wanted_iff.2 ⟨v, hv, hh⟩
    rw [hb.unwanted_of_unknown hnone hd] at hwanted
    simp at hwanted

/-- The dispatches, those that are over and the one under way. -/
def queue (s : Traffic) : List Dispatched × Option Dispatched := (s.past, s.current)

theorem dispatches_of_queue (h : s'.queue = s.queue) : s'.dispatches = s.dispatches := by
  rw [dispatches, dispatches, show s'.past = s.past from congrArg Prod.fst h,
    show s'.current = s.current from congrArg Prod.snd h]

theorem outcomes_of_queue (hqueue : s'.queue = s.queue) (h : HandleId) :
    s'.outcomes h = s.outcomes h ∧ (s'.Trying h ↔ s.Trying h) := by
  have hcurrent : s'.current = s.current := congrArg Prod.snd hqueue
  exact ⟨by rw [outcomes, outcomes, dispatches_of_queue hqueue], by rw [Trying, Trying, hcurrent]⟩

theorem Limited.quiet (hl : s.Limited) (hb : s'.Booked) (hsettings : s'.settings = s.settings)
    (hends : s.gateway.registry.Ends m s'.gateway.registry)
    (hstreak : ∀ h, s'.gateway.registry.streak? h = s.gateway.registry.streak? h)
    (hqueue : s'.queue = s.queue) (hremovals : s'.removals = s.removals ++ m.toList)
    (hm : ∀ q, m = some q → q.who.evicts = false) : s'.Limited := by
  refine ⟨hb, by rw [dispatches_of_queue hqueue, hsettings]; exact hl.settings, ?_⟩
  intro h x' hx'
  obtain ⟨x, hx, hid, -⟩ := hends.keeps.back hx'
  have hsame : x'.streak = x.streak := by
    simpa [Registry.streak?, hx, hx'] using hstreak h
  obtain ⟨houtcomes, htrying⟩ := outcomes_of_queue hqueue h
  exact (hl.reckoned h x hx).idle hsettings hid hsame houtcomes (fun ht => Or.inl (htrying.1 ht))
    hends hremovals (fun _ _ q hq _ => hm q hq)

theorem Reckoned.of_register (hr : s.Reckoned h x) (hsettings : s'.settings = s.settings)
    {id : ConnectionId} {i : SinkId} (hlt : h < s.gateway.registry.handles.length)
    (hreg : s'.gateway.registry = (s.gateway.registry.register id i).2)
    (hqueue : s'.queue = s.queue) (hremovals : s'.removals = s.removals) : s'.Reckoned h x := by
  have hlimit : s'.limit = s.limit := by rw [limit, limit, hsettings]
  have hheld : s'.gateway.registry.handle? x.id = some h ↔
      s.gateway.registry.handle? x.id = some h := by
    rw [hreg]
    exact Registry.handle?_register_iff hlt
  obtain ⟨houtcomes, htrying⟩ := outcomes_of_queue hqueue h
  refine ⟨by rw [houtcomes, hr.streak], ?_, ?_, ?_, ?_⟩
  · rw [houtcomes, hlimit]
    exact hr.below
  · rw [hheld, hlimit]
    exact hr.held
  · rw [htrying, hlimit]
    exact hr.trying
  · rw [hheld, hlimit, Undisturbed, hremovals]
    exact hr.fate

theorem Limited.of_register (hl : s.Limited) (hb : s'.Booked)
    (hsettings : s'.settings = s.settings) {id : ConnectionId} {i : SinkId}
    (hreg : s'.gateway.registry = (s.gateway.registry.register id i).2)
    (hqueue : s'.queue = s.queue) (hremovals : s'.removals = s.removals) : s'.Limited := by
  refine ⟨hb, by rw [dispatches_of_queue hqueue, hsettings]; exact hl.settings, ?_⟩
  intro h x hx
  have hx' := hx
  rw [hreg] at hx'
  rcases Registry.handle_register_back _ hx' with hx' | ⟨hfree, rfl, rfl⟩
  · exact (hl.reckoned h x hx').of_register hsettings (List.getElem?_eq_some_iff.1 hx').1 hreg
      hqueue hremovals
  · obtain ⟨houtcomes, htrying⟩ := outcomes_of_queue hqueue s.gateway.registry.handles.length
    obtain ⟨hnone, hnot⟩ := hl.booked.outcomes_of_unknown (List.getElem?_eq_none (Nat.le_refl _))
    have hpos : 0 < s'.limit := Nat.lt_of_lt_of_le Nat.zero_lt_one (Nat.le_max_left ..)
    refine ⟨by rw [houtcomes, hnone]; rfl, ?_, fun _ => hpos, fun _ => hpos, ?_⟩
    · intro l a l' heq
      rw [houtcomes, hnone] at heq
      simp at heq
    · intro _
      refine Or.inl ?_
      rw [hreg, Registry.handle?, Registry.find?_register, if_pos rfl, hfree]
      rfl

/-- A message that is taken goes to those who are registered, and finds them below the limit. -/
theorem Limited.afterTake (hl : s.Limited) (hlanded : s.landed = true) (m : Message)
    (rest : List Message) : (s.afterTake m rest).Limited := by
  refine ⟨hl.booked.afterTake hlanded m rest, ?_, ?_⟩
  · intro d hd
    rcases List.mem_append.1 hd with hd | hd
    · exact hl.settings d hd
    · obtain rfl := List.mem_singleton.1 hd
      rfl
  intro h x hx
  have hx : s.gateway.registry.handles[h]? = some x := hx
  refine (hl.reckoned h x hx).idle (m := none) rfl rfl rfl ?_ ?_ (Registry.Ends.refl _)
    (List.append_nil _).symm (fun _ _ _ hq => absurd hq (by simp))
  · -- Nothing has come of the message yet.
    have hds : (s.afterTake m rest).dispatches = s.dispatches ++
        [Dispatched.launch s.settings (s.gateway.count .busMessages) m] := rfl
    rw [outcomes, hds, List.flatMap_append]
    exact List.append_nil _
  · rintro ⟨d, hd, v, hv, rfl, -⟩
    obtain rfl := Option.some.inj hd
    obtain ⟨h, hmem, hv⟩ := List.mem_filterMap.1 hv
    obtain ⟨y, -, rfl⟩ := Option.map_eq_some_iff.1 hv
    have hmem : h ∈ s.gateway.registry.matching m.topic := hmem
    obtain ⟨e, he, rfl⟩ := List.mem_map.1 hmem
    have he := List.mem_of_mem_filter he
    obtain ⟨z, hz, hid, -⟩ := hl.booked.sound.live e he
    rw [hx] at hz
    obtain rfl := Option.some.inj hz
    refine Or.inr ?_
    rw [hid, Registry.handle?, hl.booked.sound.find?_of_mem he]
    rfl

/-- An attempt that is open after a move was open before, and that of the delivery that moved is
open only if its write has just begun. -/
theorem Booked.trying_afterMove (hb : s.Booked) (hcurrent : s.current = some d)
    (hk : d.flight.deliveries[k]? = some old) (ht : (s.afterMove d k old).Trying h) :
    s.Trying h ∧ (h = old.handle → old.stage.begun = false) := by
  have hd : d ∈ s.dispatches := mem_dispatches hcurrent
  have hold : old ∈ d.flight.deliveries := List.mem_of_getElem? hk
  obtain ⟨y, hy⟩ := hb.sink_of_delivery hd hold
  obtain ⟨st, hst, -, hanswered⟩ := Delivery.stage_move d.flight.settings d.flight.payload hy
  obtain ⟨d', hd', v, hv, rfl, hopen⟩ := ht
  obtain rfl := Option.some.inj hd'
  rcases (hb.exact d hd).mem_set hk (hst ▸ hv) with ⟨hv, hne⟩ | rfl
  · exact ⟨⟨d, hcurrent, v, hv, rfl, hopen⟩, fun heq => absurd heq hne⟩
  · have hbegun : old.stage.begun = false := hanswered ▸ hopen
    refine ⟨⟨d, hcurrent, old, hold, rfl, ?_⟩, fun _ => hbegun⟩
    cases hold : old.stage.answered with
    | false => rfl
    | true => rw [Delivery.begun_of_answered hold] at hbegun; simp at hbegun

theorem outcomes_afterMove (hcurrent : s.current = some d) :
    (s.afterMove d k old).outcomes h = s.outcomes h ++
      if h = old.handle then (old.answer? d.flight.payload s.gateway).toList else [] := by
  have hds : s.dispatches = s.past ++ [d] := by simp [dispatches, hcurrent]
  have hafter : (s.afterMove d k old).dispatches = s.past ++ [d.moved s.gateway k old
      (old.move d.flight.settings d.flight.payload s.gateway).2] := rfl
  rw [outcomes, outcomes, hafter, hds]
  simp [Dispatched.answersOf_moved]

theorem evicts_of_answer_none {q : Removal}
    (ha : old.answer? d.flight.payload s.gateway = none)
    (hq : old.removal? d.flight.settings d.flight.payload s.gateway = some q) :
    q.who.evicts = false := by
  cases hwho : q.who with
  | eviction h' =>
    obtain ⟨-, -, e, he⟩ := Delivery.answer?_of_evicts hq hwho
    rw [ha] at he
    simp at he
  | session i => rfl
  | outside => rfl

theorem trying_of_answer (hb : s.Booked) (hcurrent : s.current = some d)
    (hk : d.flight.deliveries[k]? = some old) {a : Except DeliveryError Unit}
    (ha : old.answer? d.flight.payload s.gateway = some a) :
    s.Trying old.handle ∧ old.stage.begun = true := by
  have hd : d ∈ s.dispatches := mem_dispatches hcurrent
  have hold : old ∈ d.flight.deliveries := List.mem_of_getElem? hk
  obtain ⟨y, hy⟩ := hb.sink_of_delivery hd hold
  have hsome := Delivery.isSome_answer? d.flight.payload hy
  rw [ha] at hsome
  obtain ⟨hbegun, hopen⟩ : old.stage.begun = true ∧ old.stage.answered = false := by
    simpa using hsome.symm
  exact ⟨⟨d, hcurrent, old, hold, rfl, hopen⟩, hbegun⟩

/-- The connection of another delivery is not evicted with this one, unless others have been at
it. -/
theorem Limited.spares (hl : s.Limited) (hcurrent : s.current = some d)
    (hk : d.flight.deliveries[k]? = some old) (hne : h ≠ old.handle)
    (hu : s.Undisturbed c) (hheld : s.gateway.registry.handle? c = some h) {q : Removal}
    (hq : old.removal? d.flight.settings d.flight.payload s.gateway = some q) (hid : q.id = c) :
    q.who.evicts = false := by
  have hd : d ∈ s.dispatches := mem_dispatches hcurrent
  cases hwho : q.who with
  | session i => rfl
  | outside => rfl
  | eviction h' =>
    -- The connection would be registered with both handles.
    obtain ⟨-, hqid, e, he⟩ := Delivery.answer?_of_evicts hq hwho
    obtain ⟨y, hy, -, hyid⟩ := hl.booked.aimed d hd old (List.mem_of_getElem? hk)
    have hyc : y.id = c := hyid.trans (hqid.symm.trans hid)
    have hown := (hl.reckoned _ y hy).held_of_trying
      (trying_of_answer hl.booked hcurrent hk he).1 (hyc ▸ hu)
    rw [hyc, hheld] at hown
    exact absurd (Option.some.inj hown) hne

theorem Limited.afterMove_other (hl : s.Limited) (hcurrent : s.current = some d)
    (hk : d.flight.deliveries[k]? = some old) (hne : h ≠ old.handle)
    (hx : s.gateway.registry.handles[h]? = some x)
    (hx' : (s.afterMove d k old).gateway.registry.handles[h]? = some x') (hid : x'.id = x.id) :
    (s.afterMove d k old).Reckoned h x' := by
  have hspec := Delivery.moveSpec d.flight.settings d.flight.payload s.gateway old
  have hstreak : (s.afterMove d k old).gateway.registry.streak? h =
      s.gateway.registry.streak? h := by
    refine Delivery.streak?_move.trans ?_
    split
    · rfl
    · rw [if_neg hne]
  have hsame : x'.streak = x.streak := by simpa [Registry.streak?, hx, hx'] using hstreak
  refine (hl.reckoned h x hx).idle rfl hid hsame ?_
    (fun ht => Or.inl (hl.booked.trying_afterMove hcurrent hk ht).1) hspec.ends rfl
    (fun hu hheld q hq hqid => hl.spares hcurrent hk hne hu hheld hq hqid)
  rw [outcomes_afterMove hcurrent, if_neg hne, List.append_nil]

theorem Limited.afterMove_own (hl : s.Limited) (hcurrent : s.current = some d)
    (hk : d.flight.deliveries[k]? = some old)
    (hx : s.gateway.registry.handles[old.handle]? = some x)
    (hx' : (s.afterMove d k old).gateway.registry.handles[old.handle]? = some x')
    (hid : x'.id = x.id) : (s.afterMove d k old).Reckoned old.handle x' := by
  have hd : d ∈ s.dispatches := mem_dispatches hcurrent
  have hspec := Delivery.moveSpec d.flight.settings d.flight.payload s.gateway old
  have hsettings := hl.settings d hd
  have hstreak : (s.afterMove d k old).gateway.registry.streak? old.handle = _ :=
    Delivery.streak?_move
  have houtcomes : (s.afterMove d k old).outcomes old.handle = s.outcomes old.handle ++
      (old.answer? d.flight.payload s.gateway).toList := by
    rw [outcomes_afterMove hcurrent, if_pos rfl]
  obtain ⟨y, hy, -, hyid⟩ := hl.booked.aimed d hd old (List.mem_of_getElem? hk)
  rw [hx] at hy
  obtain rfl := Option.some.inj hy
  cases ha : old.answer? d.flight.payload s.gateway with
  | none =>
    rw [ha] at hstreak houtcomes
    have hsame : x'.streak = x.streak := by simpa [Registry.streak?, hx, hx'] using hstreak
    exact (hl.reckoned _ x hx).idle rfl hid hsame (houtcomes.trans (List.append_nil _))
      (fun ht => Or.inl (hl.booked.trying_afterMove hcurrent hk ht).1) hspec.ends rfl
      (fun _ _ q hq _ => evicts_of_answer_none ha hq)
  | some a =>
    rw [ha] at hstreak houtcomes
    obtain ⟨htrying, hbegun⟩ := trying_of_answer hl.booked hcurrent hk ha
    have hnext : x'.streak = streakAfter x.streak a := by
      simpa [Registry.streak?, hx, hx'] using hstreak
    refine (hl.reckoned _ x hx).answered rfl hid hnext houtcomes htrying ?_ hspec.ends rfl ?_ ?_
    · intro ht
      rw [(hl.booked.trying_afterMove hcurrent hk ht).2 rfl] at hbegun
      simp at hbegun
    · rintro u rfl
      exact Delivery.removal?_of_ok ha
    · rintro e rfl
      rw [Delivery.removal?_of_error ha hx, hsettings, hyid]

theorem Limited.afterMove (hl : s.Limited) (hcurrent : s.current = some d)
    (hk : d.flight.deliveries[k]? = some old) : (s.afterMove d k old).Limited := by
  refine ⟨hl.booked.afterMove hcurrent hk, ?_, ?_⟩
  · intro d' hd'
    rcases List.mem_append.1 hd' with hd' | hd'
    · exact hl.settings d' (List.mem_append_left _ hd')
    · obtain rfl := List.mem_singleton.1 hd'
      exact hl.settings d (mem_dispatches hcurrent)
  · intro h x' hx'
    obtain ⟨x, hx, hid, -⟩ :=
      (Delivery.moveSpec d.flight.settings d.flight.payload s.gateway old).ends.keeps.back hx'
    by_cases hh : h = old.handle
    · subst hh
      exact hl.afterMove_own hcurrent hk hx hx' hid
    · exact hl.afterMove_other hcurrent hk hh hx hx' hid

/-! ## Every act -/

theorem streak?_receive (g : Gateway) (i : Nat) (data : Bytes) :
    (g.receive i data).2.registry.streak? h = g.registry.streak? h := by
  unfold receive
  split
  · rfl
  split
  · rfl
  split
  · rfl
  split
  · rfl
  · next hf =>
    unfold carryOut? at hf
    split at hf
    · obtain rfl := (Prod.mk.inj (Option.some.inj hf)).2
      rfl
    · obtain rfl := (Prod.mk.inj (Option.some.inj hf)).2
      rfl
    · simp at hf
  · rfl

theorem streak?_closeSession (g : Gateway) (i : Nat) :
    (g.closeSession i).registry.streak? h = g.registry.streak? h := by
  unfold closeSession
  cases g.sessions[i]? with
  | none => rfl
  | some x =>
    cases hx : x.finished
    · simp only [hx, Bool.false_eq_true, ite_false]
      exact Registry.streak?_unregister
    · simp only [hx, ite_true]
      rfl

theorem Limited.takeNext (hl : s.Limited) : s.takeNext.Limited := by
  rcases takeNext_cases s with hsame | ⟨m, rest, -, hlanded, htake⟩
  · rwa [hsame]
  · rw [htake]
    exact hl.afterTake hlanded m rest

theorem Limited.moveDelivery (hl : s.Limited) (k : Nat) : (s.moveDelivery k).Limited := by
  rcases moveDelivery_cases s k with hsame | ⟨d, old, hcurrent, hk, hmove⟩
  · rwa [hsame]
  · rw [hmove]
    exact hl.afterMove hcurrent hk

/-- One act keeps the reckoning of every handle. -/
theorem Limited.step (hl : s.Limited) (a : Act) : (s.step a).Limited := by
  have hb := hl.booked.step a
  have hnone : ∀ q : Removal, (none : Option Removal) = some q → q.who.evicts = false :=
    fun _ hq => absurd hq (by simp)
  cases a with
  | reserve =>
    refine ⟨hb, hl.settings, ?_⟩
    intro h x hx
    have hr := hl.reckoned h x hx
    exact ⟨hr.streak, hr.below, hr.held, hr.trying, hr.fate⟩
  | enroll id manner =>
    simp only [Traffic.step] at hb ⊢
    split at hb
    · next hmem =>
      rw [if_pos hmem]
      exact hl.of_register hb rfl rfl rfl rfl
    · next hmem =>
      rw [if_neg hmem]
      exact hl
  | register id manner => exact hl.of_register hb rfl rfl rfl rfl
  | receive i data =>
    exact hl.quiet hb rfl (ends_receive i data).1 (fun _ => streak?_receive _ i data) rfl
      (List.append_nil _).symm hnone
  | close i =>
    exact hl.quiet hb rfl (ends_closeSession i).1 (fun _ => streak?_closeSession _ i) rfl rfl
      (fun _ hq => evicts_closing hq)
  | subscribe id topics =>
    exact hl.quiet hb rfl (Registry.ends_subscribe topics) (fun _ => rfl) rfl
      (List.append_nil _).symm hnone
  | unsubscribe id topics =>
    exact hl.quiet hb rfl (Registry.ends_unsubscribe topics) (fun _ => rfl) rfl
      (List.append_nil _).symm hnone
  | unregister id =>
    refine hl.quiet hb rfl (Registry.ends_unregister .outside)
      (fun _ => Registry.streak?_unregister) rfl rfl ?_
    intro q hq
    obtain rfl := Option.some.inj hq
    rfl
  | retune k manner =>
    exact hl.quiet hb rfl (Registry.Ends.refl _) (fun _ => rfl) rfl (List.append_nil _).symm hnone
  | publish m =>
    exact hl.quiet hb rfl (Registry.Ends.refl _) (fun _ => rfl) rfl (List.append_nil _).symm hnone
  | take => exact hl.takeNext
  | move k => exact hl.moveDelivery k

theorem limited_run (settings : Settings) (acts : List Act) :
    ((start settings).run acts).Limited := by
  induction acts using List.reverseRecOn with
  | nil => exact limited_start settings
  | append_singleton acts a ih =>
    rw [run_concat]
    exact ih.step a

/-! ## What follows -/

/-- A connection is evicted at the attempt that makes it `k` failures in a row, and not before; it
is registered until then. -/
structure EvictedAt (k : Nat) (s : Traffic) (h : HandleId) (x : Handle) : Prop where
  streak : x.streak = failuresInARow (s.outcomes h)
  /-- No attempt was made after the limit had been reached. -/
  below : ∀ l a l', s.outcomes h = l ++ a :: l' → failuresInARow l < k
  reached : (failuresInARow (s.outcomes h) < k ∧ s.gateway.registry.handle? x.id = some h) ∨
    (failuresInARow (s.outcomes h) = k ∧ s.gateway.registry.handle? x.id ≠ some h ∧
      ⟨.eviction h, x.id, some h⟩ ∈ s.removals)

/-- What the limit of failures in a row means. -/
structure KeepsLimit (settings : Settings) (s : Traffic) : Prop where
  /-- A connection that nobody else has unregistered is evicted exactly at the limit. -/
  evicted : ∀ (h : HandleId) (x : Handle), s.gateway.registry.handles[h]? = some x →
    s.Undisturbed x.id → EvictedAt (max 1 settings.maxFailures) s h x
  /-- Whoever is registered is below the limit, whatever others have done. -/
  registered : ∀ e ∈ s.gateway.registry.entries, ∃ x,
    s.gateway.registry.handles[e.handle]? = some x ∧ x.streak < max 1 settings.maxFailures
  /-- No streak has ever gone beyond the limit, so that it fits where the limit does. -/
  bounded : ∀ (h : HandleId) (x : Handle), s.gateway.registry.handles[h]? = some x →
    x.streak ≤ max 1 settings.maxFailures ∧
      (settings.maxFailures < Nat.pow 2 32 → x.streak < Nat.pow 2 32)

theorem Reckoned.le_limit (hr : s.Reckoned h x) : x.streak ≤ s.limit := by
  rw [hr.streak]
  rcases List.eq_nil_or_concat (s.outcomes h) with hnil | ⟨l, a, heq⟩
  · rw [hnil]
    exact Nat.zero_le _
  · rw [List.concat_eq_append] at heq
    have hlt := hr.below l a [] heq
    rw [heq, failuresInARow_concat]
    cases a with
    | ok u => exact Nat.zero_le _
    | error e => exact hlt

/-- In every state of every run, whoever is registered is below the limit of failures in a row, and
a connection left to the deliveries is evicted exactly when it reaches the limit. -/
theorem evicts_at_limit (settings : Settings) (acts : List Act) :
    KeepsLimit settings ((start settings).run acts) := by
  have hl := limited_run settings acts
  have hlimit : ((start settings).run acts).limit = max 1 settings.maxFailures := by
    rw [limit, settings_run]
  generalize (start settings).run acts = s at hl hlimit
  refine ⟨?_, ?_, ?_⟩
  · intro h x hx hu
    have hr := hl.reckoned h x hx
    refine ⟨hr.streak, hlimit ▸ hr.below, ?_⟩
    rw [← hr.streak, ← hlimit]
    rcases hr.fate hu with hheld | ⟨hfull, hmem⟩
    · exact Or.inl ⟨hr.held hheld, hheld⟩
    · exact Or.inr ⟨hfull, fun hheld => absurd hfull (Nat.ne_of_lt (hr.held hheld)), hmem⟩
  · intro e he
    obtain ⟨x, hx, hid, -⟩ := hl.booked.sound.live e he
    have hheld : s.gateway.registry.handle? x.id = some e.handle := by
      rw [hid, Registry.handle?, hl.booked.sound.find?_of_mem he]
      rfl
    exact ⟨x, hx, hlimit ▸ (hl.reckoned _ x hx).held hheld⟩
  · intro h x hx
    have hle := hlimit ▸ (hl.reckoned h x hx).le_limit
    refine ⟨hle, fun hfits => Nat.lt_of_le_of_lt hle (Nat.max_lt.2 ⟨by decide, hfits⟩)⟩

/-- With a limit of two: a write that times out and one that is taken, and then two that fail, on
two topics in turn. Only the last of them evicts. -/
theorem evicts_at_second_in_a_row :
    let btc := Topic.ofString "BTCUSDT"
    let eth := Topic.ofString "ETHUSDT"
    let before : List Act := [.reserve, .enroll 1 { writing := .never }, .subscribe 1 [btc, eth],
      .publish ⟨btc, []⟩, .take, .move 0, .move 0, .retune 0 {},
      .publish ⟨eth, []⟩, .take, .move 0, .move 0, .retune 0 { writing := .breaks 0 },
      .publish ⟨btc, []⟩, .take, .move 0, .move 0, .register 1 {},
      .retune 0 { failures := .always }]
    let acts := before ++ [.publish ⟨eth, []⟩, .take, .move 0, .move 0]
    let s := (start { maxFailures := 2 }).run acts
    ((start { maxFailures := 2 }).run before).gateway.registry.contains 1 = true ∧
      s.outcomes 0 = [.error .timeout, .ok (), .error .panicked, .error (.write "refused")] ∧
      s.gateway.registry.contains 1 = false ∧ s.removals = [⟨.eviction 0, 1, some 0⟩] ∧
      ∃ x, s.gateway.registry.handles[0]? = some x ∧ EvictedAt 2 s 0 x := by
  intro btc eth before acts s
  have hremovals : s.removals = [⟨.eviction 0, 1, some 0⟩] := by decide
  have hundisturbed : s.Undisturbed 1 := by
    intro q hq _ _
    rw [hremovals] at hq
    rw [List.mem_singleton.1 hq]
    rfl
  have hx : s.gateway.registry.handles[0]? = some ⟨1, 0, 2, true⟩ := by decide
  have hlimit : KeepsLimit { maxFailures := 2 } s := evicts_at_limit _ acts
  refine ⟨by decide, by decide, by decide, hremovals, _, hx, ?_⟩
  clear_value s
  exact hlimit.evicted 0 _ hx hundisturbed

end Traffic

end CandleRelay.Gateway
