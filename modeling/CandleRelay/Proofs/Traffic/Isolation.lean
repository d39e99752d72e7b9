import CandleRelay.Proofs.Traffic.Standing

/-!
# Clients do not see each other

Two gateways with the same settings dispatch the same messages, and in both of them the same happens
to some client: it is opened, sends the same bytes, behaves the same as it is written to and is
closed, all in the same places between the dispatches. Who else is there, and what becomes of them,
may be different, and with it the client's id. The client cannot tell the difference.

To say so, an act is put into words that do not depend on others (`Event`): to the client it is that
event, or nothing. So is what the gateway holds about the client (`Standing`), and what the client
is answered (`Note`).

What is proved:
  1. `Booked.follows`: after every act the client stands where it can tell from the event alone, and
     where it stood before if the act is nothing to it.
  2. `Booked.note_eq`: the answer to a frame and an eviction can be told in the same way.
  3. `Booked.run_follows`: a run comes, for the client, to its own events one after the other.
  4. `isolated`: two runs in which the same happens to a client are the same to it.
-/

namespace CandleRelay.Gateway

/-! ## What happens to a client -/

/-- Something that happens to a connection, in words that do not depend on others: its sessions,
handles and deliveries are counted among its own. -/
inductive Event where
  | reserve
  | enroll (m : Manner)
  | receive (j : Nat) (data : Bytes)
  | close (j : Nat)
  | register (m : Manner)
  | subscribe (topics : List Topic)
  | unsubscribe (topics : List Topic)
  | unregister
  | retune (j : Nat) (m : Manner)
  /-- A message is dispatched, to whomever. -/
  | dispatch (m : Message)
  | move (j : Nat)
  deriving DecidableEq

/-- Something that a connection notices. -/
inductive Note where
  /-- The method that a frame of a session carried out, and the session's state afterwards. -/
  | frame (j : Nat) (answer : Option Method) (state : Option SessionState)
  /-- The connection is evicted while the message of that number is in flight. -/
  | evicted (number : Nat)
  deriving DecidableEq

/-- Where a connection stands: how often its id is given out and not enrolled, its handles, its
sessions with what closing has done, its deliveries in flight, each with the number of its handle,
and the messages dispatched so far, to whomever. -/
structure Standing where
  settings : Settings
  reserved : Nat
  lives : List Life
  sessions : List (SessionState × Bool)
  deliveries : List (Nat × Stage)
  flight : Option (Settings × Bytes)
  messages : List Message
  deriving DecidableEq

/-- The number of a value among those that are there. -/
def ordinal? {β : Type} (p : Nat → Option β) (i : Nat) : Option Nat :=
  (p i).map fun _ => (pick i p).length

/-- The state of a session, if it is one of the connection's, and whether it has been finished. -/
def session? (g : Gateway) (c : ConnectionId) (i : Nat) : Option (SessionState × Bool) :=
  (g.sessions[i]?).bind fun x => if x.id = c then some (x.state, x.finished) else none

/-- The states of the connection's sessions. -/
def sessionsOf (g : Gateway) (c : ConnectionId) : List (SessionState × Bool) :=
  pick g.sessions.length (g.session? c)

/-- The number of its handle and the stage of a delivery, if it is one of the connection's. -/
def delivery? (r : Registry) (ds : List Delivery) (c : ConnectionId) (k : Nat) :
    Option (Nat × Stage) :=
  (ds[k]?).bind fun v => if v.id = c then some (r.rank c v.handle, v.stage) else none

namespace Traffic

/-- The deliveries in flight. -/
def inFlight (s : Traffic) : List Delivery :=
  match s.current with
  | some d => d.flight.deliveries
  | none => []

/-- Where a connection stands now. -/
def standing (s : Traffic) (c : ConnectionId) : Standing where
  settings := s.settings
  reserved := s.reserved.count c
  lives := s.gateway.lives c
  sessions := s.gateway.sessionsOf c
  deliveries := pick s.inFlight.length (delivery? s.gateway.registry s.inFlight c)
  flight := s.current.map fun d => (d.flight.settings, d.flight.payload)
  messages := s.dispatches.map (·.message)

/-- What an act is to a connection: nothing, as long as it is about others. -/
def event? (s : Traffic) (c : ConnectionId) : Act → Option Event
  | .reserve => if s.gateway.registry.nextId = c then some .reserve else none
  | .enroll id m => if id = c then some (.enroll m) else none
  | .receive i data => (ordinal? (s.gateway.session? c) i).map (.receive · data)
  | .close i => (ordinal? (s.gateway.session? c) i).map .close
  | .register id m => if id = c then some (.register m) else none
  | .subscribe id topics => if id = c then some (.subscribe topics) else none
  | .unsubscribe id topics => if id = c then some (.unsubscribe topics) else none
  | .unregister id => if id = c then some .unregister else none
  | .retune k m =>
    (s.gateway.registry.handles.findIdx? fun x => x.sink == k && x.id == c).map fun h =>
      .retune (s.gateway.registry.rank c h) m
  | .publish _ => none
  | .take => if s.landed then s.waiting.head?.map .dispatch else none
  | .move k => (ordinal? (delivery? s.gateway.registry s.inFlight c) k).map .move

/-- What a connection notices of an act. -/
def note? (s : Traffic) (c : ConnectionId) : Act → Option Note
  | .receive i data =>
    (ordinal? (s.gateway.session? c) i).map fun j =>
      .frame j (s.gateway.receive i data).1
        (((s.gateway.receive i data).2.sessions[i]?).map (·.state))
  | .move k =>
    match s.current with
    | none => none
    | some d =>
      match d.flight.deliveries[k]? with
      | none => none
      | some v =>
        if v.id = c ∧ v.evicts d.flight.settings d.flight.payload s.gateway then
          some (.evicted s.dispatches.length)
        else none
  | _ => none

/-- All that happens to a connection. -/
def concerns (c : ConnectionId) : Traffic → List Act → List Event
  | _, [] => []
  | s, a :: acts => (s.event? c a).toList ++ concerns c (s.step a) acts

/-- All that a connection notices. -/
def diary (c : ConnectionId) : Traffic → List Act → List Note
  | _, [] => []
  | s, a :: acts => (s.note? c a).toList ++ diary c (s.step a) acts

end Traffic

/-! ## A client by itself

What the acts of `Traffic` do, with nothing else there than the one connection. -/

namespace Standing

variable (st : Standing)

def onLives (f : List Life → List Life) : Standing := { st with lives := f st.lives }

/-- The topics of a registration after a frame. -/
def topicsAfter (f : ControlFrame) (ts : List Topic) : List Topic :=
  match f.method with
  | .subscribe => (ts ++ f.topics.filter (!·.isEmpty)).eraseDups
  | .unsubscribe => ts.filter (!f.topics.contains ·)
  | .unsupported _ => ts

def register (m : Manner) : Standing :=
  if Fate.registered st.lives then st
  else { st with lives := st.lives ++ [⟨{ toManner := m }, 0, false, some []⟩] }

def enroll (m : Manner) : Standing :=
  if st.reserved = 0 then st
  else
    { st.register m with
      reserved := st.reserved - 1
      sessions := st.sessions ++ [(.connected, false)] }

def receive (j : Nat) (data : Bytes) : Option Method × Standing :=
  match st.sessions[j]? with
  | some (.connected, _) =>
    match ControlFrame.parse data with
    | .error _ => (none, st)
    | .ok f =>
      match f.method with
      | .unsupported _ => (none, st)
      | _ =>
        if Fate.registered st.lives then
          (some f.method, st.onLives (·.map (Life.onTopics (topicsAfter f))))
        else (none, { st with sessions := st.sessions.modify j fun x => (.closed, x.2) })
  | _ => (none, st)

def close (j : Nat) : Standing :=
  match st.sessions[j]? with
  | none => st
  | some (_, finished) =>
    if finished then { st with sessions := st.sessions.modify j fun x => (.closed, x.2) }
    else
      { st.onLives (·.map Life.ends) with
        sessions := st.sessions.modify j fun _ => (.closed, true) }

def dispatch (m : Message) : Standing :=
  { st with
    deliveries :=
      ((st.lives.findIdx? fun l => l.topics.any (·.contains m.topic)).map (·, Stage.waiting)).toList
    flight := some (st.settings, m.payload)
    messages := st.messages ++ [m] }

def move (j : Nat) : Standing :=
  match st.flight, st.deliveries[j]? with
  | some (settings, payload), some (k, stage) =>
    let fate := Fate.move settings payload k st.lives stage
    { st with
      lives := fate.lives
      deliveries := st.deliveries.modify j fun x => (x.1, fate.stage) }
  | _, _ => st

/-- Where a connection stands after something has happened to it. -/
def after : Event → Standing
  | .reserve => { st with reserved := st.reserved + 1 }
  | .enroll m => st.enroll m
  | .receive j data => (st.receive j data).2
  | .close j => st.close j
  | .register m => st.register m
  | .subscribe ts => st.onLives (·.map (Life.onTopics (topicsAfter ⟨.subscribe, ts⟩)))
  | .unsubscribe ts => st.onLives (·.map (Life.onTopics (topicsAfter ⟨.unsubscribe, ts⟩)))
  | .unregister => st.onLives (·.map Life.ends)
  | .retune j m => st.onLives (·.modify j (Life.onSink fun s => { s with toManner := m }))
  | .dispatch m => st.dispatch m
  | .move j => st.move j

/-- Whether the next move of the `j`-th delivery is an eviction. -/
def evicts (j : Nat) : Bool :=
  match st.flight, st.deliveries[j]? with
  | some (settings, payload), some (k, .writing due ending) =>
    match (Fate.settle settings payload due ending k st.lives).stage with
    | .closing _ _ => true
    | _ => false
  | _, _ => false

/-- What a connection notices of what happens to it. -/
def note : Event → Option Note
  | .receive j data =>
    some (.frame j (st.receive j data).1 ((((st.receive j data).2).sessions[j]?).map (·.1)))
  | .move j => if st.evicts j then some (.evicted st.messages.length) else none
  | _ => none

/-- What a connection notices of all that happens to it. -/
def notes : Standing → List Event → List Note
  | _, [] => []
  | st, e :: es => (st.note e).toList ++ notes (st.after e) es

end Standing

/-! ## Sessions and frames -/

section Sessions

variable {g : Gateway} {c : ConnectionId} {i : Nat} {x : Session}

theorem session?_own (hx : g.sessions[i]? = some x) (hid : x.id = c) :
    g.session? c i = some (x.state, x.finished) := by
  rw [session?, hx, Option.bind_some, if_pos hid]

theorem session?_other (hx : g.sessions[i]? = some x) (hid : x.id ≠ c) : g.session? c i = none := by
  rw [session?, hx, Option.bind_some, if_neg hid]

theorem sessionsOf_congr {g' : Gateway} (h : g'.sessions = g.sessions) :
    g'.sessionsOf c = g.sessionsOf c := by
  simp only [sessionsOf, h]
  exact pick_congr fun j _ => by simp only [session?, h]

theorem sessionsOf_modify (hx : g.sessions[i]? = some x) {f : Session → Session}
    {f' : SessionState × Bool → SessionState × Bool} (hid : ∀ x, (f x).id = x.id)
    (hf : ∀ x, ((f x).state, (f x).finished) = f' (x.state, x.finished)) :
    sessionsOf { g with sessions := g.sessions.modify i f } c =
      if x.id = c then (g.sessionsOf c).modify (pick i (g.session? c)).length f'
      else g.sessionsOf c := by
  have hlt := (List.getElem?_eq_some_iff.1 hx).1
  have hsession : ∀ j, session? { g with sessions := g.sessions.modify i f } c j =
      if j = i then (g.session? c j).map f' else g.session? c j := by
    intro j
    by_cases hj : i = j
    · subst hj
      rw [if_pos rfl]
      simp only [session?, List.getElem?_modify_eq, hx, Option.map_eq_map, Option.map_some,
        Option.bind_some, hid, hf]
      split <;> rfl
    · rw [if_neg (Ne.symm hj)]
      simp only [session?, List.getElem?_modify_ne _ _ hj]
  rw [sessionsOf, List.length_modify, sessionsOf]
  split
  · next hown => exact pick_modify hlt (session?_own hx hown) fun j _ => hsession j
  · next hother =>
    refine pick_congr fun j _ => ?_
    rw [hsession j]
    split
    · next hj =>
      subst hj
      rw [session?_other hx hother]
      rfl
    · rfl

theorem sessionsOf_append (g : Gateway) (x : Session) (hx : x.state = .connected)
    (hfinished : x.finished = false) :
    sessionsOf { g with sessions := g.sessions ++ [x] } c =
      if x.id = c then g.sessionsOf c ++ [(.connected, false)] else g.sessionsOf c := by
  have hold : ∀ j < g.sessions.length,
      session? { g with sessions := g.sessions ++ [x] } c j = g.session? c j := by
    intro j hj
    simp only [session?, List.getElem?_append_left hj]
  rw [sessionsOf, List.length_append, List.length_singleton, pick_succ, pick_congr hold]
  split
  · next hid =>
    rw [session?_own (x := x) (by simp) hid, hx, hfinished]
    rfl
  · next hid =>
    rw [session?_other (x := x) (by simp) hid]
    exact List.append_nil _

theorem ordinal?_own {β : Type} {p : Nat → Option β} {b : β} (hb : p i = some b) :
    ordinal? p i = some (pick i p).length := by
  rw [ordinal?, hb, Option.map_some]

theorem ordinal?_none {β : Type} {p : Nat → Option β} (hb : p i = none) : ordinal? p i = none := by
  rw [ordinal?, hb, Option.map_none]

end Sessions

theorem Registry.rank_register {r : Registry} {id c : ConnectionId} {h : HandleId} {x : Handle}
    (hx : r.handles[h]? = some x) (k : SinkId) : (r.register id k).2.rank c h = r.rank c h := by
  have hle : h ≤ (r.handles.map (·.id)).length := by
    rw [List.length_map]
    exact Nat.le_of_lt (List.getElem?_eq_some_iff.1 hx).1
  cases he : r.find? id with
  | some e => rw [register_of_some he]
  | none =>
    rw [register_of_none he, rank, rank, List.map_append, List.take_append_of_le_length hle]

namespace Traffic

variable {s s' : Traffic} {c : ConnectionId}

theorem Booked.fit (hb : s.Booked) : s.gateway.Fit := by
  refine ⟨hb.sound, hb.unshared, fun h x hx => ?_⟩
  obtain ⟨l, hl, -⟩ := hb.log h x hx
  obtain ⟨k, hk, -⟩ := Option.map_eq_some_iff.1 hl
  exact ⟨k, hk⟩

theorem Booked.aimed_inFlight (hb : s.Booked) : ∀ v ∈ s.inFlight, v.Aimed s.gateway.registry := by
  intro v hv
  rw [inFlight] at hv
  split at hv
  · next d hcurrent =>
    refine hb.aimed d ?_ v hv
    rw [dispatches, hcurrent]
    exact List.mem_append_right _ List.mem_cons_self
  · simp at hv

theorem standing_eq (hsettings : s'.settings = s.settings) (hcurrent : s'.current = s.current)
    (hpast : s'.past = s.past) (hrank : ∀ v ∈ s.inFlight,
      s'.gateway.registry.rank c v.handle = s.gateway.registry.rank c v.handle) :
    s'.standing c =
      { s.standing c with
        reserved := s'.reserved.count c
        lives := s'.gateway.lives c
        sessions := s'.gateway.sessionsOf c } := by
  have hflight : s'.inFlight = s.inFlight := by rw [inFlight, hcurrent, inFlight]
  have hdeliveries : pick s'.inFlight.length (delivery? s'.gateway.registry s'.inFlight c) =
      pick s.inFlight.length (delivery? s.gateway.registry s.inFlight c) := by
    rw [hflight]
    refine pick_congr fun k hk => ?_
    have hmem := List.getElem_mem hk
    simp only [delivery?, List.getElem?_eq_getElem hk, Option.bind_some, hrank _ hmem]
  simp only [standing, hsettings, hcurrent, dispatches, hpast, hdeliveries]

/-- After an act a connection stands where it can tell from what has happened to it. -/
def Follows (s : Traffic) (c : ConnectionId) (a : Act) : Prop :=
  (s.step a).standing c = (s.event? c a).elim (s.standing c) (s.standing c).after

/-- The gateway changes in what is seen of it through handles and sessions only. -/
theorem standing_of_keeps {g : Gateway} (hk : s.gateway.registry.Keeps g.registry)
    (hgateway : s'.gateway = g) (hsettings : s'.settings = s.settings)
    (hreserved : s'.reserved = s.reserved) (hcurrent : s'.current = s.current)
    (hpast : s'.past = s.past) :
    s'.standing c = { s.standing c with lives := g.lives c, sessions := g.sessionsOf c } := by
  subst hgateway
  rw [standing_eq hsettings hcurrent hpast fun v _ => Registry.rank_of_keeps hk c v.handle,
    hreserved]
  rfl

theorem follows_reserve (s : Traffic) (c : ConnectionId) : s.Follows c .reserve := by
  have hstep : (s.step .reserve).standing c =
      { s.standing c with
        reserved := (s.reserved ++ [s.gateway.registry.nextId]).count c } :=
    standing_eq (s := s) rfl rfl rfl fun _ _ => rfl
  rw [Follows, hstep, event?, List.count_append]
  by_cases hid : s.gateway.registry.nextId = c
  · simp [hid, Standing.after, standing]
  · simp [hid, standing]

theorem lives_carryOut {id : ConnectionId} {f : ControlFrame} {r : Registry} {b : Bool}
    (hf : carryOut? s.gateway.registry id f = some (b, r)) :
    lives { s.gateway with registry := r } c =
      if id = c then (s.gateway.lives c).map (Life.onTopics (Standing.topicsAfter f))
      else s.gateway.lives c := by
  cases hmethod : f.method with
  | subscribe =>
    simp only [carryOut?, hmethod] at hf
    obtain rfl := (Prod.mk.inj (Option.some.inj hf)).2
    exact lives_update (fun _ => rfl) (fun _ => rfl) fun e => by
      simp only [Standing.topicsAfter, hmethod, Registration.add]
  | unsubscribe =>
    simp only [carryOut?, hmethod] at hf
    obtain rfl := (Prod.mk.inj (Option.some.inj hf)).2
    exact lives_update (fun _ => rfl) (fun _ => rfl) fun e => by
      simp only [Standing.topicsAfter, hmethod, Registration.drop]
  | unsupported word => simp [carryOut?, hmethod] at hf

/-- An act about the connection of an id that changes nothing but the lives of this connection. -/
theorem follows_lives {a : Act} {e : Event} {id : ConnectionId} {f : List Life → List Life}
    (hevent : s.event? c a = if id = c then some e else none)
    (hafter : (s.standing c).after e = (s.standing c).onLives f)
    (hk : s.gateway.registry.Keeps (s.step a).gateway.registry)
    (hstep : (s.step a).settings = s.settings ∧ (s.step a).reserved = s.reserved ∧
      (s.step a).current = s.current ∧ (s.step a).past = s.past ∧
      (s.step a).gateway.sessions = s.gateway.sessions)
    (hlives : (s.step a).gateway.lives c =
      if id = c then f (s.gateway.lives c) else s.gateway.lives c) : s.Follows c a := by
  obtain ⟨hsettings, hreserved, hcurrent, hpast, hsessions⟩ := hstep
  rw [Follows, standing_of_keeps hk rfl hsettings hreserved hcurrent hpast, hevent, hlives,
    sessionsOf_congr hsessions]
  split
  · exact hafter.symm
  · rfl

theorem follows_subscribe (s : Traffic) (c id : ConnectionId) (ts : List Topic) :
    s.Follows c (.subscribe id ts) :=
  follows_lives rfl rfl (Registry.keeps_update _) ⟨rfl, rfl, rfl, rfl, rfl⟩
    (lives_carryOut (f := ⟨.subscribe, ts⟩) rfl)

theorem follows_unsubscribe (s : Traffic) (c id : ConnectionId) (ts : List Topic) :
    s.Follows c (.unsubscribe id ts) :=
  follows_lives rfl rfl (Registry.keeps_update _) ⟨rfl, rfl, rfl, rfl, rfl⟩
    (lives_carryOut (f := ⟨.unsubscribe, ts⟩) rfl)

theorem Booked.follows_unregister (hb : s.Booked) (c id : ConnectionId) :
    s.Follows c (.unregister id) :=
  follows_lives rfl rfl Registry.keeps_unregister ⟨rfl, rfl, rfl, rfl, rfl⟩
    (lives_unregister hb.sound id)

theorem Booked.lives_register (hb : s.Booked) (id : ConnectionId) (m : Manner) :
    lives { s.gateway with
        registry := (s.gateway.registry.register id s.gateway.sinks.length).2
        sinks := s.gateway.sinks ++ [{ toManner := m }] } c =
      if id = c then ((s.standing c).register m).lives else s.gateway.lives c := by
  rw [Gateway.lives_register hb.fit]
  by_cases hid : id = c
  · rw [if_pos hid, Standing.register]
    have hregistered : Fate.registered (s.standing c).lives = s.gateway.registry.contains c :=
      (contains_eq_any hb.sound).symm
    rw [hregistered]
    cases s.gateway.registry.contains c with
    | true => simp [standing]
    | false => simp [hid, standing]
  · rw [if_neg hid, if_neg fun h => hid h.1]

theorem Booked.rank_register (hb : s.Booked) (c id : ConnectionId) (k : SinkId) :
    ∀ v ∈ s.inFlight, (s.gateway.registry.register id k).2.rank c v.handle =
      s.gateway.registry.rank c v.handle := by
  intro v hv
  obtain ⟨x, hx, -⟩ := hb.aimed_inFlight v hv
  exact Registry.rank_register hx k

theorem Booked.follows_register (hb : s.Booked) (c id : ConnectionId) (m : Manner) :
    s.Follows c (.register id m) := by
  have hstep : (s.step (.register id m)).standing c = _ :=
    standing_eq (s := s) rfl rfl rfl (hb.rank_register c id _)
  have hlives := hb.lives_register (c := c) id m
  rw [Follows, hstep, event?]
  by_cases hid : id = c
  · rw [if_pos hid] at hlives ⊢
    have hrest : ((s.standing c).register m) =
        { s.standing c with lives := ((s.standing c).register m).lives } := by
      rw [Standing.register]
      split <;> rfl
    simp only [Option.elim, Standing.after]
    rw [hrest, ← hlives]
    rfl
  · rw [if_neg hid] at hlives ⊢
    exact congrArg (fun ls => { s.standing c with lives := ls }) hlives

theorem Booked.follows_enroll (hb : s.Booked) (c id : ConnectionId) (m : Manner) :
    s.Follows c (.enroll id m) := by
  rw [Follows, event?]
  by_cases hmem : id ∈ s.reserved
  · have hgateway : (s.step (.enroll id m)).gateway =
        (s.gateway.enroll id { toManner := m }).2 := by simp [Traffic.step, hmem]
    have hreserved : (s.step (.enroll id m)).reserved = s.reserved.erase id := by
      simp [Traffic.step, hmem]
    have hrest : (s.step (.enroll id m)).settings = s.settings ∧
        (s.step (.enroll id m)).current = s.current ∧ (s.step (.enroll id m)).past = s.past := by
      simp [Traffic.step, hmem]
    have hlives : ((s.gateway.enroll id { toManner := m }).2).lives c = _ :=
      hb.lives_register (c := c) id m
    have hsessions : ((s.gateway.enroll id { toManner := m }).2).sessionsOf c = _ :=
      sessionsOf_append (c := c) s.gateway
        ⟨id, (s.gateway.registry.register id s.gateway.sinks.length).1, .connected, false⟩ rfl rfl
    rw [standing_eq hrest.1 hrest.2.1 hrest.2.2 (by
      rw [hgateway]
      exact hb.rank_register c id _), hgateway, hreserved, hlives, hsessions]
    by_cases hid : id = c
    · subst hid
      have hsome : (s.standing id).reserved ≠ 0 :=
        Nat.ne_of_gt (List.count_pos_iff.2 hmem)
      simp only [if_true, Option.elim, Standing.after, Standing.enroll, if_neg hsome,
        List.count_erase_self]
      rw [Standing.register]
      split <;> rfl
    · simp only [if_neg hid, Option.elim, List.count_erase_of_ne (Ne.symm hid)]
      rfl
  · have hsame : s.step (.enroll id m) = s := by simp [Traffic.step, hmem]
    rw [hsame]
    split
    · next hid =>
      have hnone : (s.standing c).reserved = 0 := List.count_eq_zero.2 (hid ▸ hmem)
      simp only [Option.elim, Standing.after, Standing.enroll, if_pos hnone]
    · rfl

/-- A frame changes nothing, or asks for topics. Who is registered is answered with the method, and
who is not finds the session closed. -/
theorem receive_cases {g : Gateway} {i : Nat} {x : Session} (data : Bytes)
    (hx : g.sessions[i]? = some x) :
    (∃ g', g.receive i data = (none, g') ∧ g'.registry = g.registry ∧ g'.sinks = g.sinks ∧
      g'.sessions = g.sessions ∧ ∀ (st : Standing) (j : Nat),
        st.sessions[j]? = some (x.state, x.finished) → st.receive j data = (none, st)) ∨
    ∃ f r, carryOut? g.registry x.id f = some (g.registry.contains x.id, r) ∧
      (g.receive i data = if g.registry.contains x.id then (some f.method, { g with registry := r })
        else (none, g.setState i .closed)) ∧
      ∀ (st : Standing) (j : Nat), st.sessions[j]? = some (x.state, x.finished) →
        st.receive j data = if Fate.registered st.lives
          then (some f.method, st.onLives (·.map (Life.onTopics (Standing.topicsAfter f))))
          else (none, { st with sessions := st.sessions.modify j fun x => (.closed, x.2) }) := by
  cases hstate : x.state with
  | closed =>
    refine Or.inl ⟨g, by simp [receive, hx, hstate], rfl, rfl, rfl, fun st j hj => ?_⟩
    simp [Standing.receive, hj]
  | connected =>
    cases hparse : ControlFrame.parse data with
    | error e =>
      refine Or.inl ⟨g.count .malformedFrames, by simp [receive, hx, hstate, hparse], rfl, rfl, rfl,
        fun st j hj => ?_⟩
      simp [Standing.receive, hj, hparse]
    | ok f =>
      cases hmethod : f.method with
      | unsupported word =>
        have hnone : carryOut? g.registry x.id f = none := by simp [carryOut?, hmethod]
        refine Or.inl ⟨g, by simp [receive, hx, hstate, hparse, hnone], rfl, rfl, rfl,
          fun st j hj => ?_⟩
        simp [Standing.receive, hj, hparse, hmethod]
      | subscribe | unsubscribe =>
        obtain ⟨r, hr⟩ : ∃ r, carryOut? g.registry x.id f =
            some (g.registry.contains x.id, r) := ⟨_, by simp only [carryOut?, hmethod]; rfl⟩
        refine Or.inr ⟨f, r, hr, ?_, fun st j hj => ?_⟩
        · simp only [receive, hx, hstate, hparse, hr]
          cases g.registry.contains x.id <;> rfl
        · simp only [Standing.receive, hj, hparse, hmethod]

theorem session_of_standing {i : Nat} {x : Session} (hx : s.gateway.sessions[i]? = some x)
    (hid : x.id = c) : (s.standing c).sessions[(pick i (s.gateway.session? c)).length]? =
      some (x.state, x.finished) :=
  getElem?_pick (List.getElem?_eq_some_iff.1 hx).1 (session?_own hx hid)

theorem Booked.registered_eq (hb : s.Booked) (c : ConnectionId) :
    Fate.registered (s.standing c).lives = s.gateway.registry.contains c :=
  (contains_eq_any hb.sound).symm

theorem follows_no_session {a : Act} {i : Nat} {e : Nat → Event}
    (hx : s.gateway.sessions[i]? = none)
    (hevent : s.event? c a = (ordinal? (s.gateway.session? c) i).map e)
    (hsame : (s.step a).standing c = s.standing c) : s.Follows c a := by
  rw [Follows, hevent, hsame, ordinal?_none (by simp [session?, hx])]
  rfl

/-- An act on a session, which changes the session and the lives of its connection. -/
theorem follows_session {a : Act} {i : Nat} {x : Session} {e : Nat → Event}
    (fl : List Life → List Life) (fs : SessionState × Bool → SessionState × Bool)
    (hx : s.gateway.sessions[i]? = some x)
    (hevent : s.event? c a = (ordinal? (s.gateway.session? c) i).map e)
    (hk : s.gateway.registry.Keeps (s.step a).gateway.registry)
    (hstep : (s.step a).settings = s.settings ∧ (s.step a).reserved = s.reserved ∧
      (s.step a).current = s.current ∧ (s.step a).past = s.past)
    (hlives : (s.step a).gateway.lives c =
      if x.id = c then fl (s.gateway.lives c) else s.gateway.lives c)
    (hsessions : (s.step a).gateway.sessionsOf c =
      if x.id = c then
        (s.gateway.sessionsOf c).modify (pick i (s.gateway.session? c)).length fs
      else s.gateway.sessionsOf c)
    (hafter : ∀ j, x.id = c → (s.standing c).sessions[j]? = some (x.state, x.finished) →
      (s.standing c).after (e j) =
        { s.standing c with
          lives := fl (s.gateway.lives c)
          sessions := (s.gateway.sessionsOf c).modify j fs }) : s.Follows c a := by
  obtain ⟨hsettings, hreserved, hcurrent, hpast⟩ := hstep
  rw [Follows, standing_of_keeps hk rfl hsettings hreserved hcurrent hpast, hevent, hlives,
    hsessions]
  by_cases hid : x.id = c
  · rw [if_pos hid, if_pos hid, ordinal?_own (session?_own hx hid)]
    exact (hafter _ hid (session_of_standing hx hid)).symm
  · rw [if_neg hid, if_neg hid, ordinal?_none (session?_other hx hid)]
    rfl

theorem Booked.follows_receive (hb : s.Booked) (c : ConnectionId) (i : Nat) (data : Bytes) :
    s.Follows c (.receive i data) := by
  have hkeeps := (ends_receive (g := s.gateway) i data).1.keeps
  have hgateway : (s.step (.receive i data)).gateway = (s.gateway.receive i data).2 := rfl
  cases hx : s.gateway.sessions[i]? with
  | none =>
    have hsame : s.step (.receive i data) = s := by simp [Traffic.step, receive, hx]
    exact follows_no_session hx rfl (by rw [hsame])
  | some x =>
    rcases receive_cases data hx with ⟨g', hr, hregistry, hsinks, hsessions, hst⟩ |
      ⟨f, r, hcarry, hr, hst⟩
    · refine follows_session id id hx rfl hkeeps ⟨rfl, rfl, rfl, rfl⟩ ?_ ?_ ?_
      · rw [hgateway, hr, lives_of_eq hregistry hsinks, id, ite_self]
      · rw [hgateway, hr, sessionsOf_congr hsessions, List.modify_id, ite_self]
      · intro j _ hj
        simp only [Standing.after, hst _ _ hj, List.modify_id]
        rfl
    · cases hcontains : s.gateway.registry.contains x.id with
      | true =>
        simp only [hcontains, if_true] at hr
        refine follows_session (·.map (Life.onTopics (Standing.topicsAfter f))) id hx rfl hkeeps
          ⟨rfl, rfl, rfl, rfl⟩ ?_ ?_ ?_
        · rw [hgateway, hr]
          exact lives_carryOut hcarry
        · rw [hgateway, hr, List.modify_id, ite_self]
          exact sessionsOf_congr rfl
        · intro j hid hj
          have hregistered := (hb.registered_eq c).trans (hid ▸ hcontains)
          simp only [Standing.after, hst _ _ hj, hregistered, if_true, List.modify_id]
          rfl
      | false =>
        simp only [hcontains, Bool.false_eq_true, if_false] at hr
        refine follows_session id (fun y => (.closed, y.2)) hx rfl hkeeps
          ⟨rfl, rfl, rfl, rfl⟩ ?_ ?_ ?_
        · rw [hgateway, hr, id, ite_self]
          rfl
        · rw [hgateway, hr]
          exact sessionsOf_modify hx (fun _ => rfl) fun _ => rfl
        · intro j hid hj
          have hregistered := (hb.registered_eq c).trans (hid ▸ hcontains)
          simp only [Standing.after, hst _ _ hj, hregistered]
          rfl

theorem Booked.note_receive (hb : s.Booked) (c : ConnectionId) (i : Nat) (data : Bytes) :
    s.note? c (.receive i data) = (s.event? c (.receive i data)).bind (s.standing c).note := by
  rw [note?, event?]
  cases hx : s.gateway.sessions[i]? with
  | none =>
    rw [ordinal?_none (by simp [session?, hx])]
    rfl
  | some x =>
    by_cases hid : x.id = c
    · have hsession := session_of_standing hx hid
      rw [ordinal?_own (session?_own hx hid)]
      simp only [Option.map_some, Option.bind_some, Standing.note, Option.some.injEq,
        Note.frame.injEq, true_and]
      rcases receive_cases data hx with ⟨g', hr, -, -, hsessions, hst⟩ | ⟨f, r, -, hr, hst⟩
      · rw [hr, hst _ _ hsession]
        simp [hsessions, hx, hsession]
      · rw [hr, hst _ _ hsession, hb.registered_eq c, hid]
        cases s.gateway.registry.contains c with
        | true => simp [hx, hsession, Standing.onLives]
        | false => simp [setState, hx, hsession]
    · rw [ordinal?_none (session?_other hx hid)]
      rfl

theorem Booked.follows_close (hb : s.Booked) (c : ConnectionId) (i : Nat) :
    s.Follows c (.close i) := by
  have hkeeps := (ends_closeSession (g := s.gateway) i).1.keeps
  have hgateway : (s.step (.close i)).gateway = s.gateway.closeSession i := rfl
  cases hx : s.gateway.sessions[i]? with
  | none =>
    have hsame : s.step (.close i) = s := by simp [Traffic.step, closing?, closeSession, hx]
    exact follows_no_session hx rfl (by rw [hsame])
  | some x =>
    cases hfinished : x.finished with
    | true =>
      have hclose : s.gateway.closeSession i = s.gateway.setState i .closed := by
        simp [closeSession, hx, hfinished]
      refine follows_session id (fun y => (.closed, y.2)) hx rfl hkeeps
        ⟨rfl, rfl, rfl, rfl⟩ ?_ ?_ ?_
      · rw [hgateway, hclose, id, ite_self]
        rfl
      · rw [hgateway, hclose]
        exact sessionsOf_modify hx (fun _ => rfl) fun _ => rfl
      · intro j _ hj
        simp only [Standing.after, Standing.close, hj, hfinished, if_true]
        rfl
    | false =>
      have hclose : s.gateway.closeSession i =
          { s.gateway with
            registry := (s.gateway.registry.unregister x.id).2
            sessions := s.gateway.sessions.modify i fun y =>
              { y with state := .closed, finished := true }
            metrics := s.gateway.metrics.bump .connectionsClosed } := by
        simp [closeSession, hx, hfinished]
      refine follows_session (·.map Life.ends) (fun _ => (.closed, true)) hx rfl
        hkeeps ⟨rfl, rfl, rfl, rfl⟩ ?_ ?_ ?_
      · rw [hgateway, hclose, ← lives_unregister hb.sound x.id]
        exact lives_of_eq rfl rfl
      · rw [hgateway, hclose]
        exact sessionsOf_modify hx (fun _ => rfl) fun _ => rfl
      · intro j _ hj
        simp only [Standing.after, Standing.close, hj, hfinished]
        rfl

theorem Booked.follows_retune (hb : s.Booked) (c : ConnectionId) (k : SinkId) (m : Manner) :
    s.Follows c (.retune k m) := by
  have hstep : (s.step (.retune k m)).standing c = _ := standing_of_keeps (s := s)
    (g := s.gateway.retune k fun _ => m) (Registry.Keeps.refl _) rfl rfl rfl rfl rfl
  rw [Follows, event?, hstep]
  cases hfind : s.gateway.registry.handles.findIdx? (fun x => x.sink == k && x.id == c) with
  | none =>
    -- The write side is nobody's, or another connection's.
    have hlives : (s.gateway.retune k fun _ => m).lives c = s.gateway.lives c := by
      refine lives_congr rfl fun j => ?_
      cases hx : s.gateway.registry.handles[j]? with
      | none => simp [life?, retune, hx]
      | some x =>
        by_cases hid : x.id = c
        · have hsink : k ≠ x.sink := by
            rintro rfl
            have hno := List.findIdx?_eq_none_iff.1 hfind x (List.mem_of_getElem? hx)
            simp [hid] at hno
          simp only [life?, retune, hx, Option.bind_some, List.getElem?_modify_ne _ _ hsink]
        · rw [life?_other hx hid, life?_other (g := s.gateway.retune k fun _ => m) hx hid]
    rw [hlives]
    rfl
  | some h =>
    obtain ⟨hlt, hx, -⟩ := List.findIdx?_eq_some_iff_getElem.1 hfind
    simp only [Bool.and_eq_true, beq_iff_eq] at hx
    have hlives := lives_sink (c := c) hb.fit (List.getElem?_eq_getElem hlt) fun s =>
      { s with toManner := m }
    rw [hx.1, hx.2, if_pos rfl] at hlives
    exact congrArg (fun ls => { s.standing c with lives := ls }) hlives

theorem follows_publish (s : Traffic) (c : ConnectionId) (m : Message) :
    s.Follows c (.publish m) := rfl

end Traffic

/-! ## Dispatches -/

section Launch

variable {g : Gateway} {c : ConnectionId}

theorem filterMap_own {β : Type} {es : List Registration} (hids : (es.map (·.id)).Nodup)
    (f : Registration → Option β) :
    es.filterMap (fun e => if e.id = c then f e else none) =
      ((es.find? (·.id == c)).bind f).toList := by
  induction es with
  | nil => rfl
  | cons e es ih =>
    rw [List.map_cons, List.nodup_cons] at hids
    by_cases hid : e.id = c
    · have hrest : es.filterMap (fun e => if e.id = c then f e else none) = [] := by
        refine List.filterMap_eq_nil_iff.2 fun e' he' => if_neg fun hid' => hids.1 ?_
        rw [hid, ← hid']
        exact List.mem_map_of_mem he'
      rw [List.filterMap_cons, hrest, List.find?_cons_of_pos (by simpa using hid), if_pos hid]
      cases h : f e <;> simp [h]
    · rw [List.filterMap_cons, if_neg hid, ih hids.2, List.find?_cons_of_neg (by simpa using hid)]

theorem findIdx?_wants (hr : g.registry.Sound) (t : Topic) :
    (g.lives c).findIdx? (fun l => l.topics.any (·.contains t)) =
      (g.registry.find? c).bind fun e =>
        if e.topics.contains t then some (g.registry.rank c e.handle) else none := by
  have hnone : (∀ e, g.registry.find? c = some e → e.topics.contains t = false) →
      (g.lives c).findIdx? (fun l => l.topics.any (·.contains t)) = none := by
    intro hno
    refine List.findIdx?_eq_none_iff.2 fun l hl => ?_
    obtain ⟨j, -, hlife⟩ := List.mem_filterMap.1 hl
    rw [topics_of_life? hlife, Registry.topicsWith?]
    cases he : g.registry.find? c with
    | none => rfl
    | some e =>
      rw [Option.filter_some]
      split
      · exact hno e he
      · rfl
  cases he : g.registry.find? c with
  | none => exact hnone fun e he' => by rw [he] at he'; simp at he'
  | some e =>
    by_cases hwants : e.topics.contains t = true
    · obtain ⟨x, hx, hid, -⟩ := hr.handle_of_find? he
      have hlt := (List.getElem?_eq_some_iff.1 hx).1
      rw [Option.bind_some, if_pos hwants, ← length_pick_life? (Nat.le_of_lt hlt)]
      refine findIdx?_pick hlt (life?_own hx hid) ?_ fun j hj l hl => ?_
      · simp only [Registry.topicsWith?, he, Option.filter_some, beq_self_eq_true, if_true,
          Option.map_some, Option.any_some, hwants]
      · have hne : ¬ e.handle = j := Nat.ne_of_gt hj
        rw [topics_of_life? hl]
        simp [Registry.topicsWith?, he, Option.filter_some, hne]
    · rw [Option.bind_some, if_neg hwants]
      refine hnone fun e' he' => ?_
      rw [he] at he'
      obtain rfl := Option.some.inj he'
      simpa using hwants

/-- A connection has a delivery if it wants the message, and then for the handle that it is
registered with. -/
theorem deliveries_launch (hr : g.registry.Sound) (settings : Settings) (m : Message) :
    let ds := (Flight.launch settings g m).deliveries
    pick ds.length (delivery? g.registry ds c) =
      (((g.lives c).findIdx? fun l => l.topics.any (·.contains m.topic)).map
        (·, Stage.waiting)).toList := by
  intro ds
  have hpick : pick ds.length (delivery? g.registry ds c) =
      ds.filterMap fun v => if v.id = c then some (g.registry.rank c v.handle, v.stage) else none :=
    pick_getElem? ds _
  have hentries : (ds.filterMap fun v =>
      if v.id = c then some (g.registry.rank c v.handle, v.stage) else none) =
      g.registry.entries.filterMap fun e => if e.id = c then
        (if e.topics.contains m.topic then some (g.registry.rank c e.handle, Stage.waiting)
          else none)
        else none := by
    simp only [ds, Flight.launch, Registry.matching, List.filterMap_filterMap, List.filterMap_map,
      List.filterMap_filter]
    refine List.filterMap_congr fun e he => ?_
    obtain ⟨x, hx, hid, -⟩ := hr.live e he
    simp only [Function.comp, hx, Option.map_some, hid]
    by_cases hwants : m.topic ∈ e.topics <;> by_cases hown : e.id = c <;>
      simp [hwants, hown]
  rw [hpick, hentries, filterMap_own hr.ids, findIdx?_wants hr]
  congr 1
  show (g.registry.find? c).bind _ = _
  cases g.registry.find? c with
  | none => rfl
  | some e =>
    simp only [Option.bind_some]
    split <;> rfl

end Launch

namespace Traffic

variable {s : Traffic} {c : ConnectionId}

theorem Booked.follows_take (hb : s.Booked) (c : ConnectionId) : s.Follows c .take := by
  rw [Follows, event?]
  cases hwaiting : s.waiting with
  | nil =>
    have hsame : s.step .take = s := by simp [Traffic.step, Traffic.takeNext, hwaiting]
    rw [hsame]
    split <;> rfl
  | cons m rest =>
    by_cases hlanded : s.landed = true
    · have htake : s.step .take = s.afterTake m rest := by
        simp only [Traffic.step, Traffic.takeNext, hwaiting, hlanded, if_true]
        rfl
      have hdeliveries := deliveries_launch (g := s.gateway.count .busMessages) (c := c) hb.sound
        s.settings m
      have hmessages : (s.afterTake m rest).dispatches.map (·.message) =
          s.dispatches.map (·.message) ++ [m] := by
        show List.map (fun d : Dispatched => d.message) (s.dispatches ++ [_]) = _
        rw [List.map_append]
        rfl
      rw [htake, if_pos hlanded]
      simp only [List.head?_cons, Option.map_some, Option.elim, Standing.after, Standing.dispatch,
        standing, hmessages]
      exact congrArg (fun ds => ({ s.standing c with
        deliveries := ds
        flight := some (s.settings, m.payload)
        messages := s.dispatches.map (·.message) ++ [m] } : Standing)) hdeliveries
    · have hsame : s.step .take = s := by simp [Traffic.step, Traffic.takeNext, hwaiting, hlanded]
      rw [hsame, if_neg hlanded]
      rfl

end Traffic

/-! ## Deliveries -/

namespace Traffic

variable {s : Traffic} {c : ConnectionId} {d : Dispatched} {k : Nat} {v : Delivery}

theorem inFlight_of_current (hcurrent : s.current = some d) :
    s.inFlight = d.flight.deliveries := by
  rw [inFlight, hcurrent]

theorem delivery_of_standing (hcurrent : s.current = some d)
    (hk : d.flight.deliveries[k]? = some v) (hown : v.id = c) :
    let j := (pick k (delivery? s.gateway.registry s.inFlight c)).length
    ordinal? (delivery? s.gateway.registry s.inFlight c) k = some j ∧
      (s.standing c).deliveries[j]? = some (s.gateway.registry.rank c v.handle, v.stage) := by
  have hk' : s.inFlight[k]? = some v := by rw [inFlight_of_current hcurrent, hk]
  have hdelivery : delivery? s.gateway.registry s.inFlight c k =
      some (s.gateway.registry.rank c v.handle, v.stage) := by
    rw [delivery?, hk', Option.bind_some, if_pos hown]
  exact ⟨ordinal?_own hdelivery, getElem?_pick (List.getElem?_eq_some_iff.1 hk').1 hdelivery⟩

theorem deliveries_move {r r' : Registry} {ds : List Delivery} (st : Stage)
    (hkeeps : r.Keeps r') (hk : ds[k]? = some v) :
    pick (ds.set k { v with stage := st }).length
        (delivery? r' (ds.set k { v with stage := st }) c) =
      if v.id = c then
        (pick ds.length (delivery? r ds c)).modify (pick k (delivery? r ds c)).length
          fun x => (x.1, st)
      else pick ds.length (delivery? r ds c) := by
  have hlt := (List.getElem?_eq_some_iff.1 hk).1
  have hother : ∀ j, j ≠ k →
      delivery? r' (ds.set k { v with stage := st }) c j = delivery? r ds c j := by
    intro j hj
    simp only [delivery?, List.getElem?_set_ne (Ne.symm hj), Registry.rank_of_keeps hkeeps]
  rw [List.length_set]
  split
  · next hown =>
    refine pick_modify hlt (b := (r.rank c v.handle, v.stage))
      (by rw [delivery?, hk, Option.bind_some, if_pos hown]) fun j _ => ?_
    split
    · next hj =>
      subst hj
      simp only [delivery?, List.getElem?_set_self hlt, hk, Option.bind_some, if_pos hown,
        Registry.rank_of_keeps hkeeps, Option.map_some]
    · next hj => exact hother j hj
  · next hno =>
    refine pick_congr fun j _ => ?_
    by_cases hj : j = k
    · subst hj
      simp only [delivery?, List.getElem?_set_self hlt, hk, Option.bind_some, if_neg hno]
    · exact hother j hj

/-- Where a connection stands after a move. -/
theorem Booked.standing_afterMove (hb : s.Booked) (hcurrent : s.current = some d)
    (hk : d.flight.deliveries[k]? = some v) :
    let after := v.move d.flight.settings d.flight.payload s.gateway
    (s.afterMove d k v).standing c =
      { s.standing c with
        lives := after.1.lives c
        deliveries :=
          if v.id = c then
            (s.standing c).deliveries.modify
              (pick k (delivery? s.gateway.registry s.inFlight c)).length
              fun x => (x.1, after.2.stage)
          else (s.standing c).deliveries } := by
  intro after
  have hflight := inFlight_of_current hcurrent
  obtain ⟨x, hx, hsink, -⟩ := hb.aimed_inFlight v (hflight ▸ List.mem_of_getElem? hk)
  obtain ⟨y, hy⟩ := hb.fit.held _ x hx
  obtain ⟨st, hst, -⟩ := Delivery.stage_move (g := s.gateway) (d := v) d.flight.settings
    d.flight.payload (hsink ▸ hy)
  have hkeeps := (Delivery.moveSpec d.flight.settings d.flight.payload s.gateway v).ends.keeps
  have hdeliveries := deliveries_move (c := c) st hkeeps hk
  have hafter : after.2 = { v with stage := st } := hst
  have hvisits : after.1.visits = s.gateway.visits := Delivery.visits_move
  have hsame : after.1.sessions = s.gateway.sessions := congrArg Prod.fst hvisits
  have hsessions : after.1.sessionsOf c = s.gateway.sessionsOf c := sessionsOf_congr hsame
  have hmessages : (s.afterMove d k v).dispatches.map (·.message) =
      s.dispatches.map (·.message) := by
    simp [dispatches, Traffic.afterMove, hcurrent, Dispatched.moved]
  have hset : (s.afterMove d k v).inFlight = s.inFlight.set k { v with stage := st } := by
    rw [inFlight_of_current (s := s.afterMove d k v) rfl, hflight, ← hst]
    rfl
  rw [← hflight] at hdeliveries
  have hgateway : (s.afterMove d k v).gateway = after.1 := rfl
  have hflying : (s.afterMove d k v).current.map (fun d => (d.flight.settings, d.flight.payload)) =
      s.current.map fun d => (d.flight.settings, d.flight.payload) := by
    rw [hcurrent]
    rfl
  simp only [standing, hmessages, hset, hgateway, hsessions, hflying, hafter]
  exact congrArg (fun ds => ({ s.standing c with
    lives := after.1.lives c
    deliveries := ds } : Standing)) hdeliveries

theorem step_move_none (hk : s.inFlight[k]? = none) : s.step (.move k) = s := by
  rcases moveDelivery_cases s k with hsame | ⟨d, v, hcurrent, hsome, -⟩
  · exact hsame
  · rw [inFlight_of_current hcurrent, hsome] at hk
    simp at hk

theorem current_of_inFlight (hk : s.inFlight[k]? = some v) :
    ∃ d, s.current = some d ∧ d.flight.deliveries[k]? = some v := by
  cases hcurrent : s.current with
  | none => simp [inFlight, hcurrent] at hk
  | some d => exact ⟨d, rfl, by rwa [inFlight_of_current hcurrent] at hk⟩

theorem step_move_some (hcurrent : s.current = some d) (hk : d.flight.deliveries[k]? = some v) :
    s.step (.move k) = s.afterMove d k v := by
  simp only [Traffic.step, moveDelivery, hcurrent, hk]
  rfl

theorem Booked.follows_move (hb : s.Booked) (c : ConnectionId) (k : Nat) :
    s.Follows c (.move k) := by
  rw [Follows, event?]
  cases hk : s.inFlight[k]? with
  | none =>
    rw [step_move_none hk, ordinal?_none (by rw [delivery?, hk]; rfl)]
    rfl
  | some v =>
    obtain ⟨d, hcurrent, hkd⟩ := current_of_inFlight hk
    have htells := tells_move (c := c) d.flight.settings d.flight.payload
      hb.fit (hb.aimed_inFlight v (List.mem_of_getElem? hk))
    rw [step_move_some hcurrent hkd, hb.standing_afterMove hcurrent hkd]
    by_cases hown : v.id = c
    · obtain ⟨hordinal, hdelivery⟩ := delivery_of_standing hcurrent hkd hown
      have hflight : (s.standing c).flight = some (d.flight.settings, d.flight.payload) := by
        simp only [standing, hcurrent, Option.map_some]
      obtain ⟨hlives, hstage⟩ := htells.own hown
      simp only [hordinal, Option.map_some, Option.elim, Standing.after, Standing.move, hflight,
        hdelivery, if_pos hown, hlives, hstage]
      rfl
    · rw [ordinal?_none (by rw [delivery?, hk, Option.bind_some, if_neg hown]), if_neg hown,
        htells.other hown]
      rfl

theorem Booked.note_move (hb : s.Booked) (c : ConnectionId) (k : Nat) :
    s.note? c (.move k) = (s.event? c (.move k)).bind (s.standing c).note := by
  rw [note?, event?]
  cases hk : s.inFlight[k]? with
  | none =>
    rw [ordinal?_none (by rw [delivery?, hk]; rfl)]
    cases hcurrent : s.current with
    | none => rfl
    | some d =>
      rw [inFlight_of_current hcurrent] at hk
      simp only [hk]
      rfl
  | some v =>
    obtain ⟨d, hcurrent, hkd⟩ := current_of_inFlight hk
    obtain ⟨x, hx, hsink, hid⟩ := hb.aimed_inFlight v (List.mem_of_getElem? hk)
    obtain ⟨y, hy⟩ := hb.fit.held _ x hx
    by_cases hown : v.id = c
    · obtain ⟨hordinal, hdelivery⟩ := delivery_of_standing hcurrent hkd hown
      have hflight : (s.standing c).flight = some (d.flight.settings, d.flight.payload) := by
        simp only [standing, hcurrent, Option.map_some]
      have hevicts : v.evicts d.flight.settings d.flight.payload s.gateway =
          (s.standing c).evicts (pick k (delivery? s.gateway.registry s.inFlight c)).length := by
        rw [evicts_eq (hsink ▸ hy), Standing.evicts, hflight, hdelivery]
        cases hstage : v.stage with
        | writing due ending =>
          have htells := tells_settle (c := c) d.flight.settings d.flight.payload
            hb.fit ⟨x, hx, hsink, hid⟩ due ending
          simp only [(htells.own hown).2]
          rfl
        | waiting | closing | ended => rfl
      simp only [hcurrent, hkd, hown, true_and, hevicts, hordinal, Option.map_some,
        Option.bind_some, Standing.note]
      have hnumber : (s.standing c).messages.length = s.dispatches.length := List.length_map _
      rw [hnumber]
    · rw [ordinal?_none (by rw [delivery?, hk, Option.bind_some, if_neg hown])]
      simp [hcurrent, hkd, hown]

/-! ## Runs -/

/-- Whatever happens, a connection stands where it can tell from what has happened to it. -/
theorem Booked.follows (hb : s.Booked) (c : ConnectionId) (a : Act) : s.Follows c a := by
  cases a with
  | reserve => exact follows_reserve s c
  | enroll id m => exact hb.follows_enroll c id m
  | receive i data => exact hb.follows_receive c i data
  | close i => exact hb.follows_close c i
  | register id m => exact hb.follows_register c id m
  | subscribe id ts => exact follows_subscribe s c id ts
  | unsubscribe id ts => exact follows_unsubscribe s c id ts
  | unregister id => exact hb.follows_unregister c id
  | retune k m => exact hb.follows_retune c k m
  | publish m => exact follows_publish s c m
  | take => exact hb.follows_take c
  | move k => exact hb.follows_move c k

/-- Whatever happens, a connection notices what it can tell from where it stands. -/
theorem Booked.note_eq (hb : s.Booked) (c : ConnectionId) (a : Act) :
    s.note? c a = (s.event? c a).bind (s.standing c).note := by
  cases a with
  | receive i data => exact hb.note_receive c i data
  | move k => exact hb.note_move c k
  | publish m => rfl
  -- Nothing else that happens to a connection answers it.
  | reserve | enroll | register | subscribe | unsubscribe | unregister =>
    show none = _
    rw [event?]
    split <;> rfl
  | close i =>
    show none = _
    rw [event?]
    cases ordinal? (s.gateway.session? c) i <;> rfl
  | retune k m =>
    show none = _
    rw [event?]
    cases s.gateway.registry.handles.findIdx? (fun x => x.sink == k && x.id == c) <;> rfl
  | take =>
    show none = _
    rw [event?]
    split
    · cases s.waiting.head? <;> rfl
    · rfl

/-- Where a connection stands in the end, and what it has noticed by then, can be told from what has
happened to it. -/
theorem Booked.run_follows (hb : s.Booked) (c : ConnectionId) (acts : List Act) :
    (s.run acts).standing c = (concerns c s acts).foldl Standing.after (s.standing c) ∧
      diary c s acts = (s.standing c).notes (concerns c s acts) := by
  induction acts generalizing s with
  | nil => exact ⟨rfl, rfl⟩
  | cons a acts ih =>
    have hrun : s.run (a :: acts) = (s.step a).run acts := rfl
    obtain ⟨hstanding, hdiary⟩ := ih (hb.step a)
    have hfollows := hb.follows c a
    rw [Follows] at hfollows
    rw [hrun, hstanding, concerns, diary, hdiary, hb.note_eq c a, hfollows]
    cases s.event? c a with
    | none => exact ⟨rfl, rfl⟩
    | some e => exact ⟨rfl, rfl⟩

theorem standing_start (settings : Settings) (c c' : ConnectionId) :
    (start settings).standing c = (start settings).standing c' := rfl

/-- Clients do not see each other: what has happened to a connection settles where it stands, the
answers to its frames, and when it was evicted, whatever the other connections are and do, and
whatever its id. -/
theorem isolated (settings : Settings) (c c' : ConnectionId) (acts acts' : List Act)
    (hsame : concerns c (start settings) acts = concerns c' (start settings) acts') :
    ((start settings).run acts).standing c = ((start settings).run acts').standing c' ∧
      diary c (start settings) acts = diary c' (start settings) acts' := by
  obtain ⟨hstanding, hdiary⟩ := (booked_start settings).run_follows c acts
  obtain ⟨hstanding', hdiary'⟩ := (booked_start settings).run_follows c' acts'
  rw [hstanding, hdiary, hstanding', hdiary', hsame, standing_start settings c c']
  exact ⟨rfl, rfl⟩

/-- A client alone, and the same client beside one that hangs until it is evicted and one that sends
rubbish, breaks down and leaves. It takes the first message and is evicted with the third. -/
theorem alone_or_in_company :
    let btc := Topic.ofString "BTCUSDT"
    let ask := Text.Utf8.encode "\x7b\"method\":\"SUBSCRIBE\",\"params\":[\"BTCUSDT\"]\x7d"
    let settings : Settings := { maxFailures := 2 }
    let message := fun n : UInt8 => Act.publish ⟨btc, [n]⟩
    let alone : List Act := [.reserve, .enroll 1 {}, .receive 0 ask,
      message 1, message 2, message 3, .take, .move 0, .move 0, .retune 0 { failures := .always },
      .take, .move 0, .move 0, .take, .move 0, .move 0, .move 0, .receive 0 ask]
    let company : List Act := [.reserve, .enroll 1 { writing := .never }, .reserve, .reserve,
      .enroll 3 { writing := .breaks 0 }, .subscribe 1 [btc], .receive 1 [], .enroll 2 {},
      .subscribe 3 [btc], .receive 2 ask, message 1, message 2, message 3,
      .take, .move 0, .move 1, .move 2, .move 0, .move 1, .move 2, .close 1,
      .retune 2 { failures := .always }, .take, .move 0, .move 1, .move 1, .move 0, .move 0,
      .take, .move 0, .move 0, .move 0, .receive 2 ask]
    concerns 1 (start settings) alone = concerns 2 (start settings) company ∧
      ((start settings).run alone).standing 1 = ((start settings).run company).standing 2 ∧
      diary 1 (start settings) alone = diary 2 (start settings) company ∧
      ((start settings).run company).gateway.registry.entries = [] ∧
      (((start settings).run company).standing 2).lives.map (·.sink.received) = [[[1]]] ∧
      diary 2 (start settings) company = [.frame 0 (some .subscribe) (some .connected),
        .evicted 3, .frame 0 none (some .closed)] := by
  intro btc ask settings message alone company
  have hsame : concerns 1 (start settings) alone = concerns 2 (start settings) company := by
    decide +kernel
  obtain ⟨hstanding, hdiary⟩ := isolated settings 1 2 alone company hsame
  exact ⟨hsame, hstanding, hdiary, by decide +kernel, by decide +kernel, by decide +kernel⟩

end Traffic

end CandleRelay.Gateway
