import CandleRelay.Proofs.Traffic.Delivery
import Mathlib.Data.List.Perm.Subperm

/-!
# Clients that came and went

A gateway counts the clients that come and those that go, and the difference is what it shows as
its active connections. A registration can end without its session: a delivery may evict the
connection, and others may take it out of the registry. The session goes on until it is closed, and
only then is its client counted as gone, once, however often it is closed.

What is proved:
  1. `Accounted`: the clients that came are the sessions, those that went are the closed sessions,
     and whoever is registered has a session that is not closed. One act keeps this
     (`accounted_step`), as long as nobody is registered but with a session of their own.
  2. `closed_run`: a session is closed just when it was asked to close since it was opened.
  3. `counts_open_sessions`: the figures of a gateway in every state of every run, and what is left
     when all sessions are closed: nobody and nothing.
-/

namespace CandleRelay.Gateway

/-! ## Sessions and their figures -/

/-- Whose each session is, and whether it has been closed. -/
def roll (g : Gateway) : List (ConnectionId × Bool) := g.sessions.map fun x => (x.id, x.finished)

/-- The figures of a gateway agree with its sessions. -/
structure Accounted (g : Gateway) : Prop where
  opened : g.metrics.connectionsOpened = g.roll.length
  closed : g.metrics.connectionsClosed = g.roll.countP (·.2)
  /-- Whoever is registered has a session that is not closed. -/
  belongs : ∀ c h, g.registry.handle? c = some h → (c, false) ∈ g.roll

variable {g g' : Gateway}

theorem getElem?_roll (g : Gateway) (i : Nat) :
    g.roll[i]? = (g.sessions[i]?).map fun x => (x.id, x.finished) := List.getElem?_map

theorem roll_of_visits (h : g'.visits = g.visits) : g'.roll = g.roll := by
  rw [roll, roll, show g'.sessions = g.sessions from congrArg Prod.fst h]

theorem Accounted.of_same (ha : g.Accounted) (hroll : g'.roll = g.roll)
    (hopened : g'.metrics.connectionsOpened = g.metrics.connectionsOpened)
    (hclosed : g'.metrics.connectionsClosed = g.metrics.connectionsClosed)
    (hheld : ∀ c h, g'.registry.handle? c = some h → g.registry.handle? c = some h) :
    g'.Accounted := by
  refine ⟨by rw [hopened, hroll, ha.opened], by rw [hclosed, hroll, ha.closed], ?_⟩
  intro c h hc
  rw [hroll]
  exact ha.belongs c h (hheld c h hc)

theorem Accounted.of_visits (ha : g.Accounted) (hvisits : g'.visits = g.visits)
    (hheld : ∀ c h, g'.registry.handle? c = some h → g.registry.handle? c = some h) :
    g'.Accounted :=
  ha.of_same (roll_of_visits hvisits) (congrArg (·.2.1) hvisits) (congrArg (·.2.2) hvisits) hheld

/-! ## Frames -/

theorem roll_setState (i : Nat) (state : SessionState) : (g.setState i state).roll = g.roll := by
  refine List.ext_getElem? fun j => ?_
  rw [getElem?_roll, getElem?_roll, setState, List.getElem?_modify]
  cases g.sessions[j]? with
  | none => rfl
  | some x =>
    simp only [Option.map_some]
    split <;> rfl

theorem roll_receive (i : Nat) (data : Bytes) :
    (g.receive i data).2.roll = g.roll ∧
      (g.receive i data).2.metrics.connectionsOpened = g.metrics.connectionsOpened ∧
      (g.receive i data).2.metrics.connectionsClosed = g.metrics.connectionsClosed := by
  unfold receive
  split
  · exact ⟨rfl, rfl, rfl⟩
  split
  · exact ⟨rfl, rfl, rfl⟩
  split
  · exact ⟨rfl, rfl, rfl⟩
  split
  · exact ⟨rfl, rfl, rfl⟩
  · exact ⟨rfl, rfl, rfl⟩
  · exact ⟨roll_setState i .closed, rfl, rfl⟩

/-! ## Opening and closing -/

theorem roll_enroll (id : ConnectionId) (k : Sink) :
    (g.enroll id k).2.roll = g.roll ++ [(id, false)] := by
  simp [enroll, roll]

theorem Accounted.enroll (ha : g.Accounted) (id : ConnectionId) (k : Sink) :
    ((g.enroll id k).2).Accounted := by
  refine ⟨?_, ?_, ?_⟩
  · show g.metrics.connectionsOpened + 1 = _
    rw [roll_enroll, List.length_append, ha.opened]
    rfl
  · show g.metrics.connectionsClosed = _
    rw [roll_enroll, List.countP_append, ha.closed]
    rfl
  · intro c h hc
    have hc : (g.registry.register id g.sinks.length).2.handle? c = some h := hc
    rw [Registry.handle?, Registry.find?_register] at hc
    rw [roll_enroll]
    split at hc
    · next hid =>
      rw [hid]
      exact List.mem_append_right _ (List.mem_singleton.2 rfl)
    · exact List.mem_append_left _ (ha.belongs c h hc)

theorem roll_closeSession (i : Nat) :
    (g.closeSession i).roll = g.roll.modify i fun p => (p.1, true) := by
  refine List.ext_getElem? fun j => ?_
  rw [List.getElem?_modify, getElem?_roll, getElem?_roll, closeSession]
  cases hi : g.sessions[i]? with
  | none =>
    by_cases hij : i = j
    · subst hij
      simp [hi]
    · simp [hij]
  | some x =>
    cases hx : x.finished
    · simp only [hx, Bool.false_eq_true, ite_false, List.getElem?_modify]
      by_cases hij : i = j
      · subst hij
        simp [hi]
      · simp [hij]
    · simp only [hx, ite_true]
      rw [← getElem?_roll, roll_setState, getElem?_roll]
      by_cases hij : i = j
      · subst hij
        simp [hi, hx]
      · simp [hij]

theorem Accounted.closeOpen (ha : g.Accounted) {i : Nat} {x : Session}
    (hi : g.sessions[i]? = some x) (hx : x.finished = false) : (g.closeSession i).Accounted := by
  have hends := (ends_closeSession (g := g) i).1
  have hat : g.roll[i]? = some (x.id, false) := by rw [getElem?_roll, hi, ← hx]; rfl
  obtain ⟨hlt, hget⟩ := List.getElem?_eq_some_iff.1 hat
  have hset : (g.closeSession i).roll = g.roll.set i (x.id, true) := by
    rw [roll_closeSession, List.modify_eq_set_getElem?, hat]
    rfl
  have hmetrics : (g.closeSession i).metrics = g.metrics.bump .connectionsClosed := by
    simp [Gateway.closeSession, hi, hx]
  refine ⟨?_, ?_, ?_⟩
  · rw [hmetrics, hset, List.length_set]
    exact ha.opened
  · rw [hmetrics, hset, List.countP_set hlt, hget]
    exact congrArg (· + 1) ha.closed
  · intro c h hc
    -- The registration of the session's own connection is over, and others have other sessions.
    have hcloses : Traffic.closing? g i =
        some ⟨.session i, x.id, (g.registry.unregister x.id).1⟩ := by
      simp [Traffic.closing?, hi, hx]
    rw [hends.holds, hcloses] at hc
    split at hc
    · simp at hc
    · next hne =>
      obtain ⟨j, hj⟩ := List.mem_iff_getElem?.1 (ha.belongs c h hc)
      have hij : i ≠ j := by
        rintro rfl
        rw [hat] at hj
        have hid : x.id = c := congrArg Prod.fst (Option.some.inj hj)
        exact hne (by simp [hid])
      rw [hset]
      exact List.mem_of_getElem? ((List.getElem?_set_ne hij).trans hj)

theorem Accounted.closeSession (ha : g.Accounted) (i : Nat) : (g.closeSession i).Accounted := by
  cases hi : g.sessions[i]? with
  | none =>
    have hsame : g.closeSession i = g := by simp only [Gateway.closeSession, hi]
    rwa [hsame]
  | some x =>
    cases hx : x.finished with
    | true =>
      have hstate : g.closeSession i = g.setState i .closed := by
        simp only [Gateway.closeSession, hi, hx, ite_true]
      rw [hstate]
      exact ha.of_same (roll_setState i .closed) rfl rfl fun _ _ hc => hc
    | false => exact ha.closeOpen hi hx

/-! ## Runs -/

namespace Traffic

variable {s : Traffic} {a : Act}

/-- The sessions after an act. -/
def rollAfter (s : Traffic) : Act → List (ConnectionId × Bool)
  | .enroll id _ => if id ∈ s.reserved then s.gateway.roll ++ [(id, false)] else s.gateway.roll
  | .close i => s.gateway.roll.modify i fun p => (p.1, true)
  | _ => s.gateway.roll

/-- Sessions are opened and closed by what is meant to do so, and by nothing else. -/
theorem roll_step (s : Traffic) (a : Act) : (s.step a).gateway.roll = s.rollAfter a := by
  cases a with
  | enroll id manner =>
    simp only [Traffic.step, rollAfter]
    split
    · exact roll_enroll id _
    · rfl
  | receive i data => exact (roll_receive i data).1
  | close i => exact roll_closeSession i
  | take =>
    show s.takeNext.gateway.roll = s.gateway.roll
    rcases takeNext_cases s with hsame | ⟨m, rest, -, -, htake⟩
    · rw [hsame]
    · rw [htake]
      rfl
  | move k =>
    show (s.moveDelivery k).gateway.roll = s.gateway.roll
    rcases moveDelivery_cases s k with hsame | ⟨d, old, -, -, hmove⟩
    · rw [hsame]
    · rw [hmove]
      exact roll_of_visits Delivery.visits_move
  | _ => rfl

/-- The accounts are kept by every act but a registration without a session. -/
theorem accounted_step (ha : s.gateway.Accounted) (hregister : ∀ id m, a ≠ .register id m) :
    (s.step a).gateway.Accounted := by
  cases a with
  | register id manner => exact absurd rfl (hregister id manner)
  | enroll id manner =>
    simp only [Traffic.step]
    split
    · exact ha.enroll id _
    · exact ha
  | receive i data =>
    obtain ⟨hroll, hopened, hclosed⟩ := roll_receive (g := s.gateway) i data
    exact ha.of_same hroll hopened hclosed fun _ _ hc => (ends_receive i data).1.held hc
  | close i => exact ha.closeSession i
  | subscribe id topics =>
    exact ha.of_visits rfl fun _ _ hc => (Registry.ends_subscribe topics).held hc
  | unsubscribe id topics =>
    exact ha.of_visits rfl fun _ _ hc => (Registry.ends_unsubscribe topics).held hc
  | unregister id =>
    exact ha.of_visits rfl fun _ _ hc => (Registry.ends_unregister .outside).held hc
  | take =>
    show s.takeNext.gateway.Accounted
    rcases takeNext_cases s with hsame | ⟨m, rest, -, -, htake⟩
    · rwa [hsame]
    · rw [htake]
      exact ha.of_visits rfl fun _ _ hc => hc
  | move k =>
    show (s.moveDelivery k).gateway.Accounted
    rcases moveDelivery_cases s k with hsame | ⟨d, old, -, -, hmove⟩
    · rwa [hsame]
    · rw [hmove]
      exact ha.of_visits Delivery.visits_move fun _ _ hc =>
        (Delivery.moveSpec _ _ _ old).ends.held hc
  | reserve | retune k manner | publish m => exact ha.of_visits rfl fun _ _ hc => hc

theorem accounted_run (settings : Settings) (acts : List Act)
    (hregister : ∀ id m, Act.register id m ∉ acts) :
    ((start settings).run acts).gateway.Accounted := by
  induction acts using List.reverseRecOn with
  | nil =>
    refine ⟨rfl, rfl, ?_⟩
    intro c h hc
    have hc : (none : Option HandleId) = some h := hc
    simp at hc
  | append_singleton acts a ih =>
    rw [run_concat]
    refine accounted_step (ih fun id m hmem => hregister id m (List.mem_append_left _ hmem)) ?_
    rintro id m rfl
    exact hregister id m (by simp)

/-! ## Closed sessions -/

/-- Whether a session was asked to close, once or more, after it was opened. -/
def ClosedIn (settings : Settings) (acts : List Act) (i : Nat) : Prop :=
  ∃ before after, acts = before ++ .close i :: after ∧
    i < ((start settings).run before).gateway.sessions.length

theorem closedIn_concat {settings : Settings} {acts : List Act} {i : Nat} :
    ClosedIn settings (acts ++ [a]) i ↔ ClosedIn settings acts i ∨
      a = .close i ∧ i < ((start settings).run acts).gateway.sessions.length :=
  exists_split_concat

theorem length_roll (g : Gateway) : g.roll.length = g.sessions.length := List.length_map _

theorem closed_rollAfter (s : Traffic) (a : Act) (i : Nat) :
    (∃ c, (s.rollAfter a)[i]? = some (c, true)) ↔
      (∃ c, s.gateway.roll[i]? = some (c, true)) ∨
        a = .close i ∧ i < s.gateway.sessions.length := by
  cases a with
  | enroll id manner =>
    simp only [rollAfter]
    split
    · constructor
      · rintro ⟨c, hc⟩
        rw [List.getElem?_append] at hc
        split at hc
        · exact Or.inl ⟨c, hc⟩
        · have hnew := List.mem_singleton.1 (List.mem_of_getElem? hc)
          simp at hnew
      · rintro (⟨c, hc⟩ | ⟨hclose, -⟩)
        · exact ⟨c, (List.getElem?_append_left (List.getElem?_eq_some_iff.1 hc).1).trans hc⟩
        · simp at hclose
    · simp
  | close j =>
    simp only [rollAfter, List.getElem?_modify]
    by_cases hij : j = i
    · subst hij
      rw [← length_roll]
      constructor
      · rintro ⟨c, hc⟩
        obtain ⟨p, hp, -⟩ := Option.map_eq_some_iff.1 hc
        exact Or.inr ⟨rfl, (List.getElem?_eq_some_iff.1 hp).1⟩
      · rintro (⟨c, hc⟩ | ⟨-, hlt⟩)
        · exact ⟨c, by simp [hc]⟩
        · exact ⟨(s.gateway.roll[j]).1, by simp [hlt]⟩
    · simp [hij]
  | _ => simp [rollAfter]

/-- The sessions that are closed are those that were asked to close since they were opened. -/
theorem closed_run (settings : Settings) (acts : List Act) (i : Nat) :
    (∃ c, ((start settings).run acts).gateway.roll[i]? = some (c, true)) ↔
      ClosedIn settings acts i := by
  induction acts using List.reverseRecOn with
  | nil =>
    constructor
    · rintro ⟨c, hc⟩
      simp [run, start, roll] at hc
    · rintro ⟨before, after, hacts, -⟩
      simp at hacts
  | append_singleton acts a ih =>
    rw [run_concat, roll_step, closedIn_concat, ← ih]
    exact closed_rollAfter _ a i

/-! ## What follows -/

/-- The sessions that are not closed. -/
def openSessions (g : Gateway) : List Session := g.sessions.filter (!·.finished)

theorem countP_roll (g : Gateway) : g.roll.countP (·.2) = g.sessions.countP (·.finished) :=
  List.countP_map

theorem mem_roll_iff {g : Gateway} {c : ConnectionId} :
    (c, false) ∈ g.roll ↔ ∃ x ∈ openSessions g, x.id = c := by
  rw [roll, List.mem_map]
  constructor
  · rintro ⟨x, hx, heq⟩
    obtain ⟨rfl, hfinished⟩ := Prod.mk.inj heq
    exact ⟨x, List.mem_filter.2 ⟨hx, by simp [hfinished]⟩, rfl⟩
  · rintro ⟨x, hx, rfl⟩
    obtain ⟨hx, hfinished⟩ := List.mem_filter.1 hx
    exact ⟨x, hx, by simpa using hfinished⟩

theorem balance_of_accounted {g : Gateway} (ha : g.Accounted) :
    g.metrics.connectionsOpened = g.metrics.connectionsClosed + (openSessions g).length := by
  rw [ha.opened, ha.closed, length_roll, countP_roll, openSessions, ← List.countP_eq_length_filter]
  simpa using List.length_eq_countP_add_countP (l := g.sessions) (·.finished)

/-- There are no more registrations than sessions that are not closed: each has one of its own. -/
theorem size_le_openSessions {g : Gateway} (ha : g.Accounted) (hr : g.registry.Sound) :
    g.registry.size ≤ (openSessions g).length := by
  have hsubset : g.registry.entries.map (·.id) ⊆ (openSessions g).map (·.id) := by
    intro c hc
    obtain ⟨e, he, rfl⟩ := List.mem_map.1 hc
    have hheld : g.registry.handle? e.id = some e.handle := by
      rw [Registry.handle?, hr.find?_of_mem he]
      rfl
    obtain ⟨x, hx, hid⟩ := mem_roll_iff.1 (ha.belongs _ _ hheld)
    exact List.mem_map.2 ⟨x, hx, hid⟩
  have hle := (List.subperm_of_subset hr.ids hsubset).length_le
  rwa [List.length_map, List.length_map] at hle

/-- The figures of a gateway are those of its sessions. -/
structure CountsOpenSessions (settings : Settings) (acts : List Act) (g : Gateway) : Prop where
  /-- A session is closed just when it was asked to close since it was opened. -/
  finished : ∀ (i : Nat) (x : Session), g.sessions[i]? = some x →
    (x.finished = true ↔ ClosedIn settings acts i)
  /-- No more clients have gone than came; the others have the sessions that are not closed. -/
  balance : g.metrics.connectionsOpened = g.metrics.connectionsClosed + (openSessions g).length
  active : g.metrics.activeConnections = (openSessions g).length
  size : g.registry.size ≤ g.metrics.activeConnections
  /-- Whoever is registered has a session that is not closed. -/
  belongs : ∀ c, g.registry.contains c = true → ∃ x ∈ openSessions g, x.id = c
  /-- When all sessions are closed nothing is left, whatever ended the registrations. -/
  rest : (∀ i < g.sessions.length, ClosedIn settings acts i) →
    g.registry.entries = [] ∧ g.registry.subscriptionCount = 0 ∧ g.metrics.activeConnections = 0

/-- In every state of every run in which connections are registered only when clients come, the
active connections are the sessions that are not closed, and cover the registry. -/
theorem counts_open_sessions (settings : Settings) (acts : List Act)
    (hregister : ∀ id m, Act.register id m ∉ acts) :
    CountsOpenSessions settings acts ((start settings).run acts).gateway := by
  have ha := accounted_run settings acts hregister
  have hr := (booked_run settings acts).sound
  have hclosed := closed_run settings acts
  generalize ((start settings).run acts).gateway = g at ha hr hclosed
  have hbalance := balance_of_accounted ha
  have hactive : g.metrics.activeConnections = (openSessions g).length := by
    rw [Metrics.activeConnections, hbalance, Nat.add_sub_cancel_left]
  have hsize : g.registry.size ≤ g.metrics.activeConnections :=
    hactive ▸ size_le_openSessions ha hr
  have hfinished : ∀ (i : Nat) (x : Session), g.sessions[i]? = some x →
      (x.finished = true ↔ ClosedIn settings acts i) := by
    intro i x hx
    rw [← hclosed i, getElem?_roll, hx]
    simp
  refine ⟨hfinished, hbalance, hactive, hsize, ?_, ?_⟩
  · intro c hc
    obtain ⟨e, he⟩ := Option.isSome_iff_exists.1 hc
    exact mem_roll_iff.1 (ha.belongs c e.handle (by rw [Registry.handle?, he]; rfl))
  · intro hall
    have hnone : openSessions g = [] := by
      rw [openSessions, List.filter_eq_nil_iff]
      intro x hx
      obtain ⟨i, hi⟩ := List.mem_iff_getElem?.1 hx
      simp [(hfinished i x hi).2 (hall i (List.getElem?_eq_some_iff.1 hi).1)]
    have hzero : g.metrics.activeConnections = 0 := by rw [hactive, hnone]; rfl
    have hempty : g.registry.entries = [] := by
      rw [hzero] at hsize
      exact List.length_eq_zero_iff.1 (Nat.le_zero.1 hsize)
    exact ⟨hempty, by rw [Registry.subscriptionCount, hempty]; rfl, hzero⟩

/-- Of three clients one is evicted and one is taken out by others: a session is closed twice, and
its client is counted once. When all sessions are closed nothing is left. -/
theorem counts_two_open_sessions :
    let btc := Topic.ofString "BTCUSDT"
    let acts : List Act := [.reserve, .enroll 1 { failures := .always }, .reserve, .enroll 2 {},
      .reserve, .enroll 3 {}, .subscribe 1 [btc], .subscribe 3 [btc], .publish ⟨btc, []⟩, .take,
      .move 0, .move 0, .unregister 2, .close 0, .close 0]
    let g := ((start {}).run acts).gateway
    let later := acts ++ [.close 1, .close 2]
    (∀ id m, Act.register id m ∉ later) ∧
      (g.registry.size = 1 ∧ g.metrics.connectionsClosed = 1 ∧ g.metrics.activeConnections = 2) ∧
      CountsOpenSessions {} acts g ∧
      (∀ i < 3, ClosedIn {} later i) ∧
      CountsOpenSessions {} later ((start {}).run later).gateway := by
  intro btc acts g later
  have hregister : ∀ id m, Act.register id m ∉ later := by simp [later, acts]
  have hbefore : ∀ id m, Act.register id m ∉ acts :=
    fun id m hmem => hregister id m (List.mem_append_left _ hmem)
  have hcounts := counts_open_sessions {} later hregister
  refine ⟨hregister, by decide, counts_open_sessions {} acts hbefore, ?_, hcounts⟩
  have hclosed : ∀ i < 3, (((start {}).run later).gateway.sessions[i]?.map (·.finished)) =
      some true := by decide
  intro i hi
  obtain ⟨x, hx, hfinished⟩ := Option.map_eq_some_iff.1 (hclosed i hi)
  exact (hcounts.finished i x hx).1 hfinished

end Traffic

end CandleRelay.Gateway
