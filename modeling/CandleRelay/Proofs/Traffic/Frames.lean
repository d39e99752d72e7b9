import CandleRelay.Proofs.Traffic.Delivery

/-!
# Frames and the sessions that take them

A session goes by its own state, and that lags behind the registry. A connection that was evicted,
or that others took out, has a session that stays connected, through any number of frames that say
nothing, until it is closed or a request of its client finds nobody to carry it out for.

What is proved:
  1. `carriedOut_of_carryOut?`: a request that is carried out changes the topics of one connection,
     and nothing else.
  2. `received`: everything that may come of a frame, and when.
  3. `Traffic.goes_step`: which acts close a session. A closed session stays so
     (`Traffic.closed_forever`).
  4. `Traffic.sessions_take_frames`: what frames do in every state of every run.
-/

namespace CandleRelay.Gateway

/-! ## Requests -/

namespace Method

/-- A method that can be carried out. -/
def Supported : Method → Prop
  | .subscribe | .unsubscribe => True
  | .unsupported _ => False

/-- The topics that a connection has after a request, by those that it had and those that the
request names: the union, or the difference. -/
def Leaves (had named after : List Topic) : Method → Prop
  | .subscribe => ∀ t, t ∈ after ↔ t ∈ had ∨ t ∈ named
  | .unsubscribe => ∀ t, t ∈ after ↔ t ∈ had ∧ t ∉ named
  | .unsupported _ => False

end Method

theorem ControlFrame.topics_nonempty {data : Bytes} {f : ControlFrame} (h : parse data = .ok f) :
    ∀ t ∈ f.topics, t.isEmpty = false := by
  unfold parse at h
  split at h
  · next f' hf =>
    obtain rfl := Except.ok.inj h
    obtain ⟨d, -, hd⟩ := Option.bind_eq_some_iff.1 hf
    simp only [ofDoc?, Option.bind_eq_bind, Option.bind_eq_some_iff] at hd
    obtain ⟨r, -, word, -, params, -, hd⟩ := hd
    split at hd
    · obtain rfl := Option.some.inj hd
      intro t ht
      simpa using (List.mem_filter.1 ht).2
    · cases hd
  · cases h

/-! ## One connection's topics -/

namespace Registry

/-- The registry with other topics for a connection. -/
def withTopics (r : Registry) (id : ConnectionId) (topics : List Topic) : Registry :=
  { r with entries := r.entries.map fun e => if e.id = id then { e with topics } else e }

variable {r : Registry} {id : ConnectionId} {e : Registration}

theorem Sound.update_eq (hr : r.Sound) (he : r.find? id = some e) (f : Registration → Registration)
    (hf : ∀ e, f e = { e with topics := (f e).topics }) :
    (r.update id f).2 = r.withTopics id (f e).topics := by
  have hentry : ∀ e' ∈ r.entries, (if e'.id == id then f e' else e') =
      if e'.id = id then { e' with topics := (f e).topics } else e' := by
    intro e' hmem
    by_cases hid : e'.id = id
    · have hsame : some e' = some e := by rw [← hr.find?_of_mem hmem, hid, he]
      rw [Option.some.inj hsame, if_pos (by simp [id_of_find? he]), if_pos (id_of_find? he), hf e]
    · rw [if_neg (by simpa using hid), if_neg hid]
  rw [Registry.update, withTopics, List.map_congr_left hentry]

end Registry

/-- A request was carried out for a connection: it was registered, the topics that it has now are
those that the request leaves it with, and nothing else in the gateway has changed. -/
def CarriedOut (g : Gateway) (id : ConnectionId) (f : ControlFrame) (g' : Gateway) : Prop :=
  ∃ e topics, g.registry.find? id = some e ∧ topics.Nodup ∧
    f.method.Leaves e.topics f.topics topics ∧
    g' = { g with registry := g.registry.withTopics id topics }

variable {g : Gateway} {i : Nat} {x : Session} {data : Bytes}

/-- A request for a supported method is answered with whether the connection is registered. -/
theorem carryOut?_cases (r : Registry) (id : ConnectionId) (f : ControlFrame) :
    (¬ f.method.Supported ∧ carryOut? r id f = none) ∨
      f.method.Supported ∧ ∃ r', carryOut? r id f = some (r.contains id, r') := by
  unfold carryOut?
  cases f.method with
  | subscribe => exact Or.inr ⟨trivial, _, rfl⟩
  | unsubscribe => exact Or.inr ⟨trivial, _, rfl⟩
  | unsupported word => exact Or.inl ⟨not_false, rfl⟩

theorem carriedOut_of_carryOut? {id : ConnectionId} {f : ControlFrame} {r : Registry}
    (hr : g.registry.Sound) (hnamed : ∀ t ∈ f.topics, t.isEmpty = false)
    (h : carryOut? g.registry id f = some (true, r)) :
    g.CarriedOut id f { g with registry := r } := by
  unfold carryOut? at h
  split at h
  · next hmethod =>
    obtain ⟨hcontains, rfl⟩ := Prod.mk.inj (Option.some.inj h)
    obtain ⟨e, he⟩ := Option.isSome_iff_exists.1 hcontains
    refine ⟨e, (e.add f.topics).topics, he, Registry.nodup_eraseDups _, ?_, ?_⟩
    · rw [hmethod]
      intro t
      rw [Registry.mem_add]
      exact or_congr_right ⟨And.left, fun ht => ⟨ht, hnamed t ht⟩⟩
    · rw [← hr.update_eq he (·.add f.topics) fun _ => rfl]
      rfl
  · next hmethod =>
    obtain ⟨hcontains, rfl⟩ := Prod.mk.inj (Option.some.inj h)
    obtain ⟨e, he⟩ := Option.isSome_iff_exists.1 hcontains
    have hnodup := (hr.topics e (Registry.mem_of_find? he)).1
    refine ⟨e, (e.drop f.topics).topics, he, hnodup.filter _, ?_, ?_⟩
    · rw [hmethod]
      exact fun t => Registry.mem_drop
    · rw [← hr.update_eq he (·.drop f.topics) fun _ => rfl]
      rfl
  · cases h

/-! ## What comes of a frame -/

section

variable {f : ControlFrame}

theorem receive_closed (hx : g.sessions[i]? = some x) (hstate : x.state = .closed) :
    g.receive i data = (none, g) := by
  simp [receive, hx, hstate]

theorem receive_malformed_frame (hx : g.sessions[i]? = some x) (hstate : x.state = .connected)
    {error : ControlError} (hparse : ControlFrame.parse data = .error error) :
    g.receive i data = (none, g.count .malformedFrames) := by
  simp [receive, hx, hstate, hparse]

theorem receive_unsupported (hx : g.sessions[i]? = some x) (hstate : x.state = .connected)
    (hparse : ControlFrame.parse data = .ok f) (hrequest : carryOut? g.registry x.id f = none) :
    g.receive i data = (none, g) := by
  simp [receive, hx, hstate, hparse, hrequest]

theorem receive_gone (hx : g.sessions[i]? = some x) (hstate : x.state = .connected)
    (hparse : ControlFrame.parse data = .ok f) {r : Registry}
    (hrequest : carryOut? g.registry x.id f = some (false, r)) :
    g.receive i data = (none, g.setState i .closed) := by
  simp [receive, hx, hstate, hparse, hrequest]

theorem receive_carriedOut (hx : g.sessions[i]? = some x) (hstate : x.state = .connected)
    (hparse : ControlFrame.parse data = .ok f) {r : Registry}
    (hrequest : carryOut? g.registry x.id f = some (true, r)) :
    g.receive i data = (some f.method, { g with registry := r }) := by
  simp [receive, hx, hstate, hparse, hrequest]

end

/-- Everything that may come of a frame for a session, and when. -/
inductive Received (g : Gateway) (i : Nat) (x : Session) (data : Bytes) :
    Option Method × Gateway → Prop
  /-- A closed session takes no frames. -/
  | closed (hstate : x.state = .closed) : Received g i x data (none, g)
  | malformed (hstate : x.state = .connected) {error : ControlError}
      (hparse : ControlFrame.parse data = .error error) :
      Received g i x data (none, g.count .malformedFrames)
  | unsupported (hstate : x.state = .connected) {f : ControlFrame}
      (hparse : ControlFrame.parse data = .ok f) (hmethod : ¬ f.method.Supported) :
      Received g i x data (none, g)
  /-- The connection is registered no more, and the session finds out. -/
  | gone (hstate : x.state = .connected) {f : ControlFrame}
      (hparse : ControlFrame.parse data = .ok f) (hmethod : f.method.Supported)
      (hgone : g.registry.contains x.id = false) :
      Received g i x data (none, g.setState i .closed)
  | carriedOut (hstate : x.state = .connected) {f : ControlFrame} {r : Registry}
      (hparse : ControlFrame.parse data = .ok f) (hmethod : f.method.Supported)
      (hheld : g.registry.contains x.id = true)
      (hrequest : carryOut? g.registry x.id f = some (true, r)) :
      Received g i x data (some f.method, { g with registry := r })

theorem received (hx : g.sessions[i]? = some x) (data : Bytes) :
    Received g i x data (g.receive i data) := by
  cases hstate : x.state with
  | closed =>
    rw [receive_closed hx hstate]
    exact .closed hstate
  | connected =>
    cases hparse : ControlFrame.parse data with
    | error e =>
      rw [receive_malformed_frame hx hstate hparse]
      exact .malformed hstate hparse
    | ok f =>
      rcases carryOut?_cases g.registry x.id f with ⟨hmethod, hnone⟩ | ⟨hmethod, r, hsome⟩
      · rw [receive_unsupported hx hstate hparse hnone]
        exact .unsupported hstate hparse hmethod
      · cases hheld : g.registry.contains x.id with
        | false =>
          rw [receive_gone hx hstate hparse (hheld ▸ hsome)]
          exact .gone hstate hparse hmethod hheld
        | true =>
          rw [receive_carriedOut hx hstate hparse (hheld ▸ hsome)]
          exact .carriedOut hstate hparse hmethod hheld (hheld ▸ hsome)

/-- What a frame does to the gateway and how it is answered. -/
structure FrameRule (g : Gateway) (i : Nat) (x : Session) (data : Bytes) : Prop where
  /-- A method is answered just if the session is connected, its connection is registered, and the
  frame asks for this method. -/
  answered : ∀ m, (g.receive i data).1 = some m ↔
    x.state = .connected ∧ g.registry.contains x.id = true ∧
      ∃ f, ControlFrame.parse data = .ok f ∧ f.method = m ∧ m.Supported
  /-- What is answered was carried out. -/
  carriedOut : ∀ m, (g.receive i data).1 = some m →
    ∃ f, ControlFrame.parse data = .ok f ∧ f.method = m ∧
      g.CarriedOut x.id f (g.receive i data).2
  /-- Without an answer the registry stays as it is. -/
  unanswered : (g.receive i data).1 = none → (g.receive i data).2.registry = g.registry
  /-- A frame that is no request is counted, and nothing else happens. -/
  malformed : x.state = .connected → ∀ error, ControlFrame.parse data = .error error →
    (g.receive i data).2 =
      { g with metrics := { g.metrics with malformedFrames := g.metrics.malformedFrames + 1 } }
  /-- Nothing happens for a method that is not supported. -/
  unsupported : ∀ f, ControlFrame.parse data = .ok f → ¬ f.method.Supported →
    (g.receive i data).2 = g
  /-- Nothing happens in a closed session. -/
  closed : x.state = .closed → g.receive i data = (none, g)

theorem Registry.Sound.frameRule (hr : g.registry.Sound) (hx : g.sessions[i]? = some x)
    (data : Bytes) : g.FrameRule i x data := by
  have hreceived := received hx data
  constructor
  · intro m
    constructor
    · intro hm
      generalize g.receive i data = p at hreceived hm
      cases hreceived with
      | carriedOut hstate hparse hmethod hheld _ =>
        obtain rfl := Option.some.inj hm
        exact ⟨hstate, hheld, _, hparse, rfl, hmethod⟩
      | _ => cases hm
    · rintro ⟨hstate, hheld, f, hparse, rfl, hmethod⟩
      rcases carryOut?_cases g.registry x.id f with ⟨hnot, -⟩ | ⟨-, r, hsome⟩
      · exact absurd hmethod hnot
      · rw [receive_carriedOut hx hstate hparse (hheld ▸ hsome)]
  · intro m hm
    generalize g.receive i data = p at hreceived hm ⊢
    cases hreceived with
    | carriedOut _ hparse _ _ hrequest =>
      obtain rfl := Option.some.inj hm
      exact ⟨_, hparse, rfl,
        carriedOut_of_carryOut? hr (ControlFrame.topics_nonempty hparse) hrequest⟩
    | _ => cases hm
  · intro hnone
    generalize g.receive i data = p at hreceived hnone ⊢
    cases hreceived with
    | carriedOut => cases hnone
    | _ => rfl
  · intro hstate error hparse
    rw [receive_malformed_frame hx hstate hparse]
    rfl
  · intro f hparse hmethod
    cases hstate : x.state with
    | closed => rw [receive_closed hx hstate]
    | connected =>
      rcases carryOut?_cases g.registry x.id f with ⟨-, hnone⟩ | ⟨hsupported, -⟩
      · rw [receive_unsupported hx hstate hparse hnone]
      · exact absurd hsupported hmethod
  · exact receive_closed hx

/-! ## Which acts close a session -/

namespace Traffic

/-- The acts that close a session: it is asked to, or its client asks for something when the
connection is registered no more. -/
def Closes (s : Traffic) (i : Nat) (x : Session) : Act → Prop
  | .close j => j = i
  | .receive j data => j = i ∧ s.gateway.registry.contains x.id = false ∧
      ∃ f, ControlFrame.parse data = .ok f ∧ f.method.Supported
  | _ => False

/-- A session and what it has become: the same connection's session, closed if it was closed before
or something has closed it. -/
structure Goes (x : Session) (closes : Prop) (x' : Session) : Prop where
  id : x'.id = x.id
  handle : x'.handle = x.handle
  state : x'.state = .closed ↔ x.state = .closed ∨ closes

variable {s : Traffic} {closes : Prop}

theorem Goes.on (h : ¬ closes) : Goes x closes x :=
  ⟨rfl, rfl, ⟨Or.inl, fun hclosed => hclosed.resolve_right h⟩⟩

theorem goes_closed (h : closes) (finished : Bool) :
    Goes x closes { x with state := .closed, finished } :=
  ⟨rfl, rfl, ⟨fun _ => Or.inr h, fun _ => rfl⟩⟩

theorem session_receive_other {j : Nat} (hj : j ≠ i) (data : Bytes) :
    (g.receive j data).2.sessions[i]? = g.sessions[i]? := by
  cases hy : g.sessions[j]? with
  | none => simp [receive, hy]
  | some y =>
    have hreceived := received hy data
    generalize g.receive j data = p at hreceived
    cases hreceived with
    | gone => simp [setState, hj]
    | _ => rfl

theorem goes_receive (hx : g.sessions[i]? = some x) (data : Bytes) :
    ∃ x', (g.receive i data).2.sessions[i]? = some x' ∧
      Goes x (g.registry.contains x.id = false ∧
        ∃ f, ControlFrame.parse data = .ok f ∧ f.method.Supported) x' := by
  have hreceived := received hx data
  generalize g.receive i data = p at hreceived
  cases hreceived with
  | closed hstate => exact ⟨x, hx, rfl, rfl, fun _ => Or.inl hstate, fun _ => hstate⟩
  | malformed hstate hparse =>
    refine ⟨x, hx, .on ?_⟩
    rintro ⟨-, f, hf, -⟩
    simp [hparse] at hf
  | unsupported hstate hparse hmethod =>
    refine ⟨x, hx, .on ?_⟩
    rintro ⟨-, f, hf, hsupported⟩
    rw [hparse] at hf
    exact hmethod (Except.ok.inj hf ▸ hsupported)
  | gone hstate hparse hmethod hgone =>
    exact ⟨_, by simp [setState, hx], goes_closed ⟨hgone, _, hparse, hmethod⟩ x.finished⟩
  | carriedOut hstate hparse hmethod hheld hrequest =>
    refine ⟨x, hx, .on ?_⟩
    rintro ⟨hgone, -⟩
    simp [hheld] at hgone

theorem goes_closeSession (j : Nat) (hx : g.sessions[i]? = some x) :
    ∃ x', (g.closeSession j).sessions[i]? = some x' ∧ Goes x (j = i) x' := by
  by_cases hij : j = i
  · subst hij
    cases hfinished : x.finished with
    | true => exact ⟨_, by simp [closeSession, hx, hfinished, setState], goes_closed rfl true⟩
    | false => exact ⟨_, by simp [closeSession, hx, hfinished], goes_closed rfl true⟩
  · refine ⟨x, ?_, .on hij⟩
    unfold closeSession
    split
    · exact hx
    · split <;> simp [setState, hij, hx]

/-- One act: a session stays, and is closed afterwards if it was or the act has closed it. -/
theorem goes_step (hx : s.gateway.sessions[i]? = some x) (a : Act) :
    ∃ x', (s.step a).gateway.sessions[i]? = some x' ∧ Goes x (s.Closes i x a) x' := by
  cases a with
  | enroll id manner =>
    refine ⟨x, ?_, .on not_false⟩
    simp only [step]
    split
    · exact (List.getElem?_append_left (List.getElem?_eq_some_iff.1 hx).1).trans hx
    · exact hx
  | receive j data =>
    by_cases hij : j = i
    · subst hij
      obtain ⟨x', hx', hgoes⟩ := goes_receive hx data
      exact ⟨x', hx', hgoes.id, hgoes.handle, by simpa [Closes] using hgoes.state⟩
    · exact ⟨x, (session_receive_other hij data).trans hx, .on fun h => hij h.1⟩
  | close j => exact goes_closeSession j hx
  | take =>
    refine ⟨x, ?_, .on not_false⟩
    show s.takeNext.gateway.sessions[i]? = some x
    rcases takeNext_cases s with hsame | ⟨m, rest, -, -, htake⟩
    · rwa [hsame]
    · rwa [htake]
  | move k =>
    refine ⟨x, ?_, .on not_false⟩
    show (s.moveDelivery k).gateway.sessions[i]? = some x
    rcases moveDelivery_cases s k with hsame | ⟨d, old, -, -, hmove⟩
    · rwa [hsame]
    · rw [hmove]
      exact (congrArg (·.1[i]?) Delivery.visits_move).trans hx
  | _ => exact ⟨x, hx, .on not_false⟩

theorem closed_forever (hx : s.gateway.sessions[i]? = some x) (hstate : x.state = .closed)
    (later : List Act) :
    ∃ x', (s.run later).gateway.sessions[i]? = some x' ∧ x'.state = .closed := by
  induction later generalizing s x with
  | nil => exact ⟨x, hx, hstate⟩
  | cons a later ih =>
    obtain ⟨x', hx', hgoes⟩ := goes_step hx a
    exact ih hx' (hgoes.state.2 (Or.inl hstate))

/-- **Frames and the sessions that take them.** In every state of every run, whatever has happened
to the sessions and to the registry, any frame for any session does what the rule says. Whatever
happens next, the session is still there, and it is closed if it was closed before, or is asked to
close, or its client asks for something when the connection is registered no more; by nothing else.
Once it is closed it stays so, and no frame for it changes anything. -/
theorem sessions_take_frames (settings : Settings) (acts : List Act) {i : Nat} {x : Session}
    (hx : ((start settings).run acts).gateway.sessions[i]? = some x) :
    let s := (start settings).run acts
    (∀ data, s.gateway.FrameRule i x data) ∧
    (∀ a, ∃ x', (s.step a).gateway.sessions[i]? = some x' ∧ Goes x (s.Closes i x a) x') ∧
    (x.state = .closed → ∀ later,
      (∃ x', (s.run later).gateway.sessions[i]? = some x' ∧ x'.state = .closed) ∧
      ∀ data, (s.run later).gateway.receive i data = (none, (s.run later).gateway)) := by
  intro s
  refine ⟨(booked_run settings acts).sound.frameRule hx, goes_step hx, ?_⟩
  intro hstate later
  obtain ⟨x', hx', hclosed⟩ := closed_forever hx hstate later
  exact ⟨⟨x', hx', hclosed⟩, fun data => receive_closed hx' hclosed⟩

/-- A session whose connection was taken out stays connected through a frame that says nothing, and
the next request closes it. -/
theorem request_finds_connection_gone :
    let request := Text.Utf8.encode "\x7b\"method\":\"SUBSCRIBE\",\"params\":[\"btcusdt\"]\x7d"
    let nothing := Text.Utf8.encode "\x7b\x7d"
    let acts : List Act :=
      [.reserve, .enroll 1 {}, .receive 0 request, .unregister 1, .receive 0 nothing]
    let s := (start {}).run acts
    let s' := ((start {}).run acts).step (.receive 0 request)
    (s.gateway.sessions[0]? = some ⟨1, 0, .connected, false⟩ ∧
      s.gateway.metrics.malformedFrames = 1) ∧
    (s.gateway.receive 0 request).1 = none ∧
    ∃ x, s'.gateway.sessions[0]? = some x ∧ x.state = .closed := by
  intro request nothing acts s s'
  have hx : s.gateway.sessions[0]? = some ⟨1, 0, .connected, false⟩ := by decide +kernel
  have hcount : s.gateway.metrics.malformedFrames = 1 := by decide +kernel
  have hgone : s.gateway.registry.contains 1 = false := by decide +kernel
  have hparse : ControlFrame.parse request = .ok ⟨.subscribe, [Topic.ofString "BTCUSDT"]⟩ := by
    decide +kernel
  have hcloses : s.Closes 0 ⟨1, 0, .connected, false⟩ (.receive 0 request) :=
    ⟨rfl, hgone, _, hparse, trivial⟩
  obtain ⟨hrule, hstep, -⟩ := sessions_take_frames {} acts hx
  obtain ⟨x, hx', hgoes⟩ := hstep (.receive 0 request)
  have hanswer : (s.gateway.receive 0 request).1 = none := by
    refine Option.eq_none_iff_forall_ne_some.2 fun m hm => ?_
    have hheld := (((hrule request).answered m).1 hm).2.1
    exact Bool.false_ne_true (hgone.symm.trans hheld)
  exact ⟨⟨hx, hcount⟩, hanswer, x, hx', hgoes.state.2 (Or.inr hcloses)⟩

end Traffic

end CandleRelay.Gateway
