import CandleRelay.Pipeline
import CandleRelay.Proofs.Bus
import CandleRelay.Proofs.Feed.Reading
import CandleRelay.Proofs.Traffic.Serving
import Mathlib.Data.List.Infix

/-!
# From end to end

What a client receives is what the exchange sent. Each event of a consumed frame is on the bus, in
the order of the frames and with their bytes (`Linked.log`); a listener that never falls further
behind than the bus keeps has dispatched just those messages before its place that its pattern
accepts (`InStep`); and a steady client is served from every dispatch (`Traffic.Served`). All three
are kept by one act (`Linked.step`, `InStep.step`, `served_step`), whatever order the acts come in,
and reading itself goes on as if nothing came in between (`readsOn_run`).

`received_end_to_end` puts them together.
-/

namespace CandleRelay

open Gateway

/-! ## The feed client -/

namespace Feed

/-- The message that carries the event of a frame. -/
def message? (frame : Bytes) : Option Message :=
  (event? frame).map fun e => ⟨e.topic, e.payload⟩

/-- The message that a round of reading puts on the bus. -/
def Turn.message? (t : Turn) : Option Message :=
  if t.busUp then t.incoming.bytes?.bind Feed.message? else none

theorem Turn.message?_eq_some {t : Turn} {m : Message} (h : t.message? = some m) :
    ∃ frame e, t.incoming.bytes? = some frame ∧ event? frame = some e ∧
      ⟨e.topic, e.payload⟩ = m := by
  unfold Turn.message? at h
  split at h
  · obtain ⟨frame, hframe, h⟩ := Option.bind_eq_some_iff.1 h
    obtain ⟨e, he, hm⟩ := Option.map_eq_some_iff.1 h
    exact ⟨frame, e, hframe, he, hm⟩
  · simp at h

theorem Turn.message?_eq_heard (t : Turn) :
    t.message?.toList = t.heard?.toList.filterMap Heard.message? := by
  unfold Turn.message? Turn.heard?
  cases t.incoming.bytes? with
  | none => simp
  | some frame =>
    cases hevent : event? frame with
    | none => simp [Feed.message?, Heard.message?, hevent]
    | some e =>
      have hpayload := payload_of_event? hevent
      cases t.busUp <;> simp [Feed.message?, Heard.message?, hevent, hpayload]

/-- A round of reading publishes the event of its frame and nothing else, and nothing at all if
reading ends with it. -/
theorem Client.published_turn (c : Client) (t : Turn) :
    (c.turn t).2.published = c.published ++
      if (c.turn t).1.isNone then t.message?.toList else [] := by
  cases hend : t.ending? with
  | some e =>
    rw [turn_of_ending hend]
    cases e <;> simp [ended, close]
  | none =>
    obtain ⟨c', hturn, hhandled⟩ := turn_of_none hend c
    rw [hturn, Turn.message?_eq_heard]
    exact hhandled.published

end Feed

/-! ## The gateway -/

namespace Gateway.Traffic

variable {s : Traffic}

/-- The messages dispatched so far, in their order. -/
def messages (s : Traffic) : List Message := s.dispatches.map (·.message)

theorem messages_step {a : Gateway.Act} (htake : a ≠ .take) (hpublish : ∀ m, a ≠ .publish m) :
    (s.step a).messages = s.messages ∧ (s.step a).waiting = s.waiting := by
  rcases dispatches_step s a with rfl | ⟨k, rfl⟩ | ⟨hds, hw⟩
  · exact absurd rfl htake
  · obtain ⟨hds, hw⟩ := dispatches_moveDelivery s k
    have hmessages := congrArg (List.map Prod.fst) hds
    simp only [List.map_map, Function.comp_def] at hmessages
    exact ⟨hmessages, hw⟩
  · have hnone : published [a] = [] := by
      cases a with
      | publish m => exact absurd rfl (hpublish m)
      | _ => rfl
    rw [hnone, List.append_nil] at hw
    exact ⟨by rw [messages, hds, messages], hw⟩

theorem messages_take (hw : s.waiting = []) (hl : s.landed = true) (m : Message) :
    ((s.step (.publish m)).step .take).messages = s.messages ++ [m] ∧
      ((s.step (.publish m)).step .take).waiting = [] := by
  rw [take_published hw hl]
  exact ⟨by rw [messages]; exact List.map_append, rfl⟩

theorem message_of_received {k : Sink} {payload : Bytes} (hb : s.Booked)
    (hk : k ∈ s.gateway.sinks) (hpayload : payload ∈ k.received) :
    ∃ m ∈ s.messages, m.payload = payload := by
  obtain ⟨i, hi⟩ := List.mem_iff_getElem?.1 hk
  have hlog : s.gateway.log? i = some k.log := by
    rw [log?, hi]
    rfl
  by_cases hheld : ∃ (h : HandleId) (x : Handle),
      s.gateway.registry.handles[h]? = some x ∧ x.sink = i
  · obtain ⟨h, x, hx, rfl⟩ := hheld
    obtain ⟨l, hl, hreceived, -⟩ := hb.log h x hx
    obtain rfl := Option.some.inj (hlog.symm.trans hl)
    have hpayload : payload ∈ taken s.dispatches h := hreceived ▸ hpayload
    obtain ⟨d, hd, rfl⟩ := List.mem_map.1 hpayload
    exact ⟨d.message, List.mem_map_of_mem (List.mem_of_mem_filter hd), rfl⟩
  · have hnone := (hb.unheld i k.log hlog fun h x hx hi => hheld ⟨h, x, hx, hi⟩).1
    have hnil : k.received = [] := hnone
    rw [hnil] at hpayload
    exact absurd hpayload List.not_mem_nil

end Gateway.Traffic

/-! ## One act -/

namespace Pipeline

variable {p : Pipeline} {settings : Settings} {a : Act}

/-- What came from the exchange is on the bus, and what the gateway dispatched came from there. -/
structure Linked (capacity : Nat) (p : Pipeline) : Prop where
  window : p.bus.window = MemoryBus.powerAbove capacity
  log : p.bus.log.toList = p.consumed.filterMap Feed.Turn.message?
  listener : ∃ s, p.bus.subscribers = #[some s] ∧ s.pattern = Glob.everything ∧
    s.next ≤ p.bus.log.size
  booked : p.traffic.Booked
  waiting : p.traffic.waiting = []
  messages : ∀ m ∈ p.traffic.messages, m ∈ p.bus.log.toList

theorem listener?_eq {s : Subscriber} (h : p.bus.subscribers = #[some s]) :
    p.listener? = some s := by
  simp [listener?, h]

theorem linked_start (settings : Settings) (capacity : Nat) (feed : Feed.Client)
    (script : List Feed.Turn) : (start settings capacity feed script).Linked capacity := by
  refine ⟨rfl, rfl, ⟨⟨Glob.everything, 0⟩, rfl, rfl, Nat.le_refl 0⟩,
    Traffic.booked_start settings, rfl, ?_⟩
  exact fun m hm => absurd hm List.not_mem_nil

theorem readOn_cases (p : Pipeline) :
    p.readOn = p ∨ ∃ t rest, p.exit = none ∧ p.script = t :: rest ∧
      p.readOn =
        { p with
          feed := (p.feed.turn t).2
          script := rest
          consumed := p.consumed ++ if (p.feed.turn t).1.isNone then [t] else []
          exit := (p.feed.turn t).1
          bus := { p.bus with
            log := p.bus.log ++
              (if (p.feed.turn t).1.isNone then t.message?.toList else []).toArray } } := by
  unfold readOn
  split
  · next t rest hexit hscript =>
    refine Or.inr ⟨t, rest, hexit, hscript, ?_⟩
    -- What was published before the round is on the bus already.
    have hdrop : (p.feed.turn t).2.published.drop p.feed.published.length =
        if (p.feed.turn t).1.isNone then t.message?.toList else [] := by
      rw [Feed.Client.published_turn, List.drop_left]
    simp only [hdrop, MemoryBus.foldl_publish]
  · exact Or.inl rfl

theorem Linked.readOn {capacity : Nat} (hp : p.Linked capacity) : p.readOn.Linked capacity := by
  rcases readOn_cases p with hsame | ⟨t, rest, -, -, hread⟩
  · rwa [hsame]
  · obtain ⟨s, hs, hpattern, hnext⟩ := hp.listener
    rw [hread]
    refine ⟨hp.window, ?_, ⟨s, hs, hpattern, ?_⟩, hp.booked, hp.waiting, ?_⟩
    · rw [Array.toList_append, hp.log, List.filterMap_append]
      cases (p.feed.turn t).1 with
      | none => cases ht : t.message? <;> simp [ht]
      | some r => simp
    · rw [Array.size_append]
      exact Nat.le_trans hnext (Nat.le_add_right _ _)
    · intro m hm
      rw [Array.toList_append]
      exact List.mem_append_left _ (hp.messages m hm)

theorem listenOn_cases {s : Subscriber} (hs : p.bus.subscribers = #[some s]) :
    p.listenOn = p ∨ p.traffic.landed = true ∧
      p.listenOn =
        { p with
          bus := { p.bus with subscribers := #[some (p.bus.look s).2] }
          traffic := dispatchFound p.traffic (p.bus.look s).1 } := by
  unfold listenOn
  rw [listener?_eq hs]
  cases hl : p.traffic.landed with
  | false => exact Or.inl (by simp)
  | true =>
    refine Or.inr ⟨rfl, ?_⟩
    simp [hs]

theorem Linked.listenOn {capacity : Nat} (hp : p.Linked capacity) :
    p.listenOn.Linked capacity := by
  obtain ⟨s, hs, hpattern, hnext⟩ := hp.listener
  rcases listenOn_cases hs with hsame | ⟨hlanded, hlisten⟩
  · rwa [hsame]
  · obtain ⟨hpattern', hnext', hfound⟩ := MemoryBus.look_spec hnext
    rw [hlisten]
    cases hm : (p.bus.look s).1 with
    | none =>
      exact ⟨hp.window, hp.log, ⟨_, rfl, hpattern'.trans hpattern, hnext'⟩, hp.booked, hp.waiting,
        hp.messages⟩
    | some m =>
      obtain ⟨hmessages, hwaiting⟩ := Traffic.messages_take hp.waiting hlanded m
      refine ⟨hp.window, hp.log, ⟨_, rfl, hpattern'.trans hpattern, hnext'⟩,
        (hp.booked.step (.publish m)).step .take, hwaiting, ?_⟩
      intro m' hm'
      have hm' : m' ∈ p.traffic.messages ++ [m] := hmessages ▸ hm'
      rcases List.mem_append.1 hm' with hm' | hm'
      · exact hp.messages m' hm'
      · obtain rfl := List.mem_singleton.1 hm'
        exact hfound m' hm

/-- What an act does: a round of reading, a look of the listener, or something in the gateway that
brings no message there. -/
theorem step_cases (p : Pipeline) (a : Act) :
    p.step a = p ∨ (a = .read ∧ p.step a = p.readOn) ∨ (a = .listen ∧ p.step a = p.listenOn) ∨
      ∃ b : Gateway.Act, b ≠ .take ∧ (∀ m, b ≠ .publish m) ∧ a = .gateway b ∧
        p.step a = { p with traffic := p.traffic.step b } := by
  cases a with
  | read => exact Or.inr (Or.inl ⟨rfl, rfl⟩)
  | listen => exact Or.inr (Or.inr (Or.inl ⟨rfl, rfl⟩))
  | gateway b =>
    cases b with
    | publish m => exact Or.inl rfl
    | take => exact Or.inl rfl
    | _ => exact Or.inr (Or.inr (Or.inr ⟨_, by simp, by simp, rfl, rfl⟩))

theorem Linked.step {capacity : Nat} (hp : p.Linked capacity) (a : Act) :
    (p.step a).Linked capacity := by
  rcases step_cases p a with hsame | ⟨-, hread⟩ | ⟨-, hlisten⟩ | ⟨b, htake, hpublish, -, hstep⟩
  · rwa [hsame]
  · rw [hread]
    exact hp.readOn
  · rw [hlisten]
    exact hp.listenOn
  · obtain ⟨hmessages, hwaiting⟩ := Traffic.messages_step (s := p.traffic) htake hpublish
    rw [hstep]
    refine ⟨hp.window, hp.log, hp.listener, hp.booked.step b, hwaiting.trans hp.waiting, ?_⟩
    intro m hm
    exact hp.messages m (hmessages ▸ hm)

/-- The listener has missed nothing: what the gateway dispatched is what the pattern accepts of the
messages before its place. -/
def InStep (p : Pipeline) : Prop :=
  ∀ s, p.bus.subscribers = #[some s] → p.traffic.messages =
    (p.bus.log.toList.take s.next).filter fun m => Glob.accepts Glob.everything m.topic.name

theorem InStep.readOn {capacity : Nat} (hi : p.InStep) (hp : p.Linked capacity) :
    p.readOn.InStep := by
  rcases readOn_cases p with hsame | ⟨t, rest, -, -, hread⟩
  · rwa [hsame]
  · obtain ⟨s, hs, -, hnext⟩ := hp.listener
    rw [hread]
    intro s' hs'
    have hs' : p.bus.subscribers = #[some s'] := hs'
    obtain rfl : s = s' := by
      rw [hs] at hs'
      simpa using hs'
    -- What is read now comes after the listener's place.
    rw [Array.toList_append, List.take_append_of_le_length hnext]
    exact hi s hs

theorem InStep.listenOn {capacity : Nat} (hi : p.InStep) (hp : p.Linked capacity)
    (hlag : p.behind ≤ p.bus.window) : p.listenOn.InStep := by
  obtain ⟨s, hs, hpattern, hnext⟩ := hp.listener
  rcases listenOn_cases hs with hsame | ⟨hlanded, hlisten⟩
  · rwa [hsame]
  · rw [hlisten]
    intro s' hs'
    obtain rfl : (p.bus.look s).2 = s' := by simpa using hs'
    have hlag : p.bus.log.size - s.next ≤ p.bus.window := by
      rw [behind, listener?_eq hs] at hlag
      exact hlag
    have hlook := MemoryBus.look_of_le hlag
    cases hm : p.bus.log[s.next]? with
    | none =>
      -- At the end of the log the listener stays where it is.
      rw [hm] at hlook
      rw [hlook]
      exact hi s hs
    | some m =>
      obtain ⟨hlt, hget⟩ := Array.getElem?_eq_some_iff.1 hm
      have htake : p.bus.log.toList.take (s.next + 1) = p.bus.log.toList.take s.next ++ [m] := by
        rw [List.take_add_one, Array.getElem?_toList, hm]
        rfl
      rw [hm, hpattern] at hlook
      rw [hlook]
      dsimp only
      rw [htake, List.filter_append, ← hi s hs]
      by_cases haccepts : Glob.accepts Glob.everything m.topic.name = true
      · rw [if_pos haccepts, List.filter_singleton, haccepts]
        exact (Traffic.messages_take hp.waiting hlanded m).1
      · rw [if_neg haccepts, List.filter_singleton, Bool.eq_false_iff.2 haccepts]
        exact (List.append_nil _).symm

theorem InStep.step {capacity : Nat} (hi : p.InStep) (hp : p.Linked capacity)
    (hlag : p.behind ≤ p.bus.window) (a : Act) : (p.step a).InStep := by
  rcases step_cases p a with hsame | ⟨-, hread⟩ | ⟨-, hlisten⟩ | ⟨b, htake, hpublish, -, hstep⟩
  · rwa [hsame]
  · rw [hread]
    exact hi.readOn hp
  · rw [hlisten]
    exact hi.listenOn hp hlag
  · rw [hstep]
    intro s hs
    rw [(Traffic.messages_step htake hpublish).1]
    exact hi s hs

theorem served_step {capacity : Nat} {h : HandleId} {topics : List Topic} (hp : p.Linked capacity)
    (hs : p.traffic.Served h topics) (hst : p.traffic.Steady h topics) (a : Act) :
    (p.step a).traffic.Served h topics := by
  rcases step_cases p a with hsame | ⟨-, hread⟩ | ⟨-, hlisten⟩ | ⟨b, -, -, -, hstep⟩
  · rwa [hsame]
  · rw [hread]
    rcases readOn_cases p with hsame | ⟨t, rest, -, -, hread⟩
    · rwa [hsame]
    · rw [hread]
      exact hs
  · obtain ⟨s, hlistener, -, -⟩ := hp.listener
    rw [hlisten]
    rcases listenOn_cases hlistener with hsame | ⟨-, hlisten⟩
    · rwa [hsame]
    · rw [hlisten]
      cases (p.bus.look s).1 with
      | none => exact hs
      | some m =>
        -- A message that comes to the gateway leaves the client as steady as it was.
        have hpublished := hs.step hst hp.booked (.publish m)
        have hst : (p.traffic.step (.publish m)).Steady h topics := hst
        exact hpublished.step hst (hp.booked.step (.publish m)) .take
  · rw [hstep]
    exact hs.step hst hp.booked b

theorem reading_step (ha : a ≠ .read) :
    (p.step a).feed = p.feed ∧ (p.step a).script = p.script ∧
      (p.step a).consumed = p.consumed ∧ (p.step a).exit = p.exit := by
  rcases step_cases p a with hsame | ⟨rfl, -⟩ | ⟨-, hlisten⟩ | ⟨b, -, -, -, hstep⟩
  · rw [hsame]
    exact ⟨rfl, rfl, rfl, rfl⟩
  · exact absurd rfl ha
  · rw [hlisten]
    unfold Pipeline.listenOn
    split
    · exact ⟨rfl, rfl, rfl, rfl⟩
    · split <;> exact ⟨rfl, rfl, rfl, rfl⟩
  · rw [hstep]
    exact ⟨rfl, rfl, rfl, rfl⟩

/-- How far the reading of a script has come: what is still to be read is what the feed client alone
would read from here. -/
def ReadsOn (feed : Feed.Client) (script : List Feed.Turn) (p : Pipeline) : Prop :=
  match p.exit with
  | none => p.consumed ++ p.script = script ∧
      ∀ stop, feed.read stop script = p.feed.read stop p.script
  | some r => ∃ t, p.consumed ++ t :: p.script = script ∧
      ∀ stop, feed.read stop script = (r, p.feed, if t.stopped then t :: p.script else p.script)

theorem ReadsOn.step {feed : Feed.Client} {script : List Feed.Turn} (hr : p.ReadsOn feed script)
    (a : Act) : (p.step a).ReadsOn feed script := by
  by_cases ha : a = .read
  · subst ha
    show p.readOn.ReadsOn feed script
    rcases readOn_cases p with hsame | ⟨t, rest, hexit, hscript, hread⟩
    · rwa [hsame]
    · rw [ReadsOn, hexit, hscript] at hr
      obtain ⟨hconsumed, hrest⟩ := hr
      rw [hread, ReadsOn]
      -- Either the round is consumed, or reading has ended with it.
      cases ht : p.feed.turn t with
      | mk exit c =>
        cases exit with
        | none =>
          refine ⟨?_, fun stop => (hrest stop).trans (Feed.Client.read_of_none ht)⟩
          rw [← hconsumed]
          exact List.append_assoc ..
        | some r =>
          refine ⟨t, ?_, fun stop => (hrest stop).trans (Feed.Client.read_of_some ht)⟩
          rw [← hconsumed]
          exact congrArg (· ++ t :: rest) (List.append_nil _)
  · obtain ⟨hfeed, hscript, hconsumed, hexit⟩ := reading_step (p := p) ha
    rwa [ReadsOn, hfeed, hscript, hconsumed, hexit]

/-! ## A whole run -/

theorem run_concat {acts : List Act} : p.run (acts ++ [a]) = (p.run acts).step a := by
  rw [run, List.foldl_append]
  rfl

theorem run_append {acts more : List Act} : p.run (acts ++ more) = (p.run acts).run more :=
  List.foldl_append

variable (settings : Settings) (capacity : Nat) (feed : Feed.Client) (script : List Feed.Turn)

theorem linked_run (acts : List Act) :
    ((start settings capacity feed script).run acts).Linked capacity := by
  induction acts using List.reverseRecOn with
  | nil => exact linked_start settings capacity feed script
  | append_singleton acts a ih =>
    rw [run_concat]
    exact ih.step a

/-- Reading on the way is reading: whatever happens in between, the rounds that are left go as they
would if the feed client were alone. -/
theorem readsOn_run (acts : List Act) :
    ((start settings capacity feed script).run acts).ReadsOn feed script := by
  induction acts using List.reverseRecOn with
  | nil => exact ⟨rfl, fun _ => rfl⟩
  | append_singleton acts a ih =>
    rw [run_concat]
    exact ih.step a

theorem ReadsOn.mem_script {feed : Feed.Client} {script : List Feed.Turn}
    (hr : p.ReadsOn feed script) {t : Feed.Turn} (ht : t ∈ p.consumed) : t ∈ script := by
  unfold ReadsOn at hr
  split at hr
  · rw [← hr.1]
    exact List.mem_append_left _ ht
  · obtain ⟨last, hscript, -⟩ := hr
    rw [← hscript]
    exact List.mem_append_left _ ht

theorem inStep_run {acts : List Act}
    (hlag : ∀ more, more <+: acts →
      ((start settings capacity feed script).run more).behind ≤ MemoryBus.powerAbove capacity) :
    ((start settings capacity feed script).run acts).InStep := by
  induction acts using List.reverseRecOn with
  | nil =>
    intro s _
    show [] = (([] : List Message).take s.next).filter _
    rw [List.take_nil]
    rfl
  | append_singleton acts a ih =>
    have hp := linked_run settings capacity feed script acts
    have hbehind := hlag acts (List.prefix_append acts [a])
    rw [← hp.window] at hbehind
    rw [run_concat]
    exact (ih fun more hmore => hlag more (hmore.trans (List.prefix_append acts [a]))).step hp
      hbehind a

theorem consumed_run {acts : List Act} (hread : Act.read ∉ acts) :
    ((start settings capacity feed script).run acts).consumed = [] := by
  induction acts using List.reverseRecOn with
  | nil => rfl
  | append_singleton acts a ih =>
    rw [List.mem_append, List.mem_singleton, not_or] at hread
    rw [run_concat, (reading_step (Ne.symm hread.2)).2.2.1]
    exact ih hread.1

/-- A client that was steady since before the first round of reading has been served from every
dispatch. -/
theorem served_run {h : HandleId} {topics : List Topic} {before during : List Act}
    (hread : Act.read ∉ before)
    (hsteady : ∀ more, more <+: during →
      ((start settings capacity feed script).run (before ++ more)).traffic.Steady h topics) :
    ((start settings capacity feed script).run (before ++ during)).traffic.Served h topics := by
  induction during using List.reverseRecOn with
  | nil =>
    rw [List.append_nil]
    have hp := linked_run settings capacity feed script before
    have hlog := hp.log
    rw [consumed_run settings capacity feed script hread] at hlog
    intro d hd
    -- A dispatch would have come from an empty bus.
    have hmem := hp.messages d.message (List.mem_map_of_mem hd)
    rw [hlog] at hmem
    exact absurd hmem List.not_mem_nil
  | append_singleton during a ih =>
    rw [← List.append_assoc, run_concat]
    refine served_step (linked_run settings capacity feed script (before ++ during)) ?_ ?_ a
    · exact ih fun more hmore => hsteady more (hmore.trans (List.prefix_append during [a]))
    · exact hsteady during (List.prefix_append during [a])

/-! ## From end to end -/

/-- Whether a frame carries an event on one of the topics, of which a listener to everything
hears. -/
def carries (topics : List Topic) (frame : Bytes) : Bool :=
  (Feed.event? frame).any fun e =>
    Glob.accepts Glob.everything e.topic.name && topics.contains e.topic

/-- With the bus up, the messages of some rounds of reading are those of their frames. -/
theorem messages_of_turns {turns : List Feed.Turn} (hup : ∀ t ∈ turns, t.busUp = true) :
    turns.filterMap Feed.Turn.message? =
      (turns.filterMap fun t => t.incoming.bytes?).filterMap Feed.message? := by
  rw [List.filterMap_filterMap]
  refine List.filterMap_congr ?_
  intro t ht
  rw [Feed.Turn.message?, if_pos (hup t ht)]

theorem payloads_eq_frames (topics : List Topic) (frames : List Bytes) :
    (((frames.filterMap Feed.message?).filter fun m =>
        Glob.accepts Glob.everything m.topic.name).filter fun m =>
      topics.contains m.topic).map (·.payload) = frames.filter (carries topics) := by
  induction frames with
  | nil => rfl
  | cons frame frames ih =>
    rw [List.filter_cons]
    cases hevent : Feed.event? frame with
    | none =>
      have hmessage : Feed.message? frame = none := by simp [Feed.message?, hevent]
      have hcarries : carries topics frame = false := by simp [carries, hevent]
      rw [List.filterMap_cons_none hmessage, hcarries]
      exact ih
    | some e =>
      have hmessage : Feed.message? frame = some ⟨e.topic, e.payload⟩ := by
        simp [Feed.message?, hevent]
      have hcarries : carries topics frame =
          (Glob.accepts Glob.everything e.topic.name && topics.contains e.topic) := by
        simp [carries, hevent]
      rw [List.filterMap_cons_some hmessage, hcarries, List.filter_cons]
      cases haccepts : Glob.accepts Glob.everything e.topic.name with
      | false => exact ih
      | true =>
        rw [if_pos rfl, List.filter_cons, Bool.true_and]
        cases hwanted : topics.contains e.topic with
        | false => exact ih
        | true =>
          rw [if_pos rfl, if_pos rfl, List.map_cons, ih, Feed.payload_of_event? hevent]

theorem messages_of_isDone {capacity : Nat} (hp : p.Linked capacity)
    (hi : p.InStep) (hdone : p.isDone = true) :
    p.traffic.messages = (p.consumed.filterMap Feed.Turn.message?).filter fun m =>
      Glob.accepts Glob.everything m.topic.name := by
  obtain ⟨s, hs, -, hnext⟩ := hp.listener
  have hbehind : p.behind = 0 := by
    rw [isDone, Bool.and_eq_true] at hdone
    exact beq_iff_eq.1 hdone.1
  rw [behind, listener?_eq hs] at hbehind
  have hwhole : p.bus.log.toList.length ≤ s.next := Nat.le_of_sub_eq_zero hbehind
  rw [hi s hs, List.take_of_length_le hwhole, hp.log]

/-- From end to end. Whatever happens, no client receives anything but frames that carry an event.
And a client that has been steady since before the first round of reading has received, as soon as
the listener has processed everything, just the frames with an event on its topics, each once, in
their order and with their bytes; provided the bus was up and the listener never further behind than
the bus keeps. -/
theorem received_end_to_end (acts : List Act) :
    let p := (start settings capacity feed script).run acts
    (∀ k ∈ p.traffic.gateway.sinks, ∀ payload ∈ k.received,
      payload ∈ p.frames ∧ (Feed.event? payload).isSome = true) ∧
    ∀ (before during : List Act) (h : HandleId) (topics : List Topic),
      acts = before ++ during → Act.read ∉ before → (∀ t ∈ script, t.busUp = true) →
      (∀ more, more <+: acts →
        ((start settings capacity feed script).run more).behind ≤ MemoryBus.powerAbove capacity) →
      (∀ more, more <+: during →
        ((start settings capacity feed script).run (before ++ more)).traffic.Steady h topics) →
      p.isDone = true →
      ∃ x k, p.traffic.gateway.registry.handles[h]? = some x ∧
        p.traffic.gateway.sinks[x.sink]? = some k ∧
        k.received = p.frames.filter (carries topics) := by
  intro p
  have hp : p.Linked capacity := linked_run settings capacity feed script acts
  constructor
  · intro k hk payload hpayload
    obtain ⟨m, hdispatched, rfl⟩ := Traffic.message_of_received hp.booked hk hpayload
    have hlog := hp.messages m hdispatched
    rw [hp.log] at hlog
    obtain ⟨t, ht, hmessage⟩ := List.mem_filterMap.1 hlog
    obtain ⟨frame, e, hbytes, hevent, hm⟩ := Feed.Turn.message?_eq_some hmessage
    have hpayload : m.payload = frame := by
      rw [← hm]
      exact Feed.payload_of_event? hevent
    rw [hpayload]
    exact ⟨List.mem_filterMap.2 ⟨t, ht, hbytes⟩, by rw [hevent]; rfl⟩
  · rintro before during h topics rfl hread hup hlag hsteady hdone
    obtain ⟨x, -, -, hx, -⟩ := hsteady during (List.prefix_refl during)
    have hserved := served_run settings capacity feed script hread hsteady
    have hlanded : p.traffic.landed = true := by
      rw [isDone, Bool.and_eq_true] at hdone
      exact hdone.2
    obtain ⟨k, hk, hreceived⟩ := hserved.received hp.booked hlanded hx
    refine ⟨x, k, hx, hk, ?_⟩
    have hmessages := messages_of_isDone hp (inStep_run settings capacity feed script hlag) hdone
    rw [hreceived]
    show ((p.traffic.messages).filter _).map _ = _
    have hconsumed : ∀ t ∈ p.consumed, t.busUp = true := fun t ht =>
      hup t ((readsOn_run settings capacity feed script _).mem_script ht)
    rw [hmessages, messages_of_turns hconsumed, payloads_eq_frames]
    rfl

/-- Of four frames, the two with an event of the instrument that the client has subscribed to. -/
theorem subscriber_receives_two_of_four :
    let btc := Text.Utf8.encode "\x7b\"s\":\"BTCUSDT\"\x7d"
    let eth := Text.Utf8.encode "\x7b\"s\":\"ETHUSDT\"\x7d"
    let ack := Text.Utf8.encode "\x7b\"result\":null,\"id\":1\x7d"
    let script := [btc, ack, eth, btc].map fun bytes => (⟨false, .text bytes, true⟩ : Feed.Turn)
    let topics := [Topic.ofString "BTCUSDT"]
    let before : List Act := [.gateway .reserve, .gateway (.enroll 1 {}),
      .gateway (.subscribe 1 topics)]
    let during : List Act := [.read, .listen, .gateway (.move 0), .read, .gateway (.move 0), .read,
      .read, .listen, .listen, .gateway (.move 0), .gateway (.move 0)]
    let p := (start {} 2 {} script).run (before ++ during)
    (Act.read ∉ before ∧ (∀ t ∈ script, t.busUp = true) ∧
      (∀ more, more <+: before ++ during →
        ((start {} 2 {} script).run more).behind ≤ MemoryBus.powerAbove 2) ∧
      (∀ more, more <+: during →
        ((start {} 2 {} script).run (before ++ more)).traffic.Steady 0 topics) ∧
      p.isDone = true) ∧
    ∃ x k, p.traffic.gateway.registry.handles[0]? = some x ∧
      p.traffic.gateway.sinks[x.sink]? = some k ∧ k.received = [btc, btc] := by
  intro btc eth ack script topics before during p
  have hread : Act.read ∉ before := by decide +kernel
  have hup : ∀ t ∈ script, t.busUp = true := by decide +kernel
  have hlag : ∀ more, more <+: before ++ during →
      ((start {} 2 {} script).run more).behind ≤ MemoryBus.powerAbove 2 := by
    have hinits : ∀ more ∈ (before ++ during).inits,
        ((start {} 2 {} script).run more).behind ≤ MemoryBus.powerAbove 2 := by
      decide +kernel
    exact fun more hmore => hinits more ((List.mem_inits _ _).2 hmore)
  have hsteady : ∀ more, more <+: during →
      ((start {} 2 {} script).run (before ++ more)).traffic.Steady 0 topics := by
    have hinits : ∀ more ∈ during.inits,
        ((start {} 2 {} script).run (before ++ more)).traffic.Steady 0 topics := by
      decide +kernel
    exact fun more hmore => hinits more ((List.mem_inits _ _).2 hmore)
  have hdone : p.isDone = true := by decide +kernel
  have hframes : p.frames.filter (carries topics) = [btc, btc] := by decide +kernel
  have hreceived := (received_end_to_end {} 2 {} script (before ++ during)).2 before during 0 topics
    rfl hread hup hlag hsteady hdone
  have hp : (start {} 2 {} script).run (before ++ during) = p := rfl
  rw [hp, hframes] at hreceived
  exact ⟨⟨hread, hup, hlag, hsteady, hdone⟩, hreceived⟩

end Pipeline

end CandleRelay
