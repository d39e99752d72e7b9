import CandleRelay.Feed.Client

/-!
# Reading to the end

What a run of reading leaves behind, in terms of its script alone. Reading takes the frames before
the first round that ends it (`framesOf`), and how it ends is decided there (`endingOf`). The frames
that carry an event which the bus would take are published with their own bytes, the answers settle
the ledger one after the other, every frame is counted for what it is, and nothing else changes
(`Handled`).

What is proved:
  1. `handled_handle`: one frame does to the client what `Handled` says of it. `Handled` composes
     (`Handled.trans`), so a run of reading does it for all its frames (`read_cases`).
  2. `reads_to_first_ending`: the exit, the bus, the ledger and the counters after reading.
-/

namespace CandleRelay.Feed

/-! ## Events and their bytes -/

theorem payload_of_event {body : EventBody} {frame : Bytes} {e : MarketEvent}
    (h : Envelope.event body frame = .ok (.event e)) : e.payload = frame := by
  unfold Envelope.event at h
  split at h
  · rw [← Frame.event.inj (Except.ok.inj h)]
  · simp at h

theorem payload_of_classify {v : Envelope} {frame : Bytes} {e : MarketEvent}
    (h : v.classify frame = .ok (.event e)) : e.payload = frame := by
  unfold Envelope.classify at h
  split at h
  · exact payload_of_event h
  split at h
  · exact payload_of_event h
  split at h
  · simp at h
  · simp at h
  · dsimp only at h
    split at h <;> simp at h

theorem payload_of_decode {frame : Bytes} {e : MarketEvent} (h : decode frame = .ok (.event e)) :
    e.payload = frame := by
  unfold decode at h
  split at h
  · exact payload_of_classify h
  · simp at h

theorem decode_of_event? {frame : Bytes} {e : MarketEvent} (h : event? frame = some e) :
    decode frame = .ok (.event e) := by
  unfold event? at h
  split at h
  · next hdecode => rw [hdecode, Option.some.inj h]
  · simp at h

theorem payload_of_event? {frame : Bytes} {e : MarketEvent} (h : event? frame = some e) :
    e.payload = frame :=
  payload_of_decode (decode_of_event? h)

theorem MarketEvent.topic_nonempty (e : MarketEvent) : e.topic.isEmpty = false := by
  simp [MarketEvent.topic, Symbol.topic, Topic.isEmpty, e.symbol.nonempty]

/-! ## Frames as they are heard -/

/-- The bytes of a frame, and whether the bus would have taken an event then. -/
structure Heard where
  bytes : Bytes
  busUp : Bool
  deriving DecidableEq

namespace Heard

/-- The message that the frame puts on the bus. -/
def message? (h : Heard) : Option Message :=
  if h.busUp then (event? h.bytes).map fun e => ⟨e.topic, h.bytes⟩ else none

/-- The request that the frame answers, and what becomes of it. -/
def answer? (h : Heard) : Option (UInt64 × BatchStatus) :=
  match decode h.bytes with
  | .ok (.ack id) => some (id, .active)
  | .ok (.refusal (some id) _ _) => some (id, .failed)
  | _ => none

/-- Whether the frame carries an event. -/
def isEvent (h : Heard) : Bool := (event? h.bytes).isSome

/-- Whether the frame cannot be decoded. -/
def isGarbled (h : Heard) : Bool :=
  match decode h.bytes with
  | .ok _ => false
  | .error _ => true

/-- Whether a counter counts the frame. -/
def counts (k : Counter) (h : Heard) : Bool :=
  match k with
  | .eventsDecoded => h.isEvent
  | .decodeErrors => h.isGarbled
  | .eventsPublished => h.isEvent && h.busUp
  | .publishErrors => h.isEvent && !h.busUp
  | _ => false

end Heard

/-- The ledger after an answer. -/
def Ledger.answered (l : Ledger) (a : UInt64 × BatchStatus) : Ledger := (l.settle a.1 a.2).2

/-- What some frames do to a client. -/
structure Handled (frames : List Heard) (c c' : Client) : Prop where
  published : c'.published = c.published ++ frames.filterMap Heard.message?
  ledger : c'.ledger = (frames.filterMap Heard.answer?).foldl Ledger.answered c.ledger
  counted : ∀ k, c'.metrics.get k = c.metrics.get k + frames.countP (Heard.counts k)
  nextId : c'.nextId = c.nextId
  line : c'.line = c.line

theorem Handled.refl (c : Client) : Handled [] c c :=
  ⟨by simp, rfl, fun _ => rfl, rfl, rfl⟩

theorem Handled.trans {frames more : List Heard} {c c' c'' : Client} (h : Handled frames c c')
    (h' : Handled more c' c'') : Handled (frames ++ more) c c'' where
  published := by rw [h'.published, h.published, List.filterMap_append, List.append_assoc]
  ledger := by rw [h'.ledger, h.ledger, List.filterMap_append, List.foldl_append]
  counted k := by rw [h'.counted, h.counted, List.countP_append, Nat.add_assoc]
  nextId := h'.nextId.trans h.nextId
  line := h'.line.trans h.line

namespace Client

variable {c : Client} {frame : Bytes}

theorem handled_event {e : MarketEvent} (busUp : Bool) (h : decode frame = .ok (.event e)) :
    Handled [⟨frame, busUp⟩] c (c.handle busUp (.ok (.event e))) := by
  have hevent : event? frame = some e := by simp [event?, h]
  have htopic := e.topic_nonempty
  have hpayload := payload_of_decode h
  -- The topic is not empty, so whether the event is published hangs on the bus alone.
  cases busUp with
  | true =>
    refine ⟨?_, ?_, fun k => ?_, rfl, rfl⟩
    · simp [handle, Outbox.publish, Outbox.offer, htopic, Heard.message?, hevent, hpayload]
    · simp [handle, Heard.answer?, h]
    · simp only [handle, Outbox.publish, Outbox.offer, htopic, Bool.false_eq_true, ite_false,
        ite_true, Metrics.get_bump]
      cases k <;> simp [Heard.counts, Heard.isEvent, Heard.isGarbled, hevent, h]
  | false =>
    refine ⟨?_, ?_, fun k => ?_, rfl, rfl⟩
    · simp [handle, Outbox.publish, Outbox.offer, htopic, Heard.message?]
    · simp [handle, Heard.answer?, h]
    · simp only [handle, Outbox.publish, Outbox.offer, htopic, Bool.false_eq_true, ite_false,
        Metrics.get_bump]
      cases k <;> simp [Heard.counts, Heard.isEvent, Heard.isGarbled, hevent, h]

theorem handle_quiet {f : Frame} (busUp : Bool) (h : decode frame = .ok f)
    (hevent : event? frame = none) :
    c.handle busUp (.ok f) =
      { c with
        ledger := (Heard.answer? ⟨frame, busUp⟩).toList.foldl Ledger.answered c.ledger } := by
  cases f with
  | event e => simp [event?, h] at hevent
  | ack id => simp [handle, Heard.answer?, h, Ledger.answered, Ledger.confirm]
  | refusal id code reason =>
    cases id <;> simp [handle, Heard.answer?, h, Ledger.answered, Ledger.reject]

/-- One frame does what it is for, and nothing else. -/
theorem handled_handle (c : Client) (h : Heard) :
    Handled [h] c (c.handle h.busUp (decode h.bytes)) := by
  obtain ⟨frame, busUp⟩ := h
  cases hdecode : decode frame with
  | error e =>
    have hevent : event? frame = none := by simp [event?, hdecode]
    refine ⟨?_, ?_, fun k => ?_, rfl, rfl⟩
    · simp [handle, Heard.message?, hevent]
    · simp [handle, Heard.answer?, hdecode]
    · simp only [handle, Metrics.get_bump]
      cases k <;> simp [Heard.counts, Heard.isEvent, Heard.isGarbled, hevent, hdecode]
  | ok f =>
    cases hevent : event? frame with
    | some e =>
      have he := decode_of_event? hevent
      obtain rfl := Except.ok.inj (hdecode.symm.trans he)
      exact handled_event busUp he
    | none =>
      rw [handle_quiet busUp hdecode hevent]
      refine ⟨?_, ?_, fun k => ?_, rfl, rfl⟩
      · simp [Heard.message?, hevent]
      · cases hanswer : Heard.answer? ⟨frame, busUp⟩ <;> simp [hanswer]
      · cases k <;> simp [Heard.counts, Heard.isEvent, Heard.isGarbled, hevent, hdecode]

end Client

/-! ## Rounds of reading -/

/-- What ends reading. -/
inductive Ending where
  /-- Shutdown was seen. -/
  | shutdown
  /-- The exchange closed, or its stream ended. -/
  | closed
  | failed (e : LineError)
  deriving DecidableEq

/-- How reading answers, when closing the line goes as given. -/
def Ending.exit (closeError : Option LineError) : Ending → Except LineError Exit
  | .shutdown =>
    match closeError with
    | none => .ok .cancelled
    | some e => .error e
  | .closed => .ok .closed
  | .failed e => .error e

/-- Whether a round ends reading, and how. Shutdown is looked at first. -/
def Turn.ending? (t : Turn) : Option Ending :=
  if t.stopped then some .shutdown
  else
    match t.incoming with
    | .close => some .closed
    | .failure e => some (.failed e)
    | _ => none

/-- The frame of a round, if it carries bytes. -/
def Turn.heard? (t : Turn) : Option Heard := t.incoming.bytes?.map fun bytes => ⟨bytes, t.busUp⟩

/-- The frames before the first round that ends reading. -/
def framesOf (script : List Turn) : List Heard :=
  (script.takeWhile (·.ending?.isNone)).filterMap Turn.heard?

/-- What ends reading first; a script that is over ends it as `stopAtEnd` says. -/
def endingOf (stopAtEnd : Bool) (script : List Turn) : Ending :=
  (script.findSome? Turn.ending?).getD (if stopAtEnd then .shutdown else .closed)

namespace Client

/-- The client when reading has ended: the line is closed for a shutdown only. -/
def ended (c : Client) : Ending → Client
  | .shutdown => c.close.2
  | _ => c

theorem cancel_eq (c : Client) :
    c.cancel = (Ending.shutdown.exit c.line.closeError, c.ended .shutdown) := by
  unfold cancel close Line.close
  cases h : c.line.closeError <;> simp [Ending.exit, ended, close, Line.close, h]

theorem turn_of_ending {t : Turn} {e : Ending} (h : t.ending? = some e) (c : Client) :
    c.turn t = (some (e.exit c.line.closeError), c.ended e) := by
  cases hs : t.stopped with
  | true =>
    obtain rfl : Ending.shutdown = e := by simpa [Turn.ending?, hs] using h
    simp [turn, hs, cancel_eq]
  | false =>
    cases hi : t.incoming <;> simp [Turn.ending?, hs, hi] at h
    all_goals
      subst h
      simp [turn, hs, hi, Ending.exit, ended]

theorem turn_of_none {t : Turn} (h : t.ending? = none) (c : Client) :
    ∃ c', c.turn t = (none, c') ∧ Handled t.heard?.toList c c' := by
  cases hs : t.stopped with
  | true => simp [Turn.ending?, hs] at h
  | false =>
    cases hi : t.incoming with
    | text bytes =>
      refine ⟨c.handle t.busUp (decode bytes), by simp [turn, hs, hi], ?_⟩
      simpa [Turn.heard?, Incoming.bytes?, hi] using handled_handle c ⟨bytes, t.busUp⟩
    | binary bytes =>
      refine ⟨c.handle t.busUp (decode bytes), by simp [turn, hs, hi], ?_⟩
      simpa [Turn.heard?, Incoming.bytes?, hi] using handled_handle c ⟨bytes, t.busUp⟩
    | ping =>
      refine ⟨c, by simp [turn, hs, hi], ?_⟩
      simpa [Turn.heard?, Incoming.bytes?, hi] using Handled.refl c
    | pong =>
      refine ⟨c, by simp [turn, hs, hi], ?_⟩
      simpa [Turn.heard?, Incoming.bytes?, hi] using Handled.refl c
    | close => simp [Turn.ending?, hs, hi] at h
    | failure e => simp [Turn.ending?, hs, hi] at h

theorem read_of_none {c c' : Client} {t : Turn} {rest : List Turn} {stop : Bool}
    (ht : c.turn t = (none, c')) : c.read stop (t :: rest) = c'.read stop rest := by
  simp only [read, ht]

theorem read_of_some {c c' : Client} {t : Turn} {rest : List Turn} {stop : Bool}
    {r : Except LineError Exit} (ht : c.turn t = (some r, c')) :
    c.read stop (t :: rest) = (r, c', if t.stopped then t :: rest else rest) := by
  simp only [read, ht]

/-- A run of reading handles the frames before the first ending, and then ends. -/
theorem read_cases (stopAtEnd : Bool) (script : List Turn) (c : Client) :
    ∃ c' rest, Handled (framesOf script) c c' ∧
      c.read stopAtEnd script =
        ((endingOf stopAtEnd script).exit c.line.closeError,
          c'.ended (endingOf stopAtEnd script), rest) := by
  induction script generalizing c with
  | nil =>
    refine ⟨c, [], Handled.refl c, ?_⟩
    cases stopAtEnd with
    | true => simp [read, cancel_eq, endingOf]
    | false => simp [read, endingOf, Ending.exit, ended]
  | cons t script ih =>
    cases hend : t.ending? with
    | some e =>
      have hframes : framesOf (t :: script) = [] := by simp [framesOf, hend]
      have hending : endingOf stopAtEnd (t :: script) = e := by simp [endingOf, hend]
      rw [hframes, hending]
      exact ⟨c, _, Handled.refl c, read_of_some (turn_of_ending hend c)⟩
    | none =>
      have hframes : framesOf (t :: script) = t.heard?.toList ++ framesOf script := by
        cases hheard : t.heard? <;> simp [framesOf, hend, hheard]
      have hending : endingOf stopAtEnd (t :: script) = endingOf stopAtEnd script := by
        simp [endingOf, hend]
      obtain ⟨c', hturn, hhandled⟩ := turn_of_none hend c
      obtain ⟨c'', rest, hmore, hread⟩ := ih c'
      refine ⟨c'', rest, ?_, ?_⟩
      · rw [hframes]
        exact hhandled.trans hmore
      · rw [read_of_none hturn, hread, hending, hhandled.line]

end Client

/-! ## A whole run of reading -/

theorem countP_isEvent (frames : List Heard) :
    frames.countP (Heard.counts .eventsPublished) + frames.countP (Heard.counts .publishErrors) =
      frames.countP Heard.isEvent := by
  rw [List.countP_eq_countP_filter_add frames Heard.isEvent (·.busUp), List.countP_filter,
    List.countP_filter]
  rfl

/-- What reading leaves behind. It ends as the first ending of the script says. Up to there, the
events that the bus would take are on it with the bytes of their frames, in order; the answers have
settled the ledger in order; and each frame is counted for what it is. -/
theorem reads_to_first_ending (c : Client) (stopAtEnd : Bool) (script : List Turn) :
    let frames := framesOf script
    let c' := (c.read stopAtEnd script).2.1
    (c.read stopAtEnd script).1 = (endingOf stopAtEnd script).exit c.line.closeError ∧
    c'.published = c.published ++ frames.filterMap Heard.message? ∧
    c'.ledger = (frames.filterMap Heard.answer?).foldl Ledger.answered c.ledger ∧
    (∀ k, c'.metrics.get k = c.metrics.get k + frames.countP (Heard.counts k)) ∧
    c'.metrics.eventsPublished + c'.metrics.publishErrors =
      c.metrics.eventsPublished + c.metrics.publishErrors + frames.countP Heard.isEvent ∧
    c'.nextId = c.nextId ∧
    c'.line = (c.ended (endingOf stopAtEnd script)).line := by
  intro frames c'
  obtain ⟨last, rest, hhandled, hread⟩ := c.read_cases stopAtEnd script
  have hc' : c' = last.ended (endingOf stopAtEnd script) := by
    show (c.read stopAtEnd script).2.1 = _
    rw [hread]
  -- Ending touches nothing but the line.
  have hended : c'.toOutbox = last.toOutbox ∧ c'.ledger = last.ledger ∧
      c'.nextId = last.nextId := by
    rw [hc']
    cases endingOf stopAtEnd script <;> exact ⟨rfl, rfl, rfl⟩
  obtain ⟨houtbox, hledger, hnext⟩ := hended
  have hcounted : ∀ k, c'.metrics.get k = c.metrics.get k + frames.countP (Heard.counts k) := by
    intro k
    rw [houtbox]
    exact hhandled.counted k
  refine ⟨by rw [hread], ?_, ?_, hcounted, ?_, ?_, ?_⟩
  · rw [houtbox]
    exact hhandled.published
  · rw [hledger]
    exact hhandled.ledger
  · have hpublished := hcounted .eventsPublished
    have herrors := hcounted .publishErrors
    simp only [Metrics.get] at hpublished herrors
    have hsum := countP_isEvent frames
    omega
  · rw [hnext]
    exact hhandled.nextId
  · rw [hc']
    cases endingOf stopAtEnd script <;> simp [Client.ended, Client.close, hhandled.line]

end CandleRelay.Feed
