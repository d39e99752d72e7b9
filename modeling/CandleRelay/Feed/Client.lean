import CandleRelay.Bus.Outbox
import CandleRelay.Feed.Frame
import CandleRelay.Feed.Ledger
import CandleRelay.Feed.Line

/-!
# The feed client

Owner of the line to the exchange. It asks for streams in paced batches, keeps the ledger of its
requests, and then reads one frame at a time: events go to the bus, answers to the ledger, and a
frame that cannot be decoded is counted and passed over. Request ids are never used twice, also not
after a failed send.
-/

namespace CandleRelay.Feed

/-- The client: line, ledger and next request id, besides its publishing side. -/
structure Client extends Outbox where
  line : Line := {}
  ledger : Ledger := {}
  nextId : UInt64 := 1

/-- What a subscription asked for. -/
structure Report where
  batches : Nat := 0
  streams : Nat := 0
  deriving DecidableEq, Repr

/-- Two subscriptions together. -/
def Report.add (a b : Report) : Report := ⟨a.batches + b.batches, a.streams + b.streams⟩

/-- Why reading ended without an error. -/
inductive Exit where
  /-- Shutdown was requested. -/
  | cancelled
  /-- The exchange closed, or its stream ended. -/
  | closed
  deriving DecidableEq, Repr

/-- One round of reading: whether shutdown is seen at its start, the frame that comes otherwise,
and whether the bus would take an event. -/
structure Turn where
  stopped : Bool
  incoming : Incoming
  busUp : Bool := true
  deriving DecidableEq

namespace Client

/-- Sends one batch, and records it if it went out. -/
def sendBatch (c : Client) (b : Batch) : Except SubscriptionError Unit × Client :=
  match c.line.send b.request with
  | (.error e, line) => (.error (.ofBatch b e.message), { c with line })
  | (.ok _, line) =>
    (.ok (),
      { c with line, ledger := c.ledger.record b, metrics := c.metrics.bump .batchesSent })

/-- Sends the batches in turn, `delay` apart, up to the first that fails. -/
def sendAll (c : Client) (delay : Nat) (report : Report) :
    List Batch → Except SubscriptionError Report × Client
  | [] => (.ok report, c)
  | b :: rest =>
    let c := if report.batches > 0 then { c with line := c.line.wait delay } else c
    match c.sendBatch b with
    | (.error e, c) => (.error e, c)
    | (.ok _, c) => c.sendAll delay ⟨report.batches + 1, report.streams + b.symbols.length⟩ rest

/-- Asks for the symbols' streams on one interval. The ids of a plan are spent whether or not all
its batches go out. -/
def subscribe (c : Client) (symbols : List Symbol) (interval : Interval) (size delay : Nat) :
    Except SubscriptionError Report × Client :=
  if delay = 0 then (.error .invalidDelay, c)
  else
    match plan symbols interval size c.nextId with
    | .error e => (.error e, c)
    | .ok batches =>
      { c with nextId := c.nextId + batches.length.toUInt64 }.sendAll delay {} batches

/-- Asks for the streams of further intervals, with the delay before each of them. -/
def subscribeRest (c : Client) (symbols : List Symbol) (size delay : Nat) (report : Report) :
    List Interval → Except SubscriptionError Report × Client
  | [] => (.ok report, c)
  | i :: rest =>
    match { c with line := c.line.wait delay }.subscribe symbols i size delay with
    | (.error e, c) => (.error e, c)
    | (.ok r, c) => c.subscribeRest symbols size delay (report.add r) rest

/-- Asks for the symbols' streams on every interval, with the delay between intervals as well. -/
def subscribeAll (c : Client) (symbols : List Symbol) (size delay : Nat) :
    List Interval → Except SubscriptionError Report × Client
  | [] => (.ok {}, c)
  | i :: rest =>
    match c.subscribe symbols i size delay with
    | (.error e, c) => (.error e, c)
    | (.ok r, c) => c.subscribeRest symbols size delay r rest

/-- Acts on a decoded frame, or counts one that could not be decoded. -/
def handle (c : Client) (busUp : Bool) : Except DecodeError Frame → Client
  | .ok (.event e) =>
    let c := { c with metrics := c.metrics.bump .eventsDecoded }
    { c with toOutbox := (c.toOutbox.publish busUp ⟨e.topic, e.payload⟩).2 }
  | .ok (.ack id) => { c with ledger := (c.ledger.confirm id).2 }
  | .ok (.refusal (some id) _ _) => { c with ledger := (c.ledger.reject id).2 }
  | .ok (.refusal none _ _) => c
  | .error _ => { c with metrics := c.metrics.bump .decodeErrors }

/-- Closes the line. -/
def close (c : Client) : Except LineError Unit × Client :=
  let (result, line) := c.line.close
  (result, { c with line })

/-- Shutdown was seen: the line is closed, and reading has been cancelled if that went well. -/
def cancel (c : Client) : Except LineError Exit × Client :=
  match c.close with
  | (.ok _, c) => (.ok .cancelled, c)
  | (.error e, c) => (.error e, c)

/-- One round of reading: how reading ended, if it did, and the client afterwards. -/
def turn (c : Client) (t : Turn) : Option (Except LineError Exit) × Client :=
  if t.stopped then let (r, c) := c.cancel; (some r, c)
  else
    match t.incoming with
    | .text bytes => (none, c.handle t.busUp (decode bytes))
    | .binary bytes => (none, c.handle t.busUp (decode bytes))
    | .ping | .pong => (none, c)
    | .close => (some (.ok .closed), c)
    | .failure e => (some (.error e), c)

/-- Reads until shutdown is seen, the exchange closes or the line fails. When the turns are over
shutdown is seen if `stopAtEnd` says so, and otherwise the stream has ended. Last in the answer are
the turns whose frames were not taken. -/
def read (c : Client) (stopAtEnd : Bool) : List Turn → Except LineError Exit × Client × List Turn
  | [] => if stopAtEnd then let (r, c) := c.cancel; (r, c, []) else (.ok .closed, c, [])
  | t :: rest =>
    match c.turn t with
    | (none, c) => c.read stopAtEnd rest
    | (some r, c) => (r, c, if t.stopped then t :: rest else rest)

end Client

end CandleRelay.Feed
