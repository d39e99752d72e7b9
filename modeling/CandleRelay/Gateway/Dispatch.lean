import CandleRelay.Bus.Message
import CandleRelay.Gateway.Session

/-!
# Dispatch

One bus message goes to every connection that wants its topic when the dispatch begins. Each
delivery goes its own way: a write under a timeout, then the reckoning, and, when the connection has
failed too often in a row, its eviction with a close under the same timeout. The dispatch is over
when all its deliveries are, so that messages never overtake each other.

Times are milliseconds since the dispatch began. A delivery is a machine that makes at most three
moves, each at a time known beforehand; what happens elsewhere in the gateway falls between moves.
-/

namespace CandleRelay.Gateway

/-- The limits of deliveries. -/
structure Settings where
  /-- The longest that one write, or one close, may take. -/
  timeout : Nat := 5000
  /-- After how many failures in a row a connection is evicted. -/
  maxFailures : Nat := 1
  deriving DecidableEq, Repr

/-- How a delivery ended. -/
inductive Outcome where
  | delivered
  | failed
  | evicted
  deriving DecidableEq, Repr

/-- Where a delivery stands. -/
inductive Stage where
  /-- Not begun. -/
  | waiting
  /-- Writing, until a time. -/
  | writing (due : Nat) (ending : Ending)
  /-- Evicted, and closing until a time. -/
  | closing (due : Nat) (ending : Ending)
  | ended (time : Nat) (outcome : Outcome)
  deriving DecidableEq, Repr

/-- The delivery of one message through one handle. -/
structure Delivery where
  handle : HandleId
  sink : SinkId
  id : ConnectionId
  stage : Stage := .waiting
  deriving DecidableEq, Repr

namespace Delivery

/-- When the delivery makes its next move. -/
def due? (d : Delivery) : Option Nat :=
  match d.stage with
  | .waiting => some 0
  | .writing due _ => some due
  | .closing due _ => some due
  | .ended _ _ => none

/-- The write begins. -/
def start (settings : Settings) (g : Gateway) (d : Delivery) : Gateway × Delivery :=
  match g.sinks[d.sink]? with
  | none => (g, { d with stage := .ended 0 .failed })
  | some s =>
    let g := { g with sinks := g.sinks.modify d.sink Sink.attempt }
    let g := if s.leaves then { g with registry := (g.registry.unregister d.id).2 } else g
    let (ms, ending) := s.writing.within settings.timeout
    (g, { d with stage := .writing ms ending })

/-- What comes of a write: a sink that ends in time decides for itself. -/
def writeResult (payload : Bytes) (ending : Ending) (s : Sink) : Except DeliveryError Unit × Sink :=
  match ending with
  | .inTime => s.finish payload
  | .timedOut => (.error .timeout, s)
  | .broken => (.error .panicked, s)

/-- The delivery failed: the streak grows, and at the limit the connection is evicted, unless
somebody else has removed it. An eviction goes on with a close at the sink's pace. -/
def fail (settings : Settings) (now : Nat) (pace : Pace) (g : Gateway) (d : Delivery) :
    Gateway × Delivery :=
  let g := g.count .deliveryFailures
  let (streak, r) := g.registry.recordFailure d.handle
  let g := { g with registry := r }
  if streak < settings.maxFailures then (g, { d with stage := .ended now .failed })
  else
    match r.unregister d.id with
    | (none, _) => (g, { d with stage := .ended now .failed })
    | (some _, r) =>
      let (ms, ending) := pace.within settings.timeout
      ({ g with registry := r, sinks := g.sinks.modify d.sink Sink.beginClose },
        { d with stage := .closing (now + ms) ending })

/-- The write ended: the reckoning. -/
def settle (settings : Settings) (payload : Bytes) (now : Nat) (ending : Ending) (g : Gateway)
    (d : Delivery) : Gateway × Delivery :=
  match g.sinks[d.sink]? with
  | none => (g, { d with stage := .ended now .failed })
  | some s =>
    let (result, s) := writeResult payload ending s
    let g := { g with sinks := g.sinks.set d.sink s }
    match result with
    | .ok _ =>
      ({ g with registry := g.registry.recordSuccess d.handle }.count .deliveries,
        { d with stage := .ended now .delivered })
    | .error _ => fail settings now s.closing g d

/-- The close ended, and with it the eviction. A close that breaks down takes its delivery with it,
which then counts as failed only. -/
def finishClose (now : Nat) (ending : Ending) (g : Gateway) (d : Delivery) : Gateway × Delivery :=
  match ending with
  | .inTime =>
    ({ g with sinks := g.sinks.modify d.sink fun s => { s with closed := true } }.count .evictions,
      { d with stage := .ended now .evicted })
  | .timedOut => (g.count .evictions, { d with stage := .ended now .evicted })
  | .broken => (g, { d with stage := .ended now .failed })

/-- The next move, if there is one. -/
def move (settings : Settings) (payload : Bytes) (g : Gateway) (d : Delivery) :
    Gateway × Delivery :=
  match d.stage with
  | .waiting => d.start settings g
  | .writing due ending => d.settle settings payload due ending g
  | .closing due ending => d.finishClose due ending g
  | .ended _ _ => (g, d)

/-- The next move, if it is due before the limit. -/
def moveBefore (settings : Settings) (payload : Bytes) (limit : Option Nat)
    (gd : Gateway × Delivery) : Gateway × Delivery :=
  match gd.2.due?, limit with
  | some due, some limit => if due < limit then gd.2.move settings payload gd.1 else gd
  | some _, none => gd.2.move settings payload gd.1
  | none, _ => gd

/-- All moves that are due before the limit. -/
def advance (settings : Settings) (payload : Bytes) (limit : Option Nat) (gd : Gateway × Delivery) :
    Gateway × Delivery :=
  let next := moveBefore settings payload limit
  next (next (next gd))

end Delivery

/-- What became of one message. -/
structure DispatchReport where
  matched : Nat := 0
  delivered : Nat := 0
  failed : Nat := 0
  evicted : Nat := 0
  deriving DecidableEq, Repr

/-- A dispatch in flight. -/
structure Flight where
  settings : Settings
  payload : Bytes
  deliveries : List Delivery
  deriving DecidableEq

namespace Flight

/-- The dispatch of a message begins: one delivery for each connection that wants the topic now. -/
def launch (settings : Settings) (g : Gateway) (m : Message) : Flight :=
  { settings
    payload := m.payload
    deliveries := (g.registry.matching m.topic).filterMap fun h =>
      (g.registry.handles[h]?).map fun x => { handle := h, sink := x.sink, id := x.id } }

/-- All deliveries make their moves that are due before the limit, one delivery after the other. -/
def advanceAll (settings : Settings) (payload : Bytes) (limit : Option Nat) (g : Gateway) :
    List Delivery → Gateway × List Delivery
  | [] => (g, [])
  | d :: rest =>
    let (g, d) := Delivery.advance settings payload limit (g, d)
    let (g, rest) := advanceAll settings payload limit g rest
    (g, d :: rest)

/-- The dispatch goes on up to a time, or to its end. -/
def advance (f : Flight) (g : Gateway) (limit : Option Nat) : Gateway × Flight :=
  let (g, ds) := advanceAll f.settings f.payload limit g f.deliveries
  (g, { f with deliveries := ds })

/-- How many deliveries ended so. -/
def countEnded (f : Flight) (o : Outcome) : Nat :=
  (f.deliveries.filter fun d =>
    match d.stage with
    | .ended _ p => p == o
    | _ => false).length

/-- What became of the message. An evicted connection is one that failed. -/
def report (f : Flight) : DispatchReport where
  matched := f.deliveries.length
  delivered := f.countEnded .delivered
  failed := f.countEnded .failed + f.countEnded .evicted
  evicted := f.countEnded .evicted

/-- When the last delivery ended. -/
def duration (f : Flight) : Nat :=
  (f.deliveries.map fun d =>
    match d.stage with
    | .ended time _ => time
    | _ => 0).foldl max 0

end Flight

/-- Dispatches a message with nothing else going on: the report, the time it took, the gateway. -/
def dispatch (settings : Settings) (g : Gateway) (m : Message) : DispatchReport × Nat × Gateway :=
  let (g, f) := (Flight.launch settings g m).advance g none
  (f.report, f.duration, g)

end CandleRelay.Gateway
