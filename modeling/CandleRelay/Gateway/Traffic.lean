import CandleRelay.Gateway.Dispatch

/-!
# Traffic

A gateway with everything in it going on at once. Sessions are opened, take frames and are closed;
others call the registry on their own account; messages wait on the bus; the listener dispatches
them one at a time, a dispatch being a snapshot of the registry and then the moves of its
deliveries. Acts come in any order, and none of them calls the registry more than once. So opening
a session takes two: an id is given out, and then it is registered. A delivery is free to make its
next move at any time; `dispatch`, which keeps to the clock, is one order of moves among them.

Beside the gateway stands what an onlooker writes down: what became of each message, and how each
request for the end of a registration was answered.
-/

namespace CandleRelay.Gateway

/-- Who asks for the end of a registration. -/
inductive Remover where
  /-- A session that is closed. -/
  | session (i : Nat)
  /-- A delivery that failed too often in a row. -/
  | eviction (h : HandleId)
  /-- Anybody else. -/
  | outside
  deriving DecidableEq, Repr

/-- Whether a delivery asks. -/
def Remover.evicts : Remover → Bool
  | .eviction _ => true
  | _ => false

/-- A request for the end of a registration, and the handle that came of it. -/
structure Removal where
  who : Remover
  id : ConnectionId
  got : Option HandleId
  deriving DecidableEq, Repr

/-- Whether the connection behind a handle is registered, with that handle, and wants a topic. -/
def Registry.wants (r : Registry) (h : HandleId) (t : Topic) : Bool :=
  match r.handles[h]? with
  | some x => (r.find? x.id).any fun e => e.handle == h && e.topics.contains t
  | none => false

namespace Delivery

/-- The handle whose sink the next move begins to write to. -/
def call? (g : Gateway) (d : Delivery) : Option HandleId :=
  match d.stage, g.sinks[d.sink]? with
  | .waiting, some _ => some d.handle
  | _, _ => none

/-- What the next move learns of the write. -/
def answer? (payload : Bytes) (g : Gateway) (d : Delivery) : Option (Except DeliveryError Unit) :=
  match d.stage, g.sinks[d.sink]? with
  | .writing _ ending, some s => some (writeResult payload ending s).1
  | _, _ => none

/-- The request for the end of a registration that the next move makes: a write may begin with its
client leaving, and one failure too many evicts. -/
def removal? (settings : Settings) (payload : Bytes) (g : Gateway) (d : Delivery) :
    Option Removal :=
  match d.stage, g.sinks[d.sink]? with
  | .waiting, some s =>
    if s.leaves then some ⟨.outside, d.id, (g.registry.unregister d.id).1⟩ else none
  | .writing _ ending, some s =>
    match (writeResult payload ending s).1 with
    | .ok _ => none
    | .error _ =>
      let (streak, r) := g.registry.recordFailure d.handle
      if streak < settings.maxFailures then none
      else some ⟨.eviction d.handle, d.id, (r.unregister d.id).1⟩
  | _, _ => none

/-- Whether the delivery is over. -/
def isOver (d : Delivery) : Bool := d.due?.isNone

end Delivery

/-- A dispatch as an onlooker sees it: the message, the registry when the dispatch began, the
deliveries, the writes that were begun, and what came of them. -/
structure Dispatched where
  message : Message
  snapshot : Registry
  flight : Flight
  calls : List HandleId := []
  answers : List (HandleId × Except DeliveryError Unit) := []

namespace Dispatched

/-- The dispatch of a message begins. -/
def launch (settings : Settings) (g : Gateway) (m : Message) : Dispatched :=
  { message := m, snapshot := g.registry, flight := Flight.launch settings g m }

/-- Whether the connection behind a handle was registered and wanted the topic of the message when
the dispatch began. -/
def wanted (d : Dispatched) (h : HandleId) : Bool := d.snapshot.wants h d.message.topic

/-- What came of the writes to the sink of a handle. -/
def answersOf (d : Dispatched) (h : HandleId) : List (Except DeliveryError Unit) :=
  (d.answers.filter (·.1 == h)).map (·.2)

/-- Whether the sink of a handle took the message in time. -/
def tookBy (d : Dispatched) (h : HandleId) : Bool :=
  (d.answersOf h).any fun
    | .ok _ => true
    | .error _ => false

/-- Whether all deliveries are over. -/
def landed (d : Dispatched) : Bool := d.flight.deliveries.all Delivery.isOver

/-- The dispatch after its `k`-th delivery has made a move, which turned it into `v`. -/
def moved (d : Dispatched) (g : Gateway) (k : Nat) (old v : Delivery) : Dispatched :=
  { d with
    flight := { d.flight with deliveries := d.flight.deliveries.set k v }
    calls := d.calls ++ (old.call? g).toList
    answers := d.answers ++ (old.answer? d.flight.payload g).toList.map (old.handle, ·) }

end Dispatched

/-- A gateway at work: the ids given out to clients that are not registered yet, the messages that
wait for the listener, the dispatches that are over, the one under way, and the requests for the
end of a registration so far. -/
structure Traffic where
  settings : Settings
  gateway : Gateway := {}
  reserved : List ConnectionId := []
  waiting : List Message := []
  past : List Dispatched := []
  current : Option Dispatched := none
  removals : List Removal := []

/-- One thing that happens in a gateway. -/
inductive Act where
  /-- A client connects and is given an id. -/
  | reserve
  /-- A client with an id is registered and gets a session. -/
  | enroll (id : ConnectionId) (manner : Manner)
  /-- A session receives a frame. -/
  | receive (i : Nat) (data : Bytes)
  /-- A session is closed, or dropped, which closes it. -/
  | close (i : Nat)
  /-- Others call the registry. -/
  | register (id : ConnectionId) (manner : Manner)
  | subscribe (id : ConnectionId) (topics : List Topic)
  | unsubscribe (id : ConnectionId) (topics : List Topic)
  | unregister (id : ConnectionId)
  /-- From now on a write side behaves otherwise. -/
  | retune (k : SinkId) (manner : Manner)
  /-- A message comes to the listener. -/
  | publish (m : Message)
  /-- The listener takes the next message, unless it still has one in flight. -/
  | take
  /-- A delivery of the message in flight makes its next move. -/
  | move (k : Nat)
  deriving DecidableEq

namespace Traffic

/-- A gateway that nobody has come to yet. -/
def start (settings : Settings) : Traffic := { settings }

/-- All dispatches so far, in the order of their messages. -/
def dispatches (s : Traffic) : List Dispatched := s.past ++ s.current.toList

/-- Whether no message is in flight. -/
def landed (s : Traffic) : Bool := s.current.all Dispatched.landed

/-- The gateway with another registry. -/
def withRegistry (s : Traffic) (r : Registry) : Traffic :=
  { s with gateway := { s.gateway with registry := r } }

/-- The request that closing session `i` makes: none if the session has been closed before. -/
def closing? (g : Gateway) (i : Nat) : Option Removal :=
  match g.sessions[i]? with
  | some x => if x.finished then none else some ⟨.session i, x.id, (g.registry.unregister x.id).1⟩
  | none => none

/-- The next message goes into flight. -/
def takeNext (s : Traffic) : Traffic :=
  match s.waiting with
  | [] => s
  | m :: rest =>
    if s.landed then
      let g := s.gateway.count .busMessages
      { s with
        gateway := g
        waiting := rest
        past := s.dispatches
        current := some (Dispatched.launch s.settings g m) }
    else s

/-- The `k`-th delivery of the message in flight makes its next move. -/
def moveDelivery (s : Traffic) (k : Nat) : Traffic :=
  match s.current with
  | none => s
  | some d =>
    match d.flight.deliveries[k]? with
    | none => s
    | some old =>
      let (g, v) := old.move d.flight.settings d.flight.payload s.gateway
      { s with
        gateway := g
        current := some (d.moved s.gateway k old v)
        removals := s.removals ++
          (old.removal? d.flight.settings d.flight.payload s.gateway).toList }

/-- What an act does. -/
def step (s : Traffic) : Act → Traffic
  | .reserve =>
    let (id, r) := s.gateway.registry.allocate
    { s.withRegistry r with reserved := s.reserved ++ [id] }
  | .enroll id manner =>
    if id ∈ s.reserved then
      { s with
        gateway := (s.gateway.enroll id { toManner := manner }).2
        reserved := s.reserved.erase id }
    else s
  | .receive i data => { s with gateway := (s.gateway.receive i data).2 }
  | .close i =>
    { s with
      gateway := s.gateway.closeSession i
      removals := s.removals ++ (closing? s.gateway i).toList }
  | .register id manner =>
    { s with
      gateway := { s.gateway with
        registry := (s.gateway.registry.register id s.gateway.sinks.length).2
        sinks := s.gateway.sinks ++ [{ toManner := manner }] } }
  | .subscribe id topics => s.withRegistry (s.gateway.registry.subscribe id topics).2
  | .unsubscribe id topics => s.withRegistry (s.gateway.registry.unsubscribe id topics).2
  | .unregister id =>
    let (got, r) := s.gateway.registry.unregister id
    { s.withRegistry r with removals := s.removals ++ [⟨.outside, id, got⟩] }
  | .retune k manner => { s with gateway := s.gateway.retune k fun _ => manner }
  | .publish m => { s with waiting := s.waiting ++ [m] }
  | .take => s.takeNext
  | .move k => s.moveDelivery k

/-- What a list of acts does. -/
def run (s : Traffic) (acts : List Act) : Traffic := acts.foldl step s

end Traffic

end CandleRelay.Gateway
