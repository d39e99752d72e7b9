import CandleRelay.Gateway.Control
import CandleRelay.Gateway.Registry
import CandleRelay.Gateway.Sink
import CandleRelay.Metrics

/-!
# Sessions

One session per client connection applies the client's frames to the registry. Bad input is counted
and dropped; a session ends when it is closed, or when it finds that its connection is registered
no more. Closing has its effects once, however often and by whatever path it is asked for.
-/

namespace CandleRelay

/-- Whether a session takes frames. -/
inductive SessionState where
  | connected
  | closed
  deriving DecidableEq, Repr

/-- One client's session. -/
structure Session where
  id : Gateway.ConnectionId
  handle : Gateway.HandleId
  state : SessionState := .connected
  /-- Whether closing has had its effects. -/
  finished : Bool := false
  deriving DecidableEq, Repr

/-- All there is in a gateway: who is registered, the clients' write sides, the sessions ever
opened, and the counters. -/
structure Gateway where
  registry : Gateway.Registry := {}
  sinks : List Gateway.Sink := []
  sessions : List Session := []
  metrics : Metrics := {}
  deriving DecidableEq

namespace Gateway

/-- Counts one event. -/
def count (g : Gateway) (c : Counter) : Gateway := { g with metrics := g.metrics.bump c }

/-- A client with an id of its own is registered, without topics, and gets a session, which is the
last of all sessions. -/
def enroll (g : Gateway) (id : ConnectionId) (sink : Sink) : Session × Gateway :=
  let (handle, r) := g.registry.register id g.sinks.length
  let s : Session := { id, handle }
  (s, { g with
    registry := r
    sinks := g.sinks ++ [sink]
    sessions := g.sessions ++ [s]
    metrics := g.metrics.bump .connectionsOpened })

/-- A client connects: it is given the next id and enrolled with it. -/
def openSession (g : Gateway) (sink : Sink) : Session × Gateway :=
  let (id, r) := g.registry.allocate
  { g with registry := r }.enroll id sink

/-- From now on a client's write side behaves otherwise. -/
def retune (g : Gateway) (k : SinkId) (f : Manner → Manner) : Gateway :=
  { g with sinks := g.sinks.modify k fun s => { s with toManner := f s.toManner } }

/-- Puts a session into a state. -/
def setState (g : Gateway) (i : Nat) (state : SessionState) : Gateway :=
  { g with sessions := g.sessions.modify i fun s => { s with state } }

/-- The registry after a request for a connection, and whether the connection was registered; none
for a method that is not supported. -/
def carryOut? (r : Registry) (id : ConnectionId) (f : ControlFrame) : Option (Bool × Registry) :=
  match f.method with
  | .subscribe => some (r.subscribe id f.topics)
  | .unsubscribe => some (r.unsubscribe id f.topics)
  | .unsupported _ => none

/-- Session `i` receives a frame; the method that was carried out, if one was. -/
def receive (g : Gateway) (i : Nat) (data : Bytes) : Option Method × Gateway :=
  match g.sessions[i]? with
  | none => (none, g)
  | some s =>
    match s.state with
    | .closed => (none, g)
    | .connected =>
      match ControlFrame.parse data with
      | .error _ => (none, g.count .malformedFrames)
      | .ok f =>
        match carryOut? g.registry s.id f with
        | none => (none, g)
        | some (true, r) => (some f.method, { g with registry := r })
        | some (false, _) => (none, g.setState i .closed)

/-- Session `i` ends: its connection leaves the registry if it is still there, and the end of the
connection is counted once. -/
def closeSession (g : Gateway) (i : Nat) : Gateway :=
  match g.sessions[i]? with
  | none => g
  | some s =>
    if s.finished then g.setState i .closed
    else
      { g with
        registry := (g.registry.unregister s.id).2
        sessions := g.sessions.modify i fun s => { s with state := .closed, finished := true }
        metrics := g.metrics.bump .connectionsClosed }

end Gateway

end CandleRelay
