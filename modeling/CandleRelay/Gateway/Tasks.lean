import CandleRelay.Gateway.Dispatch

/-!
# Deliveries as tasks

The deliveries of a dispatch are tasks that run side by side. They share the registry, the counters
and the report, and each access to one of these, or to the client's write side, is a step of its
own: between two steps of one task the others may make any number of theirs. A schedule says which
task makes the next step. The dispatch takes the outcome of a task once the task is over, in no
particular order, and that is the task's last step.
-/

namespace CandleRelay.Gateway

namespace Registry

/-- Takes a registration out. Only who takes it out gets the handle, which has not been told yet. -/
def takeOut (r : Registry) (id : ConnectionId) : Option HandleId × Registry :=
  ((r.find? id).map (·.handle), { r with entries := r.entries.filter (·.id != id) })

/-- Tells a handle that its registration has ended. -/
def tell (r : Registry) (h : HandleId) : Registry :=
  { r with handles := r.handles.modify h fun x => { x with removed := true } }

end Registry

/-- Whom a task serves. -/
structure Target where
  handle : HandleId
  sink : SinkId
  id : ConnectionId
  deriving DecidableEq, Repr

/-- The connections that a message on the topic goes to now. -/
def targets (g : Gateway) (t : Topic) : List Target :=
  (g.registry.matching t).filterMap fun h =>
    (g.registry.handles[h]?).map fun x => ⟨h, x.sink, x.id⟩

/-- What a task does next. -/
inductive Point where
  /-- It begins the write. -/
  | begins
  /-- It takes the client, which leaves as its write begins, out of the registry. -/
  | leaves (ending : Ending)
  | left (h : HandleId) (ending : Ending)
  /-- The write comes to its end. -/
  | writes (ending : Ending)
  | succeeds
  | fails
  /-- It adds to the streak, and looks whether that is too long now. -/
  | blames
  /-- It takes the client, which is evicted, out of the registry. -/
  | evicts
  | evicted (h : HandleId)
  /-- It begins the close. -/
  | closes
  /-- The close comes to its end. -/
  | closing (ending : Ending)
  | counts (c : Counter) (o : Outcome)
  /-- Its outcome is there to be taken. -/
  | over (o : Outcome)
  | joined
  deriving DecidableEq, Repr

/-- What a step does to what is shared. -/
inductive Change where
  | nothing
  /-- The client's write side is left so. -/
  | sink (s : Sink)
  | success
  | failure
  | takeOut
  | tell (h : HandleId)
  | count (c : Counter)
  | take (o : Outcome)

/-- What a task sees of what is shared. -/
structure View where
  sink : Option Sink
  streak : Option Nat
  /-- The handle under which the connection is registered. -/
  entry : Option HandleId
  deriving DecidableEq

/-- What a task sees now. -/
def view (g : Gateway) (t : Target) : View where
  sink := g.sinks[t.sink]?
  streak := (g.registry.handles[t.handle]?).map (·.streak)
  entry := (g.registry.find? t.id).map (·.handle)

/-- One step of a task, seeing what it sees. -/
def Point.next (settings : Settings) (payload : Bytes) (v : View) : Point → Change × Point
  | .begins =>
    match v.sink with
    | none => (.nothing, .over .failed)
    | some s =>
      let ending := (s.writing.within settings.timeout).2
      (.sink s.attempt, if s.leaves then .leaves ending else .writes ending)
  | .leaves ending =>
    (.takeOut,
      match v.entry with
      | some h => .left h ending
      | none => .writes ending)
  | .left h ending => (.tell h, .writes ending)
  | .writes ending =>
    match v.sink with
    | none => (.nothing, .over .failed)
    | some s =>
      match Delivery.writeResult payload ending s with
      | (.ok _, s) => (.sink s, .succeeds)
      | (.error _, s) => (.sink s, .fails)
  | .succeeds => (.success, .counts .deliveries .delivered)
  | .fails => (.count .deliveryFailures, .blames)
  | .blames =>
    (.failure,
      if (v.streak.map (· + 1)).getD 0 < settings.maxFailures then .over .failed else .evicts)
  | .evicts =>
    (.takeOut,
      match v.entry with
      | some h => .evicted h
      | none => .over .failed)
  | .evicted h => (.tell h, .closes)
  | .closes =>
    match v.sink with
    | none => (.nothing, .over .failed)
    | some s => (.sink s.beginClose, .closing (s.closing.within settings.timeout).2)
  | .closing .inTime =>
    match v.sink with
    | none => (.nothing, .counts .evictions .evicted)
    | some s => (.sink { s with closed := true }, .counts .evictions .evicted)
  | .closing .timedOut => (.nothing, .counts .evictions .evicted)
  | .closing .broken => (.nothing, .over .failed)
  | .counts c o => (.count c, .over o)
  | .over o => (.take o, .joined)
  | .joined => (.nothing, .joined)

/-- The outcome of one more task. -/
def DispatchReport.take (r : DispatchReport) : Outcome → DispatchReport
  | .delivered => { r with delivered := r.delivered + 1 }
  | .failed => { r with failed := r.failed + 1 }
  | .evicted => { r with failed := r.failed + 1, evicted := r.evicted + 1 }

/-- A dispatch with its tasks under way: what they share, and where each of them is. -/
structure Running where
  gateway : Gateway
  report : DispatchReport := {}
  points : HandleId → Point := fun _ => .begins

namespace Running

/-- The registry is another one. -/
def setRegistry (s : Running) (r : Registry) : Running :=
  { s with gateway := { s.gateway with registry := r } }

/-- Makes a task's change. -/
def change (s : Running) (t : Target) : Change → Running
  | .nothing => s
  | .sink x => { s with gateway := { s.gateway with sinks := s.gateway.sinks.set t.sink x } }
  | .success => s.setRegistry (s.gateway.registry.recordSuccess t.handle)
  | .failure => s.setRegistry (s.gateway.registry.recordFailure t.handle).2
  | .takeOut => s.setRegistry (s.gateway.registry.takeOut t.id).2
  | .tell h => s.setRegistry (s.gateway.registry.tell h)
  | .count c => { s with gateway := s.gateway.count c }
  | .take o => { s with report := s.report.take o }

/-- A task is somewhere else now. -/
def moveTo (s : Running) (t : Target) (p : Point) : Running :=
  { s with points := fun h => if h = t.handle then p else s.points h }

/-- A task makes its next step. -/
def step (settings : Settings) (payload : Bytes) (s : Running) (t : Target) : Running :=
  let (c, p) := (s.points t.handle).next settings payload (s.gateway.view t)
  (s.change t c).moveTo t p

/-- Tasks make steps in the order of a schedule. -/
def run (settings : Settings) (payload : Bytes) (s : Running) (schedule : List Target) : Running :=
  schedule.foldl (step settings payload) s

/-- The dispatch of a message has just begun its tasks. -/
def launch (g : Gateway) (m : Message) : Running where
  gateway := g
  report := { matched := (g.targets m.topic).length }

/-- The outcomes of these tasks have all been taken. -/
def Over (s : Running) (ts : List Target) : Prop := ∀ t ∈ ts, s.points t.handle = .joined

end Running

end CandleRelay.Gateway
