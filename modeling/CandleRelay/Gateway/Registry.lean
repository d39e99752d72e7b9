import CandleRelay.Symbol

/-!
# The connection registry

Which connections there are and which topics each of them wants. A connection has a handle, through
which deliveries reach it; the handle outlives the registration, counts the deliveries that failed
in a row, and learns once that the registration ended. Ids are given out in order, all 64-bit
numbers before the first of them comes again.
-/

namespace CandleRelay.Gateway

/-- The number of a connection. -/
abbrev ConnectionId := Nat

/-- The name of a connection in reports. -/
def connectionName (id : ConnectionId) : String := "conn-" ++ toString id

/-- The place of a handle among all handles. -/
abbrev HandleId := Nat

/-- The place of a client's write side among all of them. -/
abbrev SinkId := Nat

/-- The way to one connection's write side. -/
structure Handle where
  id : ConnectionId
  sink : SinkId
  /-- Deliveries that failed since the last one that did not. -/
  streak : Nat := 0
  /-- Whether the registration has ended. -/
  removed : Bool := false
  deriving DecidableEq, Repr

/-- A registered connection and its topics, each of them once and none of them empty. -/
structure Registration where
  id : ConnectionId
  handle : HandleId
  topics : List Topic
  deriving DecidableEq

namespace Registration

/-- Adds topics; the empty topic is passed over. -/
def add (e : Registration) (topics : List Topic) : Registration :=
  { e with topics := (e.topics ++ topics.filter (!·.isEmpty)).eraseDups }

/-- Takes topics away. -/
def drop (e : Registration) (topics : List Topic) : Registration :=
  { e with topics := e.topics.filter (!topics.contains ·) }

end Registration

/-- The registry: the next id, every handle ever made, and the connections registered now, at most
one for each id. -/
structure Registry where
  nextId : ConnectionId := 1
  handles : List Handle := []
  entries : List Registration := []
  deriving DecidableEq

namespace Registry

/-- How many ids there are. -/
def idCount : Nat := Nat.pow 2 64

/-- The next id. After the last one they begin anew. -/
def allocate (r : Registry) : ConnectionId × Registry :=
  (r.nextId, { r with nextId := (r.nextId + 1) % idCount })

/-- The registration of a connection. -/
def find? (r : Registry) (id : ConnectionId) : Option Registration :=
  r.entries.find? (·.id == id)

/-- Whether a connection is registered. -/
def contains (r : Registry) (id : ConnectionId) : Bool := (r.find? id).isSome

/-- Registers a connection without topics. One that is registered stays as it is, handle and all. -/
def register (r : Registry) (id : ConnectionId) (sink : SinkId) : HandleId × Registry :=
  match r.find? id with
  | some e => (e.handle, r)
  | none =>
    (r.handles.length,
      { r with
        handles := r.handles ++ [⟨id, sink, 0, false⟩]
        entries := r.entries ++ [⟨id, r.handles.length, []⟩] })

/-- Ends a registration. Only who ends it gets the handle. -/
def unregister (r : Registry) (id : ConnectionId) : Option HandleId × Registry :=
  match r.find? id with
  | some e =>
    (some e.handle,
      { r with
        handles := r.handles.modify e.handle fun h => { h with removed := true }
        entries := r.entries.filter (·.id != id) })
  | none => (none, r)

/-- Changes the registration of a connection; says whether there is one. -/
def update (r : Registry) (id : ConnectionId) (f : Registration → Registration) : Bool × Registry :=
  (r.contains id, { r with entries := r.entries.map fun e => if e.id == id then f e else e })

/-- Adds topics to a connection's; says whether it is registered. -/
def subscribe (r : Registry) (id : ConnectionId) (topics : List Topic) : Bool × Registry :=
  r.update id (·.add topics)

/-- Takes topics from a connection's; says whether it is registered. -/
def unsubscribe (r : Registry) (id : ConnectionId) (topics : List Topic) : Bool × Registry :=
  r.update id (·.drop topics)

/-- The handles of the connections that want a topic now. -/
def matching (r : Registry) (t : Topic) : List HandleId :=
  (r.entries.filter (·.topics.contains t)).map (·.handle)

/-- A connection's topics in the order of their names. -/
def topics? (r : Registry) (id : ConnectionId) : Option (List Topic) :=
  (r.find? id).map fun e => e.topics.mergeSort fun a b => decide (a.name ≤ b.name)

/-- How many connections are registered. -/
def size (r : Registry) : Nat := r.entries.length

/-- How many pairs of a registered connection and a topic there are. -/
def subscriptionCount (r : Registry) : Nat := (r.entries.map (·.topics.length)).foldl (· + ·) 0

/-- A delivery through the handle failed; the length of its streak now. -/
def recordFailure (r : Registry) (h : HandleId) : Nat × Registry :=
  let r := { r with handles := r.handles.modify h fun x => { x with streak := x.streak + 1 } }
  (((r.handles[h]?).map (·.streak)).getD 0, r)

/-- A delivery through the handle succeeded. -/
def recordSuccess (r : Registry) (h : HandleId) : Registry :=
  { r with handles := r.handles.modify h fun x => { x with streak := 0 } }

end Registry

end CandleRelay.Gateway
