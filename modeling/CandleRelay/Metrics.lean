/-!
# Metrics

What the relay counts. The ingestion side counts frames, publications and requests; the gateway
side counts connections, client frames, bus messages and deliveries. Counters only grow. The
number of active connections is not counted but read off two counters.
-/

namespace CandleRelay

/-- One thing that is counted. -/
inductive Counter where
  | eventsDecoded | decodeErrors | eventsPublished | publishErrors | batchesSent
  | connectionsOpened | connectionsClosed | malformedFrames | busMessages
  | deliveries | deliveryFailures | evictions
  deriving DecidableEq, Repr

/-- The counts so far, and whether any market data has come by at all. -/
structure Metrics where
  eventsDecoded : Nat := 0
  decodeErrors : Nat := 0
  eventsPublished : Nat := 0
  publishErrors : Nat := 0
  batchesSent : Nat := 0
  connectionsOpened : Nat := 0
  connectionsClosed : Nat := 0
  malformedFrames : Nat := 0
  busMessages : Nat := 0
  deliveries : Nat := 0
  deliveryFailures : Nat := 0
  evictions : Nat := 0
  heard : Bool := false
  deriving DecidableEq, Repr, Inhabited

namespace Metrics

/-- The value of a counter. -/
def get (m : Metrics) : Counter → Nat
  | .eventsDecoded => m.eventsDecoded
  | .decodeErrors => m.decodeErrors
  | .eventsPublished => m.eventsPublished
  | .publishErrors => m.publishErrors
  | .batchesSent => m.batchesSent
  | .connectionsOpened => m.connectionsOpened
  | .connectionsClosed => m.connectionsClosed
  | .malformedFrames => m.malformedFrames
  | .busMessages => m.busMessages
  | .deliveries => m.deliveries
  | .deliveryFailures => m.deliveryFailures
  | .evictions => m.evictions

/-- One more. Decoded events and bus messages are the market data that an age is reckoned from. -/
def bump (m : Metrics) : Counter → Metrics
  | .eventsDecoded => { m with eventsDecoded := m.eventsDecoded + 1, heard := true }
  | .decodeErrors => { m with decodeErrors := m.decodeErrors + 1 }
  | .eventsPublished => { m with eventsPublished := m.eventsPublished + 1 }
  | .publishErrors => { m with publishErrors := m.publishErrors + 1 }
  | .batchesSent => { m with batchesSent := m.batchesSent + 1 }
  | .connectionsOpened => { m with connectionsOpened := m.connectionsOpened + 1 }
  | .connectionsClosed => { m with connectionsClosed := m.connectionsClosed + 1 }
  | .malformedFrames => { m with malformedFrames := m.malformedFrames + 1 }
  | .busMessages => { m with busMessages := m.busMessages + 1, heard := true }
  | .deliveries => { m with deliveries := m.deliveries + 1 }
  | .deliveryFailures => { m with deliveryFailures := m.deliveryFailures + 1 }
  | .evictions => { m with evictions := m.evictions + 1 }

/-- A counter grows by the event it counts and by no other. -/
theorem get_bump (m : Metrics) (c d : Counter) :
    (m.bump c).get d = m.get d + if d = c then 1 else 0 := by
  cases c <;> cases d <;> rfl

/-- Connections that were opened and not closed since. -/
def activeConnections (m : Metrics) : Nat := m.connectionsOpened - m.connectionsClosed

/-- Every figure of the statistics page that does not depend on the clock, by its name there. -/
def figures (m : Metrics) : List (String × Nat) :=
  [("eventsDecoded", m.eventsDecoded), ("decodeErrors", m.decodeErrors),
    ("eventsPublished", m.eventsPublished), ("publishErrors", m.publishErrors),
    ("batchesSent", m.batchesSent), ("connectionsOpened", m.connectionsOpened),
    ("connectionsClosed", m.connectionsClosed), ("activeConnections", m.activeConnections),
    ("malformedFrames", m.malformedFrames), ("busMessages", m.busMessages),
    ("deliveries", m.deliveries), ("deliveryFailures", m.deliveryFailures),
    ("evictions", m.evictions)]

end Metrics

end CandleRelay
