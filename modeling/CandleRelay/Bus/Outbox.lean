import CandleRelay.Bus.Message
import CandleRelay.Metrics

/-!
# Publishing

Decoded events go to the bus under their symbol's topic. The bus is best-effort: a refused
publication is counted and dropped, and nothing stops for it. An empty topic is never published on.
-/

namespace CandleRelay

/-- A publication that did not reach the bus. -/
structure PublishError where
  topic : Topic
  cause : BusError
  deriving DecidableEq

/-- The text of the error. -/
def PublishError.message (e : PublishError) : String :=
  "Failed to publish to " ++ e.topic.name ++ ": " ++ e.cause.message

/-- The publishing side: its counters and, in order, what reached the bus. -/
structure Outbox where
  metrics : Metrics := {}
  published : List Message := []
  deriving DecidableEq

namespace Outbox

/-- Hands a message to the bus, which is there or not. Nothing is counted. -/
def offer (o : Outbox) (busUp : Bool) (m : Message) : Except PublishError Outbox :=
  if busUp then .ok { o with published := o.published ++ [m] } else .error ⟨m.topic, .closed⟩

/-- Publishes and counts; says whether the bus took the message. -/
def publish (o : Outbox) (busUp : Bool) (m : Message) : Bool × Outbox :=
  if m.topic.isEmpty then (false, o)
  else
    match o.offer busUp m with
    | .ok o => (true, { o with metrics := o.metrics.bump .eventsPublished })
    | .error _ => (false, { o with metrics := o.metrics.bump .publishErrors })

end Outbox

end CandleRelay
