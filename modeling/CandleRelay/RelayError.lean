import CandleRelay.Bus.Message
import CandleRelay.Discovery.Search
import CandleRelay.Feed.Batch
import CandleRelay.Feed.Line

/-!
# Failures of the relay

What stops a worker or a gateway, by the part that failed.
-/

namespace CandleRelay

/-- The part that failed, and how. -/
inductive RelayError where
  | discovery (e : DiscoveryError)
  | subscription (e : Feed.SubscriptionError)
  | line (e : Feed.LineError)
  | bus (e : BusError)
  | io (reason : String)
  deriving DecidableEq, Repr

/-- The text of the error. A failed subscription speaks for itself. -/
def RelayError.message : RelayError → String
  | .discovery e => "Symbol discovery failed: " ++ e.message
  | .subscription e => e.message
  | .line e => "WebSocket error: " ++ e.message
  | .bus e => "Bus error: " ++ e.message
  | .io reason => "IO error: " ++ reason

/-- What lies behind the error, told once more on its own. -/
def RelayError.causes : RelayError → List String
  | .discovery e => [e.message]
  | .subscription _ => []
  | .line e => [e.message]
  | .bus e => [e.message]
  | .io reason => [reason]

end CandleRelay
