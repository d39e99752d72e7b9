import CandleRelay.Bus.Glob
import CandleRelay.Gateway.Dispatch

/-!
# The fan-out listener

The listener subscribes to every topic of the bus and dispatches one message after the other. A
request to stop is looked at before each message; the end of the subscription is an error.
-/

namespace CandleRelay.Gateway

/-- The listener at work: the gateway that it serves, the time spent in dispatches, the report of
each of them. -/
structure Listening where
  gateway : Gateway
  elapsed : Nat := 0
  reports : List DispatchReport := []

namespace Listening

/-- One message. -/
def take (settings : Settings) (l : Listening) (m : Message) : Listening :=
  let (report, ms, g) := dispatch settings (l.gateway.count .busMessages) m
  ⟨g, l.elapsed + ms, l.reports ++ [report]⟩

/-- Messages until a request to stop is seen before one of them, or after the last; without such a
request the subscription ends. -/
def run (settings : Settings) (stopAtEnd : Bool) (l : Listening) :
    List (Bool × Message) → Except BusError Unit × Listening
  | [] => (if stopAtEnd then .ok () else .error .closed, l)
  | (stopped, m) :: rest =>
    if stopped then (.ok (), l) else (l.take settings m).run settings stopAtEnd rest

end Listening

/-- Subscribes and listens. Without a subscription there is nothing to listen to. -/
def listen (settings : Settings) (subscribed : Except BusError Unit) (g : Gateway)
    (messages : List (Bool × Message)) (stopAtEnd : Bool) : Except BusError Unit × Listening :=
  match subscribed with
  | .error e => (.error e, { gateway := g })
  | .ok _ => Listening.run settings stopAtEnd { gateway := g } messages

end CandleRelay.Gateway
