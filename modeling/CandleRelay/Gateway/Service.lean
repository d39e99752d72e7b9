import CandleRelay.Gateway.Traffic
import CandleRelay.Shutdown

/-!
# The listener's loop

The loop of the listener amid everything else that goes on in a gateway. With no message in flight
it looks first whether it has been asked to stop, and then returns without an error. If not, it
takes the next message of its subscription. With none left it waits for the next one, or, when the
subscription has ended and none will come, returns with an error.

What happens between two looks is up to others. `Listening.run`, where the listener is alone and
keeps to the clock, is one order of things among many.
-/

namespace CandleRelay.Gateway

/-- A gateway at work and the loop of its listener: the request to stop, whether the subscription
has ended, and what the loop has returned, if it has. -/
structure Service where
  traffic : Traffic
  shutdown : Shutdown := {}
  ended : Bool := false
  result : Option (Except BusError Unit) := none

namespace Service

/-- One thing that happens. -/
inductive Event where
  /-- Something happens in the gateway that the loop has no part in. -/
  | act (a : Act)
  /-- The listener is asked to stop. -/
  | request
  /-- Nobody is left who could ask. -/
  | disown
  /-- The subscription ends. -/
  | endStream
  /-- The loop looks what there is to do. -/
  | turn
  deriving DecidableEq

/-- The loop starts in a gateway that nobody has come to yet. -/
def start (settings : Settings) : Service := { traffic := Traffic.start settings }

/-- Whether the loop can look what there is to do: it has not returned and waits for no dispatch. -/
def isReady (s : Service) : Bool := s.result.isNone && s.traffic.landed

/-- The loop goes on. -/
def turn (s : Service) : Service :=
  if !s.isReady then s
  else if s.shutdown.isVisible then { s with result := some (.ok ()) }
  else if s.ended && s.traffic.waiting.isEmpty then { s with result := some (.error .closed) }
  else { s with traffic := s.traffic.step .take }

/-- Something else happens in the gateway. No message comes from a subscription that has ended, and
only the loop takes one. -/
def act (s : Service) : Act → Service
  | .take => s
  | .publish m => if s.ended then s else { s with traffic := s.traffic.step (.publish m) }
  | a => { s with traffic := s.traffic.step a }

/-- What an event does. -/
def step (s : Service) : Event → Service
  | .act a => s.act a
  | .request => { s with shutdown := s.shutdown.request }
  | .disown => { s with shutdown := s.shutdown.disown }
  | .endStream => { s with ended := true }
  | .turn => s.turn

/-- What a list of events does. -/
def run (s : Service) (events : List Event) : Service := events.foldl step s

end Service

end CandleRelay.Gateway
