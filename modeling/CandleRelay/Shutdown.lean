/-!
# Shutdown

One request to stop, raised by its owner and seen by every long-running loop. Losing the owner is
as good as a request for those that wait, though the request itself was never made.
-/

namespace CandleRelay

/-- The state of the request. -/
structure Shutdown where
  requested : Bool := false
  owned : Bool := true
  deriving DecidableEq, Repr

namespace Shutdown

/-- The owner asks for a stop. -/
def request (s : Shutdown) : Shutdown := { s with requested := true }

/-- The owner goes away. -/
def disown (s : Shutdown) : Shutdown := { s with owned := false }

/-- Whether waiting for the request ends now. -/
def isVisible (s : Shutdown) : Bool := s.requested || !s.owned

end Shutdown

end CandleRelay
