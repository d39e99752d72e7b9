import CandleRelay.Gateway.Traffic

/-!
# The clock of a dispatch

A dispatch under way, beside a clock that shows the milliseconds since it began. Its deliveries go
their ways at the same time: each makes its next move when the clock shows that the move is due, and
of several that are due any may come first. The clock goes on while none is due, and not past the
time when the next one is. When all deliveries are over the dispatch returns, and the clock stops.

Meanwhile others go about their business, all but taking the next message. How the write sides
behave is given beforehand and stays as it is.
-/

namespace CandleRelay.Gateway

/-- What others do: they neither take the next message nor move a delivery, and the write sides
behave as before. -/
def Act.isAside : Act → Bool
  | .take | .move _ | .retune _ _ => false
  | _ => true

/-- A gateway with a dispatch under way, and the time since the dispatch began. -/
structure Timed where
  traffic : Traffic
  now : Nat := 0

namespace Timed

/-- One thing that happens: an act, or some time that passes. -/
inductive Tick where
  | act (a : Act)
  | pass (ms : Nat)
  deriving DecidableEq

/-- Whether a tick is the dispatch's own, and not something that others do. -/
def Tick.isOwn : Tick → Bool
  | .act (.move _) => true
  | .act _ => false
  | .pass _ => true

/-- The listener takes the next message, and its dispatch begins. -/
def start (s : Traffic) : Timed := { traffic := s.step .take }

/-- The deliveries of the dispatch. -/
def deliveries (s : Timed) : List Delivery :=
  match s.traffic.current with
  | some d => d.flight.deliveries
  | none => []

/-- Whether the next move of the `k`-th delivery is due. -/
def isDue (s : Timed) (k : Nat) : Bool :=
  (s.deliveries[k]?).any fun v => v.due?.any (· ≤ s.now)

/-- Whether so much time can pass: some delivery is not over, and no move is due before. -/
def mayPass (s : Timed) (ms : Nat) : Bool :=
  !s.traffic.landed && s.deliveries.all fun v => v.due?.all (s.now + ms ≤ ·)

/-- What a tick does. -/
def step (s : Timed) : Tick → Timed
  | .act (.move k) => if s.isDue k then { s with traffic := s.traffic.step (.move k) } else s
  | .act a => if a.isAside then { s with traffic := s.traffic.step a } else s
  | .pass ms => if s.mayPass ms then { s with now := s.now + ms } else s

/-- What a list of ticks does. -/
def run (s : Timed) (ticks : List Tick) : Timed := ticks.foldl step s

/-- Whether a tick brings the dispatch on. -/
def bringsOn (s : Timed) : Tick → Bool
  | .act (.move k) => s.isDue k
  | .act _ => false
  | .pass ms => 0 < ms && s.mayPass ms

/-- How many of the ticks bring the dispatch on. -/
def progress (s : Timed) : List Tick → Nat
  | [] => 0
  | tick :: ticks => (s.bringsOn tick).toNat + (s.step tick).progress ticks

end Timed

end CandleRelay.Gateway
