import CandleRelay.Bus.Memory
import CandleRelay.Feed.Client
import CandleRelay.Gateway.Traffic

/-!
# From the exchange to the clients

The whole way of an event in one process: the feed client reads its frames and publishes what they
carry on a bus of bounded capacity; the gateway's listener, subscribed to every topic from the
beginning, looks at one message of the bus after the other and dispatches those its pattern accepts;
and all the while the gateway goes on with its own business. These take turns in any order.

Beside them stand the rounds of reading gone through so far.
-/

namespace CandleRelay

/-- The feed client with the rounds to come and those gone through, and how reading ended, if it
did; the bus, on which the listener is the first subscriber; and the gateway. -/
structure Pipeline where
  feed : Feed.Client
  script : List Feed.Turn
  consumed : List Feed.Turn := []
  exit : Option (Except Feed.LineError Feed.Exit) := none
  bus : MemoryBus
  traffic : Gateway.Traffic

namespace Pipeline

/-- One thing that happens on the way. -/
inductive Act where
  /-- The feed client goes through one round of reading. -/
  | read
  /-- The listener looks at one message of the bus, unless it still has one in flight. -/
  | listen
  /-- Something happens in the gateway. -/
  | gateway (a : Gateway.Act)
  deriving DecidableEq

/-- A feed client with rounds of reading before it, a new bus with the listener on it, and a gateway
that nobody has come to yet. -/
def start (settings : Gateway.Settings) (capacity : Nat) (feed : Feed.Client)
    (script : List Feed.Turn) : Pipeline where
  feed := feed
  script := script
  bus := (MemoryBus.ofCapacity capacity).subscribe Glob.everything
  traffic := Gateway.Traffic.start settings

/-- One round of reading; what is published in it reaches the bus. -/
def readOn (p : Pipeline) : Pipeline :=
  match p.exit, p.script with
  | none, t :: rest =>
    let (exit, feed) := p.feed.turn t
    { p with
      feed := feed
      script := rest
      consumed := p.consumed ++ if exit.isNone then [t] else []
      exit := exit
      bus := (feed.published.drop p.feed.published.length).foldl MemoryBus.publish p.bus }
  | _, _ => p

/-- Where the listener stands on the bus. -/
def listener? (p : Pipeline) : Option Subscriber := p.bus.subscribers[0]?.join

/-- What the listener found goes into flight. -/
def dispatchFound (s : Gateway.Traffic) : Option Message → Gateway.Traffic
  | some m => (s.step (.publish m)).step .take
  | none => s

/-- The listener looks at the next message; one that its pattern accepts is dispatched. -/
def listenOn (p : Pipeline) : Pipeline :=
  match p.listener? with
  | none => p
  | some s =>
    if p.traffic.landed then
      let (found, s) := p.bus.look s
      { p with
        bus := { p.bus with subscribers := p.bus.subscribers.setIfInBounds 0 (some s) }
        traffic := dispatchFound p.traffic found }
    else p

/-- What an act does. No message comes to the gateway but from the bus. -/
def step (p : Pipeline) : Act → Pipeline
  | .read => p.readOn
  | .listen => p.listenOn
  | .gateway (.publish _) => p
  | .gateway .take => p
  | .gateway a => { p with traffic := p.traffic.step a }

/-- What a list of acts does. -/
def run (p : Pipeline) (acts : List Act) : Pipeline := acts.foldl step p

/-- How many messages of the bus the listener has not looked at. -/
def behind (p : Pipeline) : Nat :=
  match p.listener? with
  | some s => p.bus.log.size - s.next
  | none => 0

/-- Whether the listener has processed everything that was published. -/
def isDone (p : Pipeline) : Bool := p.behind == 0 && p.traffic.landed

/-- The frames taken from the exchange. -/
def frames (p : Pipeline) : List Bytes := p.consumed.filterMap (·.incoming.bytes?)

end Pipeline

end CandleRelay
