import CandleRelay.Discovery.Search
import CandleRelay.Feed.Client
import CandleRelay.RelayError

/-!
# The ingestion worker

The worker discovers the symbols, keeps as many of them as the stream limit allows, connects, asks
for their streams on every configured interval, and reads until shutdown or until the exchange
ends the stream. Whatever fails on the way stops it.
-/

namespace CandleRelay

/-- The longest beginning of the symbols whose streams, one for each interval, fit the limit. -/
def fitStreams (symbols : List Symbol) (intervals maxStreams : Nat) : List Symbol :=
  symbols.take (maxStreams / max intervals 1)

namespace Worker

/-- What the worker asks for, and how fast. -/
structure Plan where
  filter : QuoteFilter
  retry : Discovery.RetryPolicy
  intervals : List Interval
  batchSize : Nat
  batchDelay : Nat
  maxStreams : Nat

/-- What the worker meets: the answers to its catalog requests, the outcome of connecting with the
line that comes of it, and the frames on it. -/
structure World where
  respond : Nat → Discovery.Response
  connect : Except Feed.LineError Feed.Line
  turns : List Feed.Turn
  stopAtEnd : Bool

/-- A world without a network: no request is answered, and no line comes of connecting. -/
def World.offline (reason : String) : World where
  respond := fun _ => .lost reason
  connect := .error (.connectionFailed reason)
  turns := []
  stopAtEnd := false

/-- Runs the worker; the client is there once the line is connected. -/
def run (p : Plan) (w : World) : Except RelayError Feed.Exit × Option Feed.Client :=
  match (Discovery.discover p.retry p.filter w.respond).result with
  | .error e => (.error (.discovery e), none)
  | .ok discovered =>
    let symbols := fitStreams discovered p.intervals.length p.maxStreams
    match w.connect with
    | .error e => (.error (.line e), none)
    | .ok line =>
      match ({ line } : Feed.Client).subscribeAll symbols p.batchSize p.batchDelay p.intervals with
      | (.error e, c) => (.error (.subscription e), some c)
      | (.ok _, c) =>
        match c.read w.stopAtEnd w.turns with
        | (.error e, c, _) => (.error (.line e), some c)
        | (.ok exit, c, _) => (.ok exit, some c)

end Worker

end CandleRelay
