import CandleRelay.Symbol
import CandleRelay.Text.Utf8

/-!
# Bus messages

The bus carries payloads on topics. It is volatile: what is published while nobody listens is gone.
-/

namespace CandleRelay

/-- A payload on a topic. -/
structure Message where
  topic : Topic
  payload : Bytes
  deriving DecidableEq

/-- The message that arrives from the bus of another process: the channel is a name there, and is
taken in canonical form. -/
def Message.ofChannel (channel : String) (payload : Bytes) : Message :=
  ⟨Topic.ofString channel, payload⟩

/-- Why the bus refused. -/
inductive BusError where
  /-- The bus of another process could not be used. -/
  | redis (reason : String)
  | closed
  deriving DecidableEq, Repr

namespace BusError

/-- The text of the error. -/
def message : BusError → String
  | redis reason => "Redis error: " ++ reason
  | closed => "Bus closed"

end BusError

end CandleRelay
