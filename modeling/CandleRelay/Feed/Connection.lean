import CandleRelay.Feed.Line

/-!
# The socket behind the line

A socket is connected from a successful handshake until either side closes or reading fails. A
disconnected socket takes no text and gives no frames; closing it again is no error.
-/

namespace CandleRelay.Feed

/-- Whether the socket is in use. -/
inductive ConnectionState where
  | connected
  | disconnected
  deriving DecidableEq, Repr

/-- The socket, with the address it was opened for. -/
structure Connection where
  url : String
  state : ConnectionState := .connected
  deriving DecidableEq, Repr

/-- What comes of a handshake. -/
inductive Handshake where
  | accepted
  | refused (reason : String)
  /-- No answer before the time was up. -/
  | unanswered
  deriving DecidableEq, Repr

namespace Connection

/-- Opens a socket. -/
def connect (url : String) : Handshake → Except LineError Connection
  | .accepted => .ok { url }
  | .refused reason => .error (.connectionFailed reason)
  | .unanswered => .error .timeout

/-- Whether the socket is in use. -/
def isConnected (c : Connection) : Bool := c.state == .connected

/-- Sends; `outcome` is what the network makes of it. -/
def send (c : Connection) (outcome : Except String Unit) : Except LineError Unit :=
  match c.state, outcome with
  | .disconnected, _ => .error .notConnected
  | .connected, .error reason => .error (.sendFailed reason)
  | .connected, .ok _ => .ok ()

/-- What the network gives to one read: a frame, the end of the stream, or an error. -/
inductive Arrival where
  | frame (f : Incoming)
  | ended
  | broken (reason : String)
  deriving DecidableEq

/-- Reads; a close, the end of the stream and an error all disconnect. -/
def receive (c : Connection) (a : Arrival) : Except LineError (Option Incoming) × Connection :=
  match c.state, a with
  | .disconnected, _ => (.error .notConnected, c)
  | .connected, .frame .close => (.ok (some .close), { c with state := .disconnected })
  | .connected, .frame f => (.ok (some f), c)
  | .connected, .ended => (.ok none, { c with state := .disconnected })
  | .connected, .broken reason =>
    (.error (.receiveFailed reason), { c with state := .disconnected })

/-- Closes. What the other side says to it does not matter. -/
def close (c : Connection) : Connection := { c with state := .disconnected }

end Connection

end CandleRelay.Feed
