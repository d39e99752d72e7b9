import CandleRelay.Text.Utf8

/-!
# The line to the exchange

The one connection to the exchange as its client sees it: requests go out at a time on a clock of
milliseconds and each attempt succeeds or fails, frames come in, and the line can be closed. Which
attempts fail is given beforehand, so a run is determined by its inputs.
-/

namespace CandleRelay.Feed

/-- Why the line gave no service. -/
inductive LineError where
  | connectionFailed (reason : String)
  | sendFailed (reason : String)
  | receiveFailed (reason : String)
  | timeout
  | notConnected
  deriving DecidableEq, Repr

/-- The text of the error. -/
def LineError.message : LineError → String
  | .connectionFailed reason => "Connection failed: " ++ reason
  | .sendFailed reason => "Send failed: " ++ reason
  | .receiveFailed reason => "Receive failed: " ++ reason
  | .timeout => "Timeout"
  | .notConnected => "Not connected"

/-- What one read of the line gives. -/
inductive Incoming where
  | text (bytes : Bytes)
  | binary (bytes : Bytes)
  | ping
  | pong
  /-- The other side closes. -/
  | close
  | failure (e : LineError)
  deriving DecidableEq

/-- The bytes of a frame that carries any. -/
def Incoming.bytes? : Incoming → Option Bytes
  | .text bytes => some bytes
  | .binary bytes => some bytes
  | _ => none

/-- One attempt to send. -/
structure Attempt where
  time : Nat
  text : String
  ok : Bool
  deriving DecidableEq, Repr

/-- The line: the clock, the attempts so far, how often it was closed, and what it is going to
do: the error of each attempt that fails, by its number, and the error of closing. -/
structure Line where
  now : Nat := 0
  attempts : List Attempt := []
  closes : Nat := 0
  sendError : Nat → Option LineError := fun _ => none
  closeError : Option LineError := none

namespace Line

/-- Time passes. -/
def wait (l : Line) (ms : Nat) : Line := { l with now := l.now + ms }

/-- One attempt to send a text. -/
def send (l : Line) (text : String) : Except LineError Unit × Line :=
  match l.sendError l.attempts.length with
  | some e => (.error e, { l with attempts := l.attempts ++ [⟨l.now, text, false⟩] })
  | none => (.ok (), { l with attempts := l.attempts ++ [⟨l.now, text, true⟩] })

/-- The texts that went out. -/
def sent (l : Line) : List Attempt := l.attempts.filter (·.ok)

/-- Closes the line. -/
def close (l : Line) : Except LineError Unit × Line :=
  (match l.closeError with
    | some e => .error e
    | none => .ok (),
  { l with closes := l.closes + 1 })

end Line

end CandleRelay.Feed
