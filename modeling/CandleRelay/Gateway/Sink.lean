import CandleRelay.Text.Utf8

/-!
# Write sides

The write side of a client: how it takes a write and a close, and what has happened to it so far.
How long a write takes and whether it ends at all is given beforehand, and so is how many writes
still fail, which makes every delivery a function of the state. The behaviour may change between two
writes.
-/

namespace CandleRelay.Gateway

/-- Why a write did not reach the client. -/
inductive DeliveryError where
  | timeout
  | write (reason : String)
  | closed
  | panicked
  deriving DecidableEq, Repr

/-- The text of the error. -/
def DeliveryError.message : DeliveryError → String
  | .timeout => "Write timed out"
  | .write reason => "Write failed: " ++ reason
  | .closed => "Connection closed"
  | .panicked => "Sink panicked"

/-- How an operation runs: it comes to its end after so many milliseconds, or breaks down then, or
goes on for ever. -/
inductive Pace where
  | after (ms : Nat)
  | breaks (ms : Nat)
  | never
  deriving DecidableEq, Repr

/-- How an operation under a timeout ends. -/
inductive Ending where
  | inTime
  | timedOut
  | broken
  deriving DecidableEq, Repr

/-- How long an operation lasts under a timeout, and how it ends. What ends together with the
timeout has ended in time. -/
def Pace.within (timeout : Nat) : Pace → Nat × Ending
  | .after ms => if ms ≤ timeout then (ms, .inTime) else (timeout, .timedOut)
  | .breaks ms => if ms ≤ timeout then (ms, .broken) else (timeout, .timedOut)
  | .never => (timeout, .timedOut)

/-- How many of the next writes fail. -/
inductive Failures where
  | next (n : Nat)
  | always
  deriving DecidableEq, Repr

/-- Whether the next write fails. -/
def Failures.any : Failures → Bool
  | .next n => 0 < n
  | .always => true

/-- One failing write fewer. -/
def Failures.less : Failures → Failures
  | .next n => .next (n - 1)
  | .always => .always

/-- How a write side behaves. -/
structure Manner where
  /-- How a write runs. -/
  writing : Pace := .after 0
  /-- Which writes that come to their end fail there. -/
  failures : Failures := .next 0
  /-- How a close runs. -/
  closing : Pace := .after 0
  /-- Whether a write begins with the client leaving the registry. -/
  leaves : Bool := false
  deriving DecidableEq, Repr

/-- A client's write side: how it behaves, and what has happened to it. -/
structure Sink extends Manner where
  /-- The payloads that were written. -/
  received : List Bytes := []
  /-- How many writes were begun. -/
  attempts : Nat := 0
  /-- How many closes were begun. -/
  closeCalls : Nat := 0
  /-- Whether a close came to its end. -/
  closed : Bool := false
  deriving DecidableEq, Repr

namespace Sink

/-- A write begins. -/
def attempt (s : Sink) : Sink := { s with attempts := s.attempts + 1 }

/-- A write comes to its end and either fails or leaves the payload with the client. -/
def finish (s : Sink) (payload : Bytes) : Except DeliveryError Unit × Sink :=
  if s.failures.any then (.error (.write "refused"), { s with failures := s.failures.less })
  else (.ok (), { s with received := s.received ++ [payload] })

/-- A close begins. -/
def beginClose (s : Sink) : Sink := { s with closeCalls := s.closeCalls + 1 }

end Sink

end CandleRelay.Gateway
