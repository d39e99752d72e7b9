import CandleRelay.Discovery.Catalog
import CandleRelay.Span

/-!
# Discovery

Discovery asks for the catalog until it has an answer that another request would not better.
Failures of the network, of the server and an excess of requests pass; anything else is final, and
so is a catalog with no symbol to follow. Between requests it waits, twice as long each time, up to
ten seconds.
-/

namespace CandleRelay

/-- Why there are no symbols to follow. -/
inductive DiscoveryError where
  | network (reason : String)
  | http (status : Nat)
  | parse (reason : String)
  | noSymbols
  deriving DecidableEq, Repr

namespace DiscoveryError

/-- The text of the error. -/
def message : DiscoveryError → String
  | network reason => "Network error: " ++ reason
  | http status => "HTTP error: " ++ toString status
  | parse reason => "Parse error: " ++ reason
  | noSymbols => "No symbols found"

/-- Whether another request may fare better. -/
def isRetryable : DiscoveryError → Bool
  | network _ => true
  | http status => 500 ≤ status || status == 429
  | parse _ => false
  | noSymbols => false

end DiscoveryError

namespace Discovery

/-- What one request for the catalog brings. -/
inductive Response where
  /-- No answer. -/
  | lost (reason : String)
  /-- An answer, whose body may have been cut off. -/
  | answer (status : Nat) (body : Option Bytes)
  deriving DecidableEq, Repr

/-- Whether a status tells of success. -/
def isSuccess (status : Nat) : Bool := 200 ≤ status && status < 300

/-- The symbols in a response. Only the body of a success is looked at. -/
def Response.symbols (filter : QuoteFilter) : Response → Except DiscoveryError (List Symbol)
  | .lost reason => .error (.network reason)
  | .answer status body =>
    if isSuccess status then
      match body with
      | none => .error (.network "body cut off")
      | some body =>
        match symbols? filter body with
        | some symbols => .ok symbols
        | none => .error (.parse "not a catalog")
    else .error (.http status)

/-- How often to ask and how long to wait at first. -/
structure RetryPolicy where
  attempts : Nat
  initial : Span
  deriving DecidableEq, Repr

/-- The longest wait: ten seconds. -/
def longestWait : Span := ⟨10, 0, by decide, by decide⟩

namespace RetryPolicy

/-- A policy asks at least once. The first wait is given in milliseconds. -/
def ofLimits (attempts initial : Nat) : RetryPolicy :=
  ⟨max attempts 1, .ofMillis (.ofNatClamp initial)⟩

/-- The factor on the first wait after attempt `k`, counted from one. It doubles sixteen times at
most, so the shift stays within 32 bits. -/
def factor (k : Nat) : UInt32 := 1 <<< UInt32.ofNat (min (k - 1) 16)

/-- The wait after attempt `k`. -/
def delay (p : RetryPolicy) (k : Nat) : Span := min (p.initial.times (factor k)) longestWait

/-- The wait after attempt `k`, in milliseconds. -/
def backoff (p : RetryPolicy) (k : Nat) : Nat := (p.delay k).millis

end RetryPolicy

/-- One thing that a search does. -/
inductive Deed where
  /-- The request of an attempt. Attempts are counted from one. -/
  | ask (attempt : Nat)
  /-- A wait, in milliseconds. -/
  | wait (ms : Nat)
  deriving DecidableEq, Repr

/-- A search: its result, and what it did, in order. -/
structure Search where
  result : Except DiscoveryError (List Symbol)
  deeds : List Deed

namespace Search

/-- How many requests a search made. -/
def requests (s : Search) : Nat :=
  (s.deeds.filter fun
    | .ask _ => true
    | .wait _ => false).length

/-- How long a search waited, each time. -/
def waits (s : Search) : List Nat :=
  s.deeds.filterMap fun
    | .ask _ => none
    | .wait ms => some ms

end Search

/-- Asks from attempt `k` on, with `left` further attempts allowed; `deeds` holds what was done so
far, latest first. Attempt `k` brings `reply k`. -/
def searchFrom (p : RetryPolicy) (reply : Nat → Except DiscoveryError (List Symbol)) :
    (left k : Nat) → (deeds : List Deed) → Search
  | left, k, deeds =>
    let deeds := .ask k :: deeds
    match reply k with
    | .ok [] => ⟨.error .noSymbols, deeds.reverse⟩
    | .ok symbols => ⟨.ok symbols, deeds.reverse⟩
    | .error e =>
      match left with
      | 0 => ⟨.error e, deeds.reverse⟩
      | left + 1 =>
        if e.isRetryable then searchFrom p reply left (k + 1) (.wait (p.backoff k) :: deeds)
        else ⟨.error e, deeds.reverse⟩

/-- Asks until an answer is final or the attempts are used up. -/
def search (p : RetryPolicy) (reply : Nat → Except DiscoveryError (List Symbol)) : Search :=
  searchFrom p reply (p.attempts - 1) 1 []

/-- Discovery over the responses that the requests bring, attempt by attempt. -/
def discover (p : RetryPolicy) (filter : QuoteFilter) (respond : Nat → Response) : Search :=
  search p fun k => (respond k).symbols filter

end Discovery

end CandleRelay
