import CandleRelay.Interval
import CandleRelay.Json.Quoted

/-!
# Subscription batches

The exchange caps the streams of one request, so the symbols of an interval are asked for in
batches of at most `size`. Batches keep the order of the symbols, are numbered from zero within
their plan, and carry consecutive request ids.
-/

namespace CandleRelay.Feed

/-- One request's worth of streams. -/
structure Batch where
  id : UInt64
  index : Nat
  interval : Interval
  symbols : List Symbol
  deriving DecidableEq

namespace Batch

/-- The streams that the request names. -/
def params (b : Batch) : List String :=
  b.symbols.map b.interval.streamName

/-- The text of the request. -/
def request (b : Batch) : String :=
  "\x7b\"method\":\"SUBSCRIBE\",\"params\":" ++ Json.quotedList b.params ++
    ",\"id\":" ++ toString b.id.toNat ++ "\x7d"

/-- The name of the first symbol; empty without one. -/
def firstName (b : Batch) : String :=
  match b.symbols with
  | [] => ""
  | s :: _ => s.name

end Batch

/-- Why streams were not requested. -/
inductive SubscriptionError where
  | sendFailed (index : Nat) (id : UInt64) (interval : Interval) (first reason : String)
  | invalidBatchSize
  | invalidDelay
  deriving DecidableEq, Repr

namespace SubscriptionError

/-- The text of the error. -/
def message : SubscriptionError → String
  | sendFailed index id interval first reason =>
    "Failed to send subscription batch " ++ toString index ++ " (id " ++ toString id.toNat ++
      ", interval " ++ interval.code ++ ", first symbol " ++ first ++ "): " ++ reason
  | invalidBatchSize => "Batch size must be greater than zero"
  | invalidDelay => "Inter-batch delay must be greater than zero"

/-- The batch whose request could not be sent. -/
def ofBatch (b : Batch) (reason : String) : SubscriptionError :=
  .sendFailed b.index b.id b.interval b.firstName reason

end SubscriptionError

/-- Cuts a list into groups of `size`, the last one perhaps shorter. A size of zero counts as one.
-/
def inGroups {α : Type} (size : Nat) : List α → List (List α)
  | [] => []
  | a :: rest => (a :: rest.take (size - 1)) :: inGroups size (rest.drop (size - 1))
  termination_by l => l.length
  decreasing_by simp only [List.length_drop, List.length_cons]; omega

/-- The batches for the symbols on one interval, with request ids from `firstId` on. -/
def plan (symbols : List Symbol) (interval : Interval) (size : Nat) (firstId : UInt64) :
    Except SubscriptionError (List Batch) :=
  if size = 0 then .error .invalidBatchSize
  else
    .ok ((inGroups size symbols).mapIdx fun index group =>
      ⟨firstId + index.toUInt64, index, interval, group⟩)

end CandleRelay.Feed
