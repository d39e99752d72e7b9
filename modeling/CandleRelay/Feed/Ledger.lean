import CandleRelay.Feed.Batch

/-!
# The subscription ledger

Every request that went out is kept under its id until the exchange answers. The latest record of
an id counts, and an answer to an unknown id changes nothing.
-/

namespace CandleRelay.Feed

/-- What has become of a request. -/
inductive BatchStatus where
  /-- Sent, not answered. -/
  | pending
  /-- Accepted by the exchange. -/
  | active
  /-- Refused by the exchange. -/
  | failed
  deriving DecidableEq, Repr

/-- A request and its status. -/
structure LedgerEntry where
  batch : Batch
  status : BatchStatus
  deriving DecidableEq

/-- The requests that went out, at most one for each id. -/
structure Ledger where
  entries : List LedgerEntry := []
  deriving DecidableEq

namespace Ledger

/-- The request with this id. -/
def find? (l : Ledger) (id : UInt64) : Option LedgerEntry :=
  l.entries.find? (·.batch.id == id)

/-- A request went out. It takes the place of an earlier one with its id. -/
def record (l : Ledger) (b : Batch) : Ledger :=
  ⟨⟨b, .pending⟩ :: l.entries.filter (·.batch.id != b.id)⟩

/-- The exchange answered: the request that it answered, and the ledger afterwards. -/
def settle (l : Ledger) (id : UInt64) (status : BatchStatus) : Option Batch × Ledger :=
  ((l.find? id).map (·.batch),
    ⟨l.entries.map fun e => if e.batch.id == id then { e with status } else e⟩)

/-- The request was accepted. -/
def confirm (l : Ledger) (id : UInt64) : Option Batch × Ledger := l.settle id .active

/-- The request was refused. -/
def reject (l : Ledger) (id : UInt64) : Option Batch × Ledger := l.settle id .failed

/-- What has become of a request. -/
def status? (l : Ledger) (id : UInt64) : Option BatchStatus := (l.find? id).map (·.status)

/-- How many requests have this status. -/
def count (l : Ledger) (s : BatchStatus) : Nat := (l.entries.filter (·.status == s)).length

/-- How many requests there are. -/
def size (l : Ledger) : Nat := l.entries.length

/-- How many streams the accepted requests hold. -/
def activeStreams (l : Ledger) : Nat :=
  ((l.entries.filter (·.status == .active)).map (·.batch.symbols.length)).foldl (· + ·) 0

end Ledger

end CandleRelay.Feed
