import CandleRelay.Bus.Glob
import CandleRelay.Bus.Message

/-!
# The in-memory bus

All messages go into one log. A subscriber is a place in the log and a pattern; it starts at the
end of the log, so nothing is replayed. Of the log only the newest `window` messages are kept for
reading: a subscriber that is further behind jumps to the oldest of them, whatever the topics of
the messages it loses.
-/

namespace CandleRelay

/-- A reader of the bus. -/
structure Subscriber where
  pattern : String
  next : Nat
  deriving DecidableEq, Repr

/-- What a reader finds. -/
inductive Reading where
  | message (m : Message)
  /-- Nothing is waiting. -/
  | pending
  /-- Nothing is waiting and nobody can publish any more. -/
  | ended
  deriving DecidableEq

/-- A bus: its window, everything published on it, how many handles can publish, and its readers.
A reader that left is `none`, so that the others keep their numbers. -/
structure MemoryBus where
  window : Nat
  log : Array Message
  handles : Nat
  subscribers : Array (Option Subscriber)

namespace MemoryBus

/-- The least power of two that is at least `n`. -/
def powerAbove (n : Nat) : Nat :=
  if n ≤ 1 then 1 else Nat.pow 2 ((n - 1).log2 + 1)

/-- A bus that keeps `capacity` messages, rounded up to a power of two. -/
def ofCapacity (capacity : Nat) : MemoryBus :=
  ⟨powerAbove capacity, #[], 1, #[]⟩

/-- One more message, for whoever listens. -/
def publish (b : MemoryBus) (m : Message) : MemoryBus :=
  { b with log := b.log.push m }

/-- One more reader, of what is published from now on. -/
def subscribe (b : MemoryBus) (pattern : String) : MemoryBus :=
  { b with subscribers := b.subscribers.push (some ⟨pattern, b.log.size⟩) }

/-- The reader leaves. -/
def unsubscribe (b : MemoryBus) (i : Nat) : MemoryBus :=
  { b with subscribers := b.subscribers.setIfInBounds i none }

/-- One more handle that can publish. -/
def clone (b : MemoryBus) : MemoryBus :=
  { b with handles := b.handles + 1 }

/-- Handles go away. -/
def release (b : MemoryBus) (count : Nat) : MemoryBus :=
  { b with handles := b.handles - count }

/-- How many readers there are. -/
def subscriberCount (b : MemoryBus) : Nat :=
  b.subscribers.foldl (fun n s => if s.isSome then n + 1 else n) 0

/-- The oldest message that can still be read. -/
def oldest (b : MemoryBus) : Nat := b.log.size - b.window

/-- What a reader finds where it stands, and where it stands afterwards: the message there, if there
is one and the pattern accepts it. -/
def look (b : MemoryBus) (s : Subscriber) : Option Message × Subscriber :=
  let start := max s.next b.oldest
  match b.log[start]? with
  | some m =>
    (if Glob.accepts s.pattern m.topic.name then some m else none, { s with next := start + 1 })
  | none => (none, { s with next := start })

/-- The first message from `place` on that the pattern accepts, and its place; `left` messages
are in sight. -/
def seek (log : Array Message) (pattern : String) : (left place : Nat) → Option (Nat × Message)
  | 0, _ => none
  | left + 1, place =>
    match log[place]? with
    | none => none
    | some m =>
      if Glob.accepts pattern m.topic.name then some (place, m)
      else seek log pattern left (place + 1)

/-- What a reader finds, and where it stands afterwards. -/
def readAs (b : MemoryBus) (s : Subscriber) : Reading × Subscriber :=
  let start := max s.next b.oldest
  match seek b.log s.pattern (b.log.size - start) start with
  | some (place, m) => (.message m, { s with next := place + 1 })
  | none => (if b.handles = 0 then .ended else .pending, { s with next := b.log.size })

/-- What reader `i` finds next. One that left finds nothing. -/
def read (b : MemoryBus) (i : Nat) : Reading × MemoryBus :=
  match b.subscribers[i]? with
  | some (some s) =>
    let (found, s) := b.readAs s
    (found, { b with subscribers := b.subscribers.setIfInBounds i (some s) })
  | _ => (.ended, b)

/-- Everything that waits for reader `i`, in at most `fuel` readings, and what came last. -/
def drainWithin (b : MemoryBus) (i : Nat) : Nat → List Message × Reading × MemoryBus
  | 0 => ([], .pending, b)
  | fuel + 1 =>
    match b.read i with
    | (.message m, b) =>
      let (ms, last, b) := b.drainWithin i fuel
      (m :: ms, last, b)
    | (last, b) => ([], last, b)

/-- Everything that waits for reader `i`: a log holds no more than its size. -/
def drain (b : MemoryBus) (i : Nat) : List Message × Reading × MemoryBus :=
  b.drainWithin i (b.log.size + 1)

end MemoryBus

end CandleRelay
