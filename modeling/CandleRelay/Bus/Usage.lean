import CandleRelay.Bus.Memory

/-!
# The bus in use

All that goes on around one bus: messages are published, readers come, read and leave, and handles
are copied and dropped, in any order. Whoever publishes, comes to read or copies a handle needs a
handle for it; readers outlive the handles.

Beside the bus stands what an onlooker writes down: what each reader came for, how much had been
published before it came, and what each of its readings found.
-/

namespace CandleRelay

/-- One reading: what was found and where the reader stands afterwards, with the number of messages
published by then and the number of handles left. -/
structure Note where
  found : Reading
  next : Nat
  published : Nat
  handles : Nat
  deriving DecidableEq

namespace Note

/-- The place of the message that was found. -/
def place? (n : Note) : Option Nat :=
  match n.found with
  | .message _ => some (n.next - 1)
  | _ => none

/-- The message that was found. -/
def message? (n : Note) : Option Message :=
  match n.found with
  | .message m => some m
  | _ => none

end Note

/-- What is written down when a reader reads. -/
def MemoryBus.noteOf (b : MemoryBus) (s : Subscriber) : Note :=
  ⟨(b.readAs s).1, (b.readAs s).2.next, b.log.size, b.handles⟩

/-- A bus, with the patterns of its readers in the order in which they came, each with the number of
messages published before, and all readings so far by the number of their reader. -/
structure BusUsage where
  bus : MemoryBus
  arrivals : List (String × Nat) := []
  notes : List (Nat × Note) := []

namespace BusUsage

/-- One thing that is done with a bus. -/
inductive Act where
  | publish (m : Message)
  | subscribe (pattern : String)
  | read (i : Nat)
  | unsubscribe (i : Nat)
  /-- A handle is copied. -/
  | clone
  /-- A handle goes away. -/
  | drop
  deriving DecidableEq

/-- A new bus. -/
def start (capacity : Nat) : BusUsage := { bus := MemoryBus.ofCapacity capacity }

/-- A reader reads, unless it has left or never came. -/
def readOn (u : BusUsage) (i : Nat) : BusUsage :=
  match u.bus.subscribers[i]? with
  | some (some s) =>
    { u with bus := (u.bus.read i).2, notes := u.notes ++ [(i, u.bus.noteOf s)] }
  | _ => u

/-- What an act does. -/
def step (u : BusUsage) : Act → BusUsage
  | .publish m => if u.bus.handles = 0 then u else { u with bus := u.bus.publish m }
  | .subscribe pattern =>
    if u.bus.handles = 0 then u
    else
      { u with
        bus := u.bus.subscribe pattern
        arrivals := u.arrivals ++ [(pattern, u.bus.log.size)] }
  | .read i => u.readOn i
  | .unsubscribe i => { u with bus := u.bus.unsubscribe i }
  | .clone => if u.bus.handles = 0 then u else { u with bus := u.bus.clone }
  | .drop => { u with bus := u.bus.release 1 }

/-- What a list of acts does. -/
def run (u : BusUsage) (acts : List Act) : BusUsage := acts.foldl step u

/-- The readings of one reader. -/
def readings (u : BusUsage) (i : Nat) : List Note :=
  u.notes.filterMap fun e => if e.1 = i then some e.2 else none

/-- The messages that one reader has found. -/
def received (u : BusUsage) (i : Nat) : List Message := (u.readings i).filterMap Note.message?

end BusUsage

end CandleRelay
