import CandleRelay.Json.Reader
import CandleRelay.Json.Record
import CandleRelay.Symbol

/-!
# Exchange frames

What the exchange sends. An event names its instrument in `s`, at the top or inside `data`; a reply
to a request carries the request's `id`, and a refusal a code and a text besides. Only the members
that routing needs are interpreted, but all of them before the frame is classified, so a frame with
one ill-typed member is no frame at all. The payload of an event is the frame's own bytes.
-/

namespace CandleRelay.Feed

open Json

/-- An event of one instrument. -/
structure MarketEvent where
  symbol : Symbol
  kind : Option String
  time : Option Nat
  payload : Bytes
  deriving DecidableEq

/-- The message that carries the event on the bus. -/
def MarketEvent.topic (e : MarketEvent) : Topic := e.symbol.topic

/-- A frame by what it is for. -/
inductive Frame where
  /-- Market data. -/
  | event (e : MarketEvent)
  /-- A request was accepted. -/
  | ack (id : UInt64)
  /-- A request was refused. -/
  | refusal (id : Option UInt64) (code : Int) (reason : String)
  deriving DecidableEq

/-- Why a frame is passed over. -/
inductive DecodeError where
  | malformed (detail : String)
  | missingSymbol
  | unknownFrame
  deriving DecidableEq, Repr

/-- The text of the error. -/
def DecodeError.message : DecodeError → String
  | .malformed detail => "Malformed JSON: " ++ detail
  | .missingSymbol => "Event has no symbol"
  | .unknownFrame => "Unrecognized frame"

/-- The members that describe an event. -/
structure EventBody where
  kind : Option String
  time : Option Nat
  symbol : Option String
  deriving DecidableEq, Repr

namespace EventBody

/-- Names of the members, in the order of the array form. -/
def fields : List String := ["e", "E", "s"]

/-- The description among the fields. -/
def ofFields? (r : List (String × Doc)) : Option EventBody := do
  let kind ← optional? Doc.text? "e" r
  let time ← optional? Doc.natural? "E" r
  let symbol ← optional? Doc.text? "s" r
  return ⟨kind, time, symbol⟩

/-- The description as a record of its own. -/
def ofDoc? (d : Doc) : Option EventBody :=
  (d.record? fields 0).bind ofFields?

end EventBody

/-- The members that describe a refusal. -/
structure Refusal where
  code : Int
  reason : String
  deriving DecidableEq, Repr

/-- The refusal as a record of its own. -/
def Refusal.ofDoc? (d : Doc) : Option Refusal := do
  let r ← d.record? ["code", "msg"] 2
  let code ← required? Doc.integer? "code" r
  let reason ← required? Doc.text? "msg" r
  return ⟨code, reason⟩

/-- All that a frame may say, before it is classified. -/
structure Envelope where
  data : Option EventBody
  body : EventBody
  id : Option Nat
  error : Option Refusal
  code : Option Int
  reason : Option String
  deriving DecidableEq, Repr

namespace Envelope

/-- The members with a meaning at the top of a frame. -/
def fields : List String := ["data", "e", "E", "s", "id", "error", "code", "msg"]

/-- The envelope that an object writes. Its other members are read whole, although nothing is done
with them. -/
def ofDoc? : Doc → Option Envelope
  | .object members => do
    let r ← fieldsOf? fields members
    if (othersOf fields members).all (·.2.isReadable 1) then
      let data ← optional? EventBody.ofDoc? "data" r
      let body ← EventBody.ofFields? r
      let id ← optional? Doc.natural? "id" r
      let error ← optional? Refusal.ofDoc? "error" r
      let code ← optional? Doc.integer? "code" r
      let reason ← optional? Doc.text? "msg" r
      return ⟨data, body, id, error, code, reason⟩
    else none
  | _ => none

/-- The event that a description stands for. -/
def event (body : EventBody) (payload : Bytes) : Except DecodeError Frame :=
  match body.symbol.bind Symbol.ofString? with
  | some s => .ok (.event ⟨s, body.kind, body.time, payload⟩)
  | none => .error .missingSymbol

/-- Market data first, then refusals in either form, then acknowledgements. -/
def classify (e : Envelope) (payload : Bytes) : Except DecodeError Frame :=
  let id := e.id.map Nat.toUInt64
  match e.data with
  | some body => event body payload
  | none =>
    if e.body.symbol.isSome then event e.body payload
    else
      match e.error, e.code, e.reason with
      | some r, _, _ => .ok (.refusal id r.code r.reason)
      | none, some code, some reason => .ok (.refusal id code reason)
      | none, _, _ =>
        match id with
        | some id => .ok (.ack id)
        | none => .error .unknownFrame

end Envelope

/-- Decodes one frame. -/
def decode (frame : Bytes) : Except DecodeError Frame :=
  match (parse? frame).bind Envelope.ofDoc? with
  | some e => e.classify frame
  | none => .error (.malformed "not a stream frame")

/-- The event that a frame decodes to, if it is one. -/
def event? (frame : Bytes) : Option MarketEvent :=
  match decode frame with
  | .ok (.event e) => some e
  | _ => none

end CandleRelay.Feed
