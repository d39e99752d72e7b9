import CandleRelay.Json.Reader
import CandleRelay.Json.Record
import CandleRelay.Symbol

/-!
# Control frames

What a client may ask of the gateway: to receive topics or to receive them no more. A frame is a
record of a method, the topics, and perhaps an id that is read and forgotten. Topics are taken in
canonical form; blank ones are dropped and repetitions kept. A method with another name is well
formed, but nothing is done for it.
-/

namespace CandleRelay.Gateway

open Json

/-- What a client asks for. -/
inductive Method where
  | subscribe
  | unsubscribe
  | unsupported (word : String)
  deriving DecidableEq, Repr

/-- The method that a word names; letter case counts. -/
def Method.ofWord (word : String) : Method :=
  if word = "SUBSCRIBE" then .subscribe
  else if word = "UNSUBSCRIBE" then .unsubscribe
  else .unsupported word

/-- A request of a client. -/
structure ControlFrame where
  method : Method
  topics : List Topic
  deriving DecidableEq

/-- Why a frame is no request. -/
inductive ControlError where
  | malformed (detail : String)
  deriving DecidableEq, Repr

/-- The text of the error. -/
def ControlError.message : ControlError → String
  | .malformed detail => "Malformed control frame: " ++ detail

namespace ControlFrame

/-- Names of the members, in the order of the array form. -/
def fields : List String := ["method", "params", "id"]

/-- The topics that the parameters name. -/
def topicsOf (params : List String) : List Topic :=
  (params.map Topic.ofString).filter (!·.isEmpty)

/-- The request that a document writes. -/
def ofDoc? (d : Doc) : Option ControlFrame := do
  let r ← d.record? fields 2
  let word ← required? Doc.text? "method" r
  let params ← required? (Doc.items? Doc.text?) "params" r
  if ((r.lookup "id").map (·.isReadable 1)).getD true then
    return ⟨Method.ofWord word, topicsOf params⟩
  else none

/-- Reads one client frame. -/
def parse (frame : Bytes) : Except ControlError ControlFrame :=
  match (parse? frame).bind ofDoc? with
  | some f => .ok f
  | none => .error (.malformed "not a control frame")

end ControlFrame

end CandleRelay.Gateway
