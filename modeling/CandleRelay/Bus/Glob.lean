import CandleRelay.Text.Utf8

/-!
# Glob patterns

A subscription names its topics by a pattern in which `*` stands for any run of bytes and `?` for
any one byte. The matcher walks pattern and topic with one cursor each and remembers the last `*`
it passed, together with how much of the topic that star has taken; where it is stuck it goes back
there and lets the star take one byte more. A byte that equals the pattern's byte is taken as
itself first, also when both are `*`.

The walk is a machine of its own (`Cursor.step`), run with enough fuel for every pattern and topic.
-/

namespace CandleRelay.Glob

/-- The byte `*`. -/
abbrev star : UInt8 := 0x2A

/-- The byte `?`. -/
abbrev anyByte : UInt8 := 0x3F

/-- The pattern that a listener of everything subscribes to. -/
def everything : String := "*"

/-- Where a walk stands: the next byte of the pattern and of the topic, and, for the last star that
was passed, its place and the first topic byte that it has not taken. -/
structure Cursor where
  pattern : Nat
  topic : Nat
  back : Option (Nat × Nat)
  deriving DecidableEq, Repr

/-- A walk goes on, or it ends with an answer. -/
inductive Walk where
  | on (c : Cursor)
  | answer (matched : Bool)
  deriving DecidableEq, Repr

/-- One step of the walk. -/
def Cursor.step (pattern topic : Array UInt8) (c : Cursor) : Walk :=
  match topic[c.topic]? with
  | none => .answer ((pattern.toList.drop c.pattern).all (· == star))
  | some t =>
    let p := pattern[c.pattern]?
    if p = some anyByte ∨ p = some t then .on ⟨c.pattern + 1, c.topic + 1, c.back⟩
    else if p = some star then .on ⟨c.pattern + 1, c.topic, some (c.pattern, c.topic)⟩
    else
      match c.back with
      | some (place, taken) => .on ⟨place + 1, taken + 1, some (place, taken + 1)⟩
      | none => .answer false

/-- Walks for at most `fuel` steps. -/
def walk (pattern topic : Array UInt8) : Nat → Cursor → Option Bool
  | 0, _ => none
  | fuel + 1, c =>
    match c.step pattern topic with
    | .answer matched => some matched
    | .on c => walk pattern topic fuel c

/-- More steps than any walk takes. -/
def enough (pattern topic : Array UInt8) : Nat :=
  (topic.size + 2) * (pattern.size + 1)

/-- Whether the pattern matches the topic. -/
def isMatch (pattern topic : Array UInt8) : Bool :=
  (walk pattern topic (enough pattern topic) ⟨0, 0, none⟩).getD false

/-- Whether the pattern matches the topic, byte by byte. -/
def accepts (pattern topic : String) : Bool :=
  isMatch (Text.Utf8.encode pattern).toArray (Text.Utf8.encode topic).toArray

end CandleRelay.Glob
