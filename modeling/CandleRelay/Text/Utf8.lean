/-!
# UTF-8

Payloads travel as bytes and are never re-encoded; names and control frames are text. This module
holds the two directions between them. A text is written with the standard encoding of each
character; bytes are read as text only if every character is in its shortest form, is no surrogate
and lies below U+110000.
-/

namespace CandleRelay

/-- A run of octets as it stands on the wire. -/
abbrev Bytes := List UInt8

namespace Text.Utf8

/-- The bytes of a text. -/
def encode (s : String) : Bytes :=
  s.toList.flatMap String.utf8EncodeChar

/-- The six payload bits of a continuation byte, `10xxxxxx`. -/
def continuation? (b : UInt8) : Option Nat :=
  if 0x80 ≤ b && b < 0xC0 then some (b.toNat - 0x80) else none

/-- The character with code point `n`, if `n` needs a form as long as one that starts at `least`. -/
def scalar? (least n : Nat) : Option Char :=
  if least ≤ n && n.isValidChar then some (Char.ofNat n) else none

/-- The character written in two bytes. -/
def pair? (a b : UInt8) : Option Char :=
  if 0xC0 ≤ a && a < 0xE0 then
    match continuation? b with
    | some y => scalar? 0x80 ((a.toNat - 0xC0) * 64 + y)
    | none => none
  else none

/-- The character written in three bytes. -/
def triple? (a b c : UInt8) : Option Char :=
  if 0xE0 ≤ a && a < 0xF0 then
    match continuation? b, continuation? c with
    | some y, some z => scalar? 0x800 (((a.toNat - 0xE0) * 64 + y) * 64 + z)
    | _, _ => none
  else none

/-- The character written in four bytes. -/
def quadruple? (a b c d : UInt8) : Option Char :=
  if 0xF0 ≤ a && a < 0xF8 then
    match continuation? b, continuation? c, continuation? d with
    | some x, some y, some z =>
      scalar? 0x10000 ((((a.toNat - 0xF0) * 64 + x) * 64 + y) * 64 + z)
    | _, _, _ => none
  else none

/-- Reads characters to the end of the bytes; `done` holds those read so far, latest first. -/
def charsAfter? (done : List Char) : Bytes → Option (List Char)
  | [] => some done.reverse
  | a :: rest =>
    if a < 0x80 then charsAfter? (Char.ofNat a.toNat :: done) rest
    else if a < 0xE0 then
      match rest with
      | b :: rest =>
        match pair? a b with
        | some ch => charsAfter? (ch :: done) rest
        | none => none
      | [] => none
    else if a < 0xF0 then
      match rest with
      | b :: c :: rest =>
        match triple? a b c with
        | some ch => charsAfter? (ch :: done) rest
        | none => none
      | _ => none
    else
      match rest with
      | b :: c :: d :: rest =>
        match quadruple? a b c d with
        | some ch => charsAfter? (ch :: done) rest
        | none => none
      | _ => none

/-- The text that the bytes encode, if they encode one. -/
def decode? (bytes : Bytes) : Option String :=
  (charsAfter? [] bytes).map String.ofList

end Text.Utf8

end CandleRelay
