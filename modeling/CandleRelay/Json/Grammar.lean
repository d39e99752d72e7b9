import CandleRelay.Json.Reader

/-!
# The JSON grammar

Which bytes write which document, said without the automaton that reads them. Between tokens there
may be blanks. A string is written piece by piece, a byte as it stands or by its short escape, and
a `\u` escape with hexadecimal digits of either case. A number has one spelling up to the letter of
its exponent. Arrays and objects are separated by commas, with none after the last entry.

A document says how it is written but for the blanks and those spellings, so the grammar is a
relation: the same document is written in many ways. What stands inside a string that is written
as it stands is no matter of the grammar, and neither is how deep values are nested.
-/

namespace CandleRelay.Json

/-- A run of blanks. -/
def Blank (w : Bytes) : Prop := ∀ b ∈ w, Byte.isBlank b = true

/-! ## Strings -/

/-- The letters of the short escapes, each with the byte that it stands for. -/
def shortEscapes : List (UInt8 × UInt8) :=
  [(0x22, 0x22), (0x5C, 0x5C), (0x2F, 0x2F), (0x62, 0x08), (0x66, 0x0C), (0x6E, 0x0A),
    (0x72, 0x0D), (0x74, 0x09)]

/-- A byte that stands for itself in a string. -/
structure Bare (b : UInt8) : Prop where
  notQuote : b ≠ Byte.quote
  notBackslash : b ≠ Byte.backslash
  notControl : ¬ b < 0x20

/-- A hexadecimal digit of either case, and its value. -/
inductive HexDigit : UInt8 → Nat → Prop
  | decimal {k : Nat} (h : k < 10) : HexDigit (UInt8.ofNat (0x30 + k)) k
  | upper {k : Nat} (h : k < 6) : HexDigit (UInt8.ofNat (0x41 + k)) (10 + k)
  | lower {k : Nat} (h : k < 6) : HexDigit (UInt8.ofNat (0x61 + k)) (10 + k)

/-- The ways to write one step of a string. -/
inductive Piece.Written : Piece → Bytes → Prop
  | bare {b : UInt8} (h : Bare b) : Piece.Written (.byte b) [b]
  | short {letter b : UInt8} (h : (letter, b) ∈ shortEscapes) :
      Piece.Written (.byte b) [Byte.backslash, letter]
  | unit {a b c d : UInt8} {w x y z : Nat} (ha : HexDigit a w) (hb : HexDigit b x)
      (hc : HexDigit c y) (hd : HexDigit d z) :
      Piece.Written (.unit (UInt16.ofNat (((w * 16 + x) * 16 + y) * 16 + z)))
        [Byte.backslash, 0x75, a, b, c, d]

/-- The ways to write the inside of a string. -/
inductive Literal.Written : Literal → Bytes → Prop
  | nil : Literal.Written [] []
  | cons {p : Piece} {l : Literal} {v w : Bytes} (first : p.Written v)
      (others : Literal.Written l w) : Literal.Written (p :: l) (v ++ w)

/-- The string that holds the bytes of a text, none of them escaped. -/
def Literal.plain (s : String) : Literal := (Text.Utf8.encode s).map .byte

/-! ## Numbers -/

/-- The byte that writes a digit. -/
def Digit.byte (d : Digit) : UInt8 := UInt8.ofNat (0x30 + d.val)

/-- A digit as such a byte, for each of the digits. -/
def digitBytes (ds : List Digit) : Bytes := ds.map Digit.byte

namespace Numeral

/-- The sign before a negative number. -/
def minusBytes : Bool → Bytes
  | false => []
  | true => [Byte.minus]

/-- The point and what follows it. -/
def fractionBytes : Option (List Digit) → Bytes
  | none => []
  | some ds => Byte.point :: digitBytes ds

/-- The sign of an exponent. -/
def signBytes : Option Bool → Bytes
  | none => []
  | some false => [Byte.plus]
  | some true => [Byte.minus]

/-- The exponent, with its letter. -/
def exponentBytes (letter : UInt8) : Option Exponent → Bytes
  | none => []
  | some e => letter :: (signBytes e.sign ++ digitBytes e.digits)

/-- The number with this letter before its exponent. -/
def bytes (letter : UInt8) (n : Numeral) : Bytes :=
  minusBytes n.negative ++ digitBytes n.whole ++ fractionBytes n.fraction ++
    exponentBytes letter n.exponent

/-- A whole part starts with zero only if it is zero. -/
def LeadsWell (whole : List Digit) : Prop := whole.head? = some 0 → whole = [0]

/-- No part that is there lacks digits. -/
structure WellFormed (n : Numeral) : Prop where
  whole : n.whole ≠ []
  leads : LeadsWell n.whole
  fraction : n.fraction ≠ some []
  exponent : ∀ e, n.exponent = some e → e.digits ≠ []

/-- The letters of an exponent. -/
def IsLetter (b : UInt8) : Prop := b = 0x65 ∨ b = 0x45

/-- The ways to write a number. -/
def Written (n : Numeral) (w : Bytes) : Prop :=
  n.WellFormed ∧ ∃ letter, IsLetter letter ∧ w = n.bytes letter

end Numeral

/-! ## Documents -/

/-- Entries with commas between them and blanks around each; blanks alone for no entry. -/
inductive Separated {α : Type} (P : α → Bytes → Prop) : List α → Bytes → Prop
  | none {w : Bytes} (blank : Blank w) : Separated P [] w
  | one {x : α} {a w b : Bytes} (before : Blank a) (item : P x w) (after : Blank b) :
      Separated P [x] (a ++ w ++ b)
  | more {x y : α} {rest : List α} {a w b v : Bytes} (before : Blank a) (item : P x w)
      (after : Blank b) (others : Separated P (y :: rest) v) :
      Separated P (x :: y :: rest) (a ++ w ++ b ++ Byte.comma :: v)

/-- A key, a colon and a value. -/
inductive Keyed (P : Doc → Bytes → Prop) : Member → Bytes → Prop
  | mk {k : Literal} {d : Doc} {u a b w : Bytes} (key : k.Written u) (before : Blank a)
      (after : Blank b) (value : P d w) :
      Keyed P (k, d) (Byte.quote :: u ++ Byte.quote :: a ++ Byte.colon :: b ++ w)

namespace Doc

/-- The ways to write a document, from its first byte to its last. -/
inductive Written : Doc → Bytes → Prop
  | null : Written .null [0x6E, 0x75, 0x6C, 0x6C]
  | true : Written (.bool true) [0x74, 0x72, 0x75, 0x65]
  | false : Written (.bool false) [0x66, 0x61, 0x6C, 0x73, 0x65]
  | number {n : Numeral} {w : Bytes} (h : n.Written w) : Written (.number n) w
  | text {l : Literal} {w : Bytes} (h : l.Written w) :
      Written (.text l) (Byte.quote :: w ++ [Byte.quote])
  | array {items : List Doc} {w : Bytes} (h : Separated Written items w) :
      Written (.array items) (Byte.leftBracket :: w ++ [Byte.rightBracket])
  | object {members : List Member} {w : Bytes} (h : Separated (Keyed Written) members w) :
      Written (.object members) (Byte.leftBrace :: w ++ [Byte.rightBrace])

/-- The input is the document with blanks around it. -/
def WrittenAs (d : Doc) (input : Bytes) : Prop :=
  ∃ a w b, Blank a ∧ d.Written w ∧ Blank b ∧ input = a ++ w ++ b

end Doc

end CandleRelay.Json
