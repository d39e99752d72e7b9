import CandleRelay.Json.Grammar
import CandleRelay.Json.Value
import Mathlib.Data.List.Forall2

/-!
# What JSON says

A value is what a document says when its strings are taken for the characters they spell. One value
has many documents, for a character may stand in a string as it is or by its number, and one
document is written in many ways. A number keeps its digits, so `1`, `1.0` and `10e-1` are three
values here.
-/

namespace CandleRelay.Json

/-! ## Values -/

/-- A JSON value, with members in the order in which they stand and repetitions kept. -/
inductive Value where
  | null
  | bool (b : Bool)
  | number (n : Numeral)
  | text (s : String)
  | array (items : List Value)
  | object (members : List (String × Value))
  deriving Inhabited

namespace Value

mutual

/-- How many arrays and objects are open at once at the deepest place. -/
def nesting : Value → Nat
  | .array items => nestingOfItems items + 1
  | .object members => nestingOfMembers members + 1
  | _ => 0

/-- The deepest nesting among the items. -/
def nestingOfItems : List Value → Nat
  | [] => 0
  | v :: rest => max v.nesting (nestingOfItems rest)

/-- The deepest nesting among the members' values. -/
def nestingOfMembers : List (String × Value) → Nat
  | [] => 0
  | (_, v) :: rest => max v.nesting (nestingOfMembers rest)

end

mutual

/-- The numbers anywhere in the value. -/
def numbers : Value → List Numeral
  | .number n => [n]
  | .array items => numbersOfItems items
  | .object members => numbersOfMembers members
  | _ => []

/-- The numbers anywhere in the items. -/
def numbersOfItems : List Value → List Numeral
  | [] => []
  | v :: rest => v.numbers ++ numbersOfItems rest

/-- The numbers anywhere in the members' values. -/
def numbersOfMembers : List (String × Value) → List Numeral
  | [] => []
  | (_, v) :: rest => v.numbers ++ numbersOfMembers rest

end

/-- The values that stand under a name, in order. -/
def under (name : String) (members : List (String × Value)) : List Value :=
  (members.filter (·.1 == name)).map (·.2)

end Value

/-! ## Numbers as quantities -/

namespace Numeral

/-- The power of ten that the exponent says. -/
def power (n : Numeral) : Int :=
  match n.exponent with
  | none => 0
  | some e => if e.sign = some true then -(value e.digits : Int) else value e.digits

/-- All digits but those of the exponent. -/
def significand (n : Numeral) : List Digit := n.whole ++ n.fraction.getD []

/-- Whether the exact magnitude of the number is at most `bound`. -/
def AtMost (n : Numeral) (bound : Nat) : Prop :=
  value n.significand * Nat.pow 10 n.power.toNat ≤
    bound * Nat.pow 10 ((-n.power).toNat + (n.fraction.getD []).length)

/-- The largest finite double. -/
def largestDouble : Nat := Nat.pow 2 1024 - Nat.pow 2 971

/-- A magnitude so far below the end of the range that roundings on the way do not matter. -/
def moderateBound : Nat := Nat.pow 2 1024 - Nat.pow 2 973

/-- A number that is well within the range of doubles, with an exponent of 31 bits. -/
structure Moderate (n : Numeral) : Prop where
  magnitude : n.AtMost moderateBound
  exponent : ∀ e, n.exponent = some e → value e.digits < Nat.pow 2 31

end Numeral

/-! ## Spelling -/

namespace Literal

/-- The first half of the surrogate pair of a character beyond the first 2^16. -/
def highHalf (c : Char) : UInt16 := UInt16.ofNat (0xD800 + (c.toNat - 0x10000) / 0x400)

/-- The second half of that pair. -/
def lowHalf (c : Char) : UInt16 := UInt16.ofNat (0xDC00 + (c.toNat - 0x10000) % 0x400)

/-- The ways to spell characters: each by its bytes or by its number, which takes a pair of units if
it is 2^16 or more. -/
inductive Spells : Literal → List Char → Prop
  | nil : Spells [] []
  | bytes (c : Char) {l : Literal} {cs : List Char} (others : Spells l cs) :
      Spells ((String.utf8EncodeChar c).map .byte ++ l) (c :: cs)
  | unit {c : Char} (hc : c.toNat < 0x10000) {l : Literal} {cs : List Char}
      (others : Spells l cs) : Spells (.unit (UInt16.ofNat c.toNat) :: l) (c :: cs)
  | pair {c : Char} (hc : 0x10000 ≤ c.toNat) {l : Literal} {cs : List Char}
      (others : Spells l cs) : Spells (.unit (highHalf c) :: .unit (lowHalf c) :: l) (c :: cs)

end Literal

/-- A member with its key spelled. -/
inductive Named (P : Doc → Value → Prop) : Member → String × Value → Prop
  | mk {k : Literal} {name : String} {d : Doc} {v : Value} (key : k.Spells name.toList)
      (value : P d v) : Named P (k, d) (name, v)

/-- The value that a document says. -/
inductive Doc.Means : Doc → Value → Prop
  | null : Means .null .null
  | bool (b : Bool) : Means (.bool b) (.bool b)
  | number (n : Numeral) : Means (.number n) (.number n)
  | text {l : Literal} {s : String} (h : l.Spells s.toList) : Means (.text l) (.text s)
  | array {items : List Doc} {values : List Value} (h : List.Forall₂ Means items values) :
      Means (.array items) (.array values)
  | object {members : List Member} {values : List (String × Value)}
      (h : List.Forall₂ (Named Means) members values) : Means (.object members) (.object values)

/-- The input is a way to write the value. -/
def Value.Rendered (v : Value) (input : Bytes) : Prop := ∃ d : Doc, d.Means v ∧ d.WrittenAs input

end CandleRelay.Json
