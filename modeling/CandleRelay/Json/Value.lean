import CandleRelay.Json.Doc

/-!
# What strings and numbers stand for

A string stands for a text if its escaped surrogates come in pairs and its bytes are UTF-8. A
number without fraction and exponent stands for an integer; as a quantity it has to fit a double,
with the magnitude worked out the way a reader with one 64-bit accumulator does it: digits beyond
the accumulator are dropped, and the accumulator and the power of ten are rounded before they are
multiplied.
-/

namespace CandleRelay.Json

namespace Literal

/-- Whether a unit is the second half of a surrogate pair. -/
def isLow (u : UInt16) : Bool := 0xDC00 ≤ u && u < 0xE000

/-- Whether a unit is the first half of a surrogate pair. -/
def isHigh (u : UInt16) : Bool := 0xD800 ≤ u && u < 0xDC00

/-- The character that a surrogate pair stands for. -/
def paired (u v : UInt16) : Char :=
  Char.ofNat (0x10000 + (u.toNat - 0xD800) * 0x400 + (v.toNat - 0xDC00))

/-- The bytes of the string, escapes resolved. A surrogate outside a pair stands for nothing. -/
def bytes? : Literal → Option Bytes
  | [] => some []
  | .byte b :: rest => (bytes? rest).map (b :: ·)
  | .unit u :: .unit v :: rest =>
    if isHigh u && isLow v then (bytes? rest).map (String.utf8EncodeChar (paired u v) ++ ·)
    else if isHigh u || isLow u then none
    else (bytes? (.unit v :: rest)).map (String.utf8EncodeChar (Char.ofNat u.toNat) ++ ·)
  | .unit u :: rest =>
    if isHigh u || isLow u then none
    else (bytes? rest).map (String.utf8EncodeChar (Char.ofNat u.toNat) ++ ·)

/-- The text that the string stands for. -/
def text? (l : Literal) : Option String :=
  (bytes? l).bind Text.Utf8.decode?

end Literal

namespace Numeral

/-- The value of a run of digits. -/
def value (digits : List Digit) : Nat :=
  digits.foldl (fun n d => n * 10 + d.val) 0

/-- The number, if it is written as an unsigned integer below 2^64. -/
def natural? (n : Numeral) : Option Nat :=
  if !n.negative && n.fraction.isNone && n.exponent.isNone && value n.whole < Nat.pow 2 64 then
    some (value n.whole)
  else none

/-- The number, if it is written as an integer of 64 bits with sign. Minus zero is not one. -/
def integer? (n : Numeral) : Option Int :=
  if n.fraction.isSome || n.exponent.isSome then none
  else if n.negative then
    if 0 < value n.whole && value n.whole ≤ Nat.pow 2 63 then some (-(value n.whole : Int))
    else none
  else if value n.whole < Nat.pow 2 63 then some (value n.whole)
  else none

/-- The nearest number with 53 significant bits, a half going to the even neighbour. -/
def toDouble (n : Nat) : Nat :=
  let excess := n.log2 + 1 - 53
  let unit := Nat.pow 2 excess
  let down := n / unit
  let rest := n % unit
  if 2 * rest < unit || (2 * rest == unit && down % 2 == 0) then down * unit
  else (down + 1) * unit

/-- Digits of the whole part go into the accumulator until one does not fit; each digit from there
on counts for the power of ten. -/
def accumulate : Nat → List Digit → Nat × Nat
  | acc, [] => (acc, 0)
  | acc, d :: rest =>
    if acc * 10 + d.val < Nat.pow 2 64 then accumulate (acc * 10 + d.val) rest
    else (acc, (d :: rest).length)

/-- Digits of the fraction go into the accumulator until one does not fit; the others are dropped.
Second is how many went in. -/
def accumulateFraction : Nat → List Digit → Nat × Nat
  | acc, [] => (acc, 0)
  | acc, d :: rest =>
    if acc * 10 + d.val < Nat.pow 2 64 then
      let (sum, used) := accumulateFraction (acc * 10 + d.val) rest
      (sum, used + 1)
    else (acc, 0)

/-- The accumulated digits and the power of ten that the point puts behind them. -/
def scaled (n : Numeral) : Nat × Int :=
  let (sum, dropped) := accumulate 0 n.whole
  let (sum, used) := accumulateFraction sum (n.fraction.getD [])
  (sum, (dropped : Int) - used)

/-- Whether `sum` times the power of ten stays below the largest double. -/
def fitsScaled (sum : Nat) (power : Int) : Bool :=
  sum == 0 || power < 0 ||
    (power ≤ 308 &&
      toDouble sum * toDouble (Nat.pow 10 power.toNat) < Nat.pow 2 1024 - Nat.pow 2 970)

/-- Whether the number fits a double. An exponent of 2^31 or more counts as boundless. -/
def fitsDouble (n : Numeral) : Bool :=
  let (sum, power) := n.scaled
  match n.exponent with
  | none => fitsScaled sum power
  | some e =>
    let down := e.sign == some true
    let size := value e.digits
    if Nat.pow 2 31 ≤ size then sum == 0 || down
    else fitsScaled sum (if down then power - size else power + size)

end Numeral

namespace Doc

/-- How many arrays and objects may be open at once around and in a value that is read whole. -/
def nestingLimit : Nat := 127

/-- Whether a value inside `around` open arrays and objects can be read whole: nesting within the
limit, strings that stand for texts, numbers that fit a double. -/
def isReadable (around : Nat) (d : Doc) : Bool :=
  around + d.nesting ≤ nestingLimit && d.every (·.text?.isSome) Numeral.fitsDouble

/-- The text of a string. -/
def text? : Doc → Option String
  | .text l => l.text?
  | _ => none

/-- An unsigned integer below 2^64. -/
def natural? : Doc → Option Nat
  | .number n => n.natural?
  | _ => none

/-- An integer of 64 bits with sign. -/
def integer? : Doc → Option Int
  | .number n => n.integer?
  | _ => none

end Doc

end CandleRelay.Json
