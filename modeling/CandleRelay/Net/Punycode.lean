/-!
# Punycode

Names outside ASCII have a written form inside it: the ASCII characters, a hyphen, and then digits
of base 36 that say where the others go, in the order of their code points. Each number in that part
ends with the first digit below a threshold, which moves with the numbers read so far.
-/

namespace CandleRelay.Net.Punycode

/-- The value of a digit; letters come first. -/
def digit? (c : Char) : Option Nat :=
  if 'a' ≤ c ∧ c ≤ 'z' then some (c.toNat - 97)
  else if 'A' ≤ c ∧ c ≤ 'Z' then some (c.toNat - 65)
  else if c.isDigit then some (c.toNat - 22)
  else none

/-- The threshold of the digit of weight `k`. -/
def threshold (k bias : Nat) : Nat := min (max (k - bias) 1) 26

/-- Brings a number down to where its threshold is settled; `k` is the weight reached. -/
def settle : (fuel delta k : Nat) → Nat
  | 0, _, k => k
  | fuel + 1, delta, k =>
    if 455 < delta then settle fuel (delta / 35) (k + 36) else k + 36 * delta / (delta + 38)

/-- The bias after the number `delta` that made a text `count` long. -/
def adapt (delta count : Nat) (first : Bool) : Nat :=
  let delta := if first then delta / 700 else delta / 2
  settle 64 (delta + delta / count) 0

/-- One number below 2 ^ 32, added to `sum`, and the digits that follow it. No digit of it may
weigh more than that either. -/
def number? (bias : Nat) : (weight k sum : Nat) → List Char → Option (Nat × List Char)
  | _, _, _, [] => none
  | weight, k, sum, c :: rest =>
    match digit? c with
    | none => none
    | some d =>
      let sum := sum + d * weight
      let t := threshold k bias
      if Nat.pow 2 32 ≤ sum then none
      else if d < t then some (sum, rest)
      else if Nat.pow 2 32 ≤ weight * (36 - t) then none
      else number? bias (weight * (36 - t)) (k + 36) sum rest

/-- Puts a character in its place. -/
def insertAt (out : List Char) (i : Nat) (c : Char) : List Char := out.take i ++ c :: out.drop i

/-- All numbers: `place` is where the next character may go, `point` the code point of the last one.
-/
def fill? : (fuel bias place point : Nat) → (first : Bool) → (out digits : List Char) →
    Option (List Char)
  | _, _, _, _, _, out, [] => some out
  | 0, _, _, _, _, _, _ => none
  | fuel + 1, bias, place, point, first, out, digits =>
    match number? bias 1 36 place digits with
    | none => none
    | some (sum, rest) =>
      let count := out.length + 1
      let point := point + sum / count
      let bias := adapt (sum - place) count first
      let place := sum % count
      if point.isValidChar then
        fill? fuel bias (place + 1) point false (insertAt out place (Char.ofNat point)) rest
      else none

/-- The characters that a written form stands for. The last hyphen parts the ASCII characters from
the digits; without ASCII characters there is none. -/
def decode? (cs : List Char) : Option (List Char) :=
  let digits := (cs.reverse.takeWhile (· != '-')).reverse
  match cs.take (cs.length - digits.length) with
  | [] => fill? digits.length 72 0 128 true [] digits
  | ['-'] => none
  | ascii => fill? digits.length 72 0 128 true ascii.dropLast digits

end CandleRelay.Net.Punycode
