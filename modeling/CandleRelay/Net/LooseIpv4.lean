import CandleRelay.Net.Address

/-!
# Older forms of IPv4

A domain whose last label is a number is an IPv4 address in one of its older forms: up to four
numbers, each in base ten, eight or sixteen, of which the last one fills what the others leave of 32
bits.
-/

namespace CandleRelay.Net

/-- A number of an older IPv4 form, in base ten, eight or sixteen by its beginning; `some none` if
it is beyond 32 bits. -/
def looseNumber? (cs : List Char) : Option (Option Nat) :=
  let inBase (base : Nat) (ok : Char → Bool) (cs : List Char) : Option (Option Nat) :=
    if cs.all ok then
      let n := cs.foldl (fun n c => n * base + digit c) 0
      some (if n < Nat.pow 2 32 then some n else none)
    else none
  match cs with
  | [] => none
  | '0' :: 'x' :: rest => inBase 16 isHex rest
  | '0' :: c :: rest => inBase 8 (fun c => '0' ≤ c && c ≤ '7') (c :: rest)
  | cs => inBase 10 Char.isDigit cs
where
  /-- The value of a hexadecimal digit. -/
  digit (c : Char) : Nat :=
    if c.isDigit then c.toNat - 48 else c.toLower.toNat - 87

/-- The labels of a domain without an empty one at its end. -/
def withoutRoot (labels : List (List Char)) : List (List Char) :=
  if labels.getLast? == some [] then labels.dropLast else labels

/-- Whether the last label of a domain is a number. -/
def endsInNumber (labels : List (List Char)) : Bool :=
  match (withoutRoot labels).getLast? with
  | none => false
  | some last => (!last.isEmpty && last.all Char.isDigit) || (looseNumber? last).isSome

/-- Whether the labels of a domain are an IPv4 address in one of its older forms. -/
def isLooseIpv4 (labels : List (List Char)) : Bool :=
  let numbers := (withoutRoot labels).map fun l => (looseNumber? l).getD none
  numbers.length ≤ 4 && numbers.all Option.isSome &&
    numbers.dropLast.all (fun n => n.getD 0 ≤ 255) &&
    (numbers.getLast?.getD none).getD 0 < Nat.pow 256 (5 - numbers.length)

end CandleRelay.Net
