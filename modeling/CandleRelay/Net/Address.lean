import CandleRelay.Text.Cut

/-!
# Network addresses

The written forms of addresses. IPv4 is four decimal numbers below 256 without needless zeros. IPv6
is eight groups of up to four hexadecimal digits, the last two of which may be written as IPv4; one
run of groups that are all zero may be left out, with `::` in its place. A socket address adds a
number below 65536 behind a colon, and an IPv6 address stands in brackets there.
-/

namespace CandleRelay.Net

/-- The value of a run of decimal digits. -/
def decimal (digits : List Char) : Nat :=
  digits.foldl (fun n c => n * 10 + (c.toNat - 48)) 0

/-- Whether a character is a hexadecimal digit. -/
def isHex (c : Char) : Bool :=
  c.isDigit || ('a' ≤ c && c ≤ 'f') || ('A' ≤ c && c ≤ 'F')

/-- Whether a text is a number below 256 without needless zeros. -/
def isOctet (cs : List Char) : Bool :=
  !cs.isEmpty && cs.length ≤ 3 && cs.all Char.isDigit && decimal cs ≤ 255 &&
    (cs.length == 1 || cs.head? != some '0')

/-- Whether a text is an IPv4 address. -/
def isIpv4 (cs : List Char) : Bool :=
  let parts := Text.cut (· == '.') cs
  parts.length == 4 && parts.all isOctet

/-- Whether a text completes an IPv6 address of which `count` groups have been read, with a gap
among them or not. The text starts where a group, an address in the other form, or the second colon
of a gap may stand. -/
def isIpv6Rest (count : Nat) (gap : Bool) : (fuel : Nat) → List Char → Bool
  | 0, _ => false
  | _, [] => gap || count == 8
  | fuel + 1, ':' :: rest => !gap && count < 8 && isIpv6Rest (count + 1) true fuel rest
  | fuel + 1, cs =>
    let digits := cs.takeWhile isHex
    if 8 ≤ count then false
    else if isIpv4 cs then count ≤ 6 && (gap || count == 6)
    else if digits.isEmpty || 4 < digits.length then false
    else
      match cs.dropWhile isHex with
      | [] => isIpv6Rest (count + 1) gap fuel []
      | [':'] => false
      | ':' :: rest => isIpv6Rest (count + 1) gap fuel rest
      | _ => false

/-- Whether a text is an IPv6 address. -/
def isIpv6 : List Char → Bool
  | ':' :: ':' :: rest => isIpv6Rest 1 true (rest.length + 1) rest
  | [] => false
  | ':' :: _ => false
  | cs => isIpv6Rest 0 false (cs.length + 2) cs

/-- Whether a text is a decimal number of at most `greatest`, with needless zeros or without. -/
def isNumberUpTo (greatest : Nat) (cs : List Char) : Bool :=
  !cs.isEmpty && cs.all Char.isDigit && decimal cs ≤ greatest

/-- Whether a text is a colon and a number below 65536. -/
def isNumberPart : List Char → Bool
  | ':' :: rest => isNumberUpTo 65535 rest
  | _ => false

/-- Whether a text is an address with its number. An IPv6 address may name a scope after `%`. -/
def isSocketAddress (s : String) : Bool :=
  match s.toList with
  | '[' :: rest =>
    let inside := rest.takeWhile (· != ']')
    let address := inside.takeWhile (· != '%')
    let scopeFits :=
      match inside.dropWhile (· != '%') with
      | [] => true
      | _ :: scope => isNumberUpTo (Nat.pow 2 32 - 1) scope
    isIpv6 address && scopeFits && isNumberPart ((rest.dropWhile (· != ']')).drop 1)
  | cs => isIpv4 (cs.takeWhile (· != ':')) && isNumberPart (cs.dropWhile (· != ':'))

end CandleRelay.Net
