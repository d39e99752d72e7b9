import CandleRelay.Net.Domain.Label
import CandleRelay.Net.Domain.Order
import CandleRelay.Text.Utf8

/-!
# Domain names

The host of a web address is percent-decoded and folded, which also turns the full stops of other
scripts into dots. It is a domain if each of its labels is one and if the order of its characters
can be seen.
-/

namespace CandleRelay.Net

/-- Resolves percent signs before two hexadecimal digits. -/
def percentDecode : Bytes → Bytes
  | [] => []
  | 0x25 :: a :: b :: rest =>
    match hexValue? a, hexValue? b with
    | some x, some y => (x * 16 + y) :: percentDecode rest
    | _, _ => 0x25 :: percentDecode (a :: b :: rest)
  | b :: rest => b :: percentDecode rest
where
  /-- The value of a hexadecimal digit. -/
  hexValue? (b : UInt8) : Option UInt8 :=
    if 0x30 ≤ b && b ≤ 0x39 then some (b - 0x30)
    else if 0x41 ≤ b && b ≤ 0x46 then some (b - 0x37)
    else if 0x61 ≤ b && b ≤ 0x66 then some (b - 0x57)
    else none

/-- The labels of the domain that a host stands for. -/
def domain? (host : String) : Option (List (List Char)) := do
  let text ← Text.Utf8.decode? (percentDecode (Text.Utf8.encode host))
  let cs ← folded? text.toList
  let labels ← (Text.cut (· == '.') cs).mapM Label.ofText?
  if areOrdered labels then some labels else none

end CandleRelay.Net
