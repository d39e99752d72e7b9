import CandleRelay.Net.Domain.Barred
import CandleRelay.Net.Domain.Folding.Forms
import CandleRelay.Net.Domain.Folding.Ideographs
import CandleRelay.Net.Domain.Folding.Letters
import CandleRelay.Net.Domain.Folding.Symbols
import CandleRelay.Text.Composition

/-!
# Folding

A domain holds each character in one form. A character may stand for itself, for another one or for
several, or for nothing at all; a barred one has no form. ASCII letters fold to small ones.
-/

namespace CandleRelay.Net

namespace Folding

/-- The characters that stand for nothing: those that are not seen, and selectors of variants. -/
def ignored : List Text.Table.Row := Text.Table.rows [
  "AD 34F 115F-1160 17B4-17B5 180B-180F 200B 2060-2064 206A-206F 3164 FE00-FE0F FEFF FFA0",
  "1BCA0-1BCA3 1D173-1D17A E0100-E01EF"]

/-- What a character in a run stands for. A run with as many values as characters has one for each;
a run with one value moves along with it; in a run without values, every other character, from the
first, stands for the one behind it. -/
def replacement? (row : Text.Table.Row) (n : Nat) : Option (List Nat) :=
  let i := n - row.first
  match row.values with
  | [] => if i % 2 == 0 then some [n + 1] else none
  | [[value]] => some [value + i]
  | values => values[i]?

end Folding

/-- The form of a character in a domain. -/
def fold? (c : Char) : Option (List Char) :=
  if c.toNat < 0x80 then some [c.toLower]
  else if isBarred c then none
  else if Text.Table.holds Folding.ignored c then some []
  else
    let tables := [Folding.letters, Folding.symbols, Folding.ideographs, Folding.forms]
    match tables.findSome? (Text.Table.find? · c) with
    | none => some [c]
    | some row =>
      match Folding.replacement? row c.toNat with
      | none => some [c]
      | some ns => some (ns.map Char.ofNat)

/-- The form of a text in a domain, where each character has one. -/
def folded? (cs : List Char) : Option (List Char) :=
  (cs.mapM fold?).map fun parts => Text.composed parts.flatten

end CandleRelay.Net
