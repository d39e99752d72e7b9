import CandleRelay.Text.Composite
import CandleRelay.Text.Mark

/-!
# Composition

The same text can be written with composite characters or with marks of their own, and marks that do
not touch can be in either order. The composed form is one of these for all: take the composites
apart, put the marks behind each character in the order of their classes, and join again what has a
composite, from left to right. The syllables of Hangul are composites by their number: nineteen
initial consonants, twenty-one vowels, and twenty-seven final consonants or none.

Characters that stand for one other character alone are no composites and are left as they are.
-/

namespace CandleRelay.Text

/-- The two parts of a syllable of Hangul: its final consonant and the rest, or, where it has none,
its vowel and its initial. -/
def syllableParts? (c : Char) : Option (Char × Char) :=
  let n := c.toNat
  if 0xAC00 ≤ n ∧ n ≤ 0xD7A3 then
    let i := n - 0xAC00
    if i % 28 = 0 then some (Char.ofNat (0x1100 + i / 588), Char.ofNat (0x1161 + i % 588 / 28))
    else some (Char.ofNat (n - i % 28), Char.ofNat (0x11A7 + i % 28))
  else none

/-- The syllable of Hangul that has two parts. -/
def syllable? (a b : Char) : Option Char :=
  let m := a.toNat
  let n := b.toNat
  if 0x1100 ≤ m ∧ m ≤ 0x1112 ∧ 0x1161 ≤ n ∧ n ≤ 0x1175 then
    some (Char.ofNat (0xAC00 + (m - 0x1100) * 588 + (n - 0x1161) * 28))
  else if 0xAC00 ≤ m ∧ m ≤ 0xD7A3 ∧ (m - 0xAC00) % 28 = 0 ∧
      0x11A8 ≤ n ∧ n ≤ 0x11C2 then
    some (Char.ofNat (m + (n - 0x11A7)))
  else none

/-- All composites of the table, each behind its two parts. -/
def parts : List ((Nat × Nat) × Nat) :=
  composites.flatMap fun row =>
    row.values.zipIdx.filterMap fun (value, i) =>
      match value with
      | [a, b] => some ((a, b), row.first + i)
      | _ => none

/-- The two parts of a composite. -/
def parts? (c : Char) : Option (Char × Char) :=
  match syllableParts? c with
  | some ab => some ab
  | none =>
    if Table.holds composites c then
      (parts.find? (·.2 == c.toNat)).map fun p => (Char.ofNat p.1.1, Char.ofNat p.1.2)
    else none

/-- The composite of two characters. -/
def composite? (a b : Char) : Option Char :=
  if b.toNat < 0x80 then none
  else
    match syllable? a b with
    | some c => some c
    | none => (parts.find? (·.1 == (a.toNat, b.toNat))).map fun p => Char.ofNat p.2

/-- A character taken apart `depth` times. -/
def takenApart : (depth : Nat) → Char → List Char
  | 0, c => [c]
  | depth + 1, c =>
    match parts? c with
    | none => [c]
    | some (a, b) => takenApart depth a ++ [b]

/-- Puts a mark before a text behind the marks of lower classes. -/
def placed (c : Char) : List Char → List Char
  | [] => [c]
  | d :: rest =>
    if 0 < markClass d && markClass d < markClass c then d :: placed c rest else c :: d :: rest

/-- Marks in the order of their classes, those of one class in the order in which they stand. -/
def ordered (cs : List Char) : List Char := cs.foldr placed []

/-- Joins a character with those that follow it. The marks that have been `passed`, last one first,
stand between them; only a mark of a higher class reaches over them. -/
def joined : (base : Char) → (passed : List Char) → List Char → List Char
  | base, passed, [] => base :: passed.reverse
  | base, passed, c :: rest =>
    let blocked :=
      match passed with
      | [] => false
      | m :: _ => markClass c ≤ markClass m
    match if blocked then none else composite? base c with
    | some composite => joined composite passed rest
    | none =>
      if markClass c == 0 then base :: passed.reverse ++ joined c [] rest
      else joined base (c :: passed) rest

/-- The composed form of a text. A composite has four characters at most. -/
def composed (cs : List Char) : List Char :=
  if cs.all (·.toNat < 0x80) then cs
  else
    let apart := ordered (cs.flatMap (takenApart 3))
    let isLoose (c : Char) : Bool := markClass c != 0
    match apart.dropWhile isLoose with
    | [] => apart
    | c :: rest => apart.takeWhile isLoose ++ joined c [] rest

end CandleRelay.Text
