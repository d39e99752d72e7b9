import CandleRelay.Text.Cut

/-!
# Tables of characters

What is known of the characters outside ASCII stands in tables. A table is written in lines of rows
with a blank between them, and a row says something of a run of code points. All numbers are in base
sixteen: `300-36F` is the run from U+0300 to U+036F, and `B7` one code point alone. Values may
follow an equals sign, with commas between them; a value is a sequence of numbers with dots between
them, as in `AA-AB=61,73.73`.

ASCII characters are in no table, so a text of ASCII is judged without one.
-/

namespace CandleRelay.Text.Table

/-- A run of code points and the values that it has. -/
structure Row where
  first : Nat
  last : Nat
  values : List (List Nat)
  deriving DecidableEq, Repr

/-- The value of a digit in base sixteen; letters are capitals. -/
def digit (c : Char) : Nat := if c.isDigit then c.toNat - 48 else c.toNat - 55

/-- The number that digits in base sixteen stand for. -/
def number (digits : List Char) : Nat := digits.foldl (fun n c => 16 * n + digit c) 0

/-- The run before an equals sign, and the values behind it. -/
def Row.ofText (row : List Char) : Row :=
  let run := row.takeWhile (· != '=')
  let first := run.takeWhile (· != '-')
  let last := (run.dropWhile (· != '-')).drop 1
  let values := (row.dropWhile (· != '=')).drop 1
  { first := number first
    last := number (if last.isEmpty then first else last)
    values :=
      if values.isEmpty then []
      else (cut (· == ',') values).map fun value => (cut (· == '.') value).map number }

/-- The rows that stand in the lines of a table. -/
def rows (lines : List String) : List Row :=
  lines.flatMap fun line => (cut (· == ' ') line.toList).map Row.ofText

/-- Whether a code point lies in the run of a row. -/
def Row.holds (row : Row) (n : Nat) : Bool := row.first ≤ n && n ≤ row.last

/-- The row of a character outside ASCII. -/
def find? (table : List Row) (c : Char) : Option Row :=
  if c.toNat < 0x80 then none else table.find? (·.holds c.toNat)

/-- Whether a table has a row for a character. -/
def holds (table : List Row) (c : Char) : Bool := (find? table c).isSome

end CandleRelay.Text.Table
