import CandleRelay.Toml.Quoted
import CandleRelay.Toml.Value

/-!
# TOML numbers, dates and words

A bare value is one run of letters, digits and a few signs. It is a boolean, an integer of 64 bits
in one of four bases, a float, or a date, a time or both. Underscores may stand between two digits.
Dates and times have to exist; a float is refused only if it is positive and beyond every double.
-/

namespace CandleRelay.Toml

/-- The characters of bare values. -/
def isBare (c : Char) : Bool :=
  c.isAlphanum || c == '_' || c == '+' || c == '-' || c == '.' || c == ':'

/-- The digits of a run in which single underscores may stand between digits. -/
def digits? (base : Nat) : List Char → Option (List Nat)
  | [] => none
  | [c] => (digit? base c).map ([·])
  | c :: '_' :: rest =>
    match digit? base c, digits? base rest with
    | some d, some ds => some (d :: ds)
    | _, _ => none
  | c :: rest =>
    match digit? base c, digits? base rest with
    | some d, some ds => some (d :: ds)
    | _, _ => none

/-- The number with these digits. -/
def ofDigits (base : Nat) (ds : List Nat) : Nat :=
  ds.foldl (fun n d => n * base + d) 0

/-- Decimal digits without needless zeros in front. -/
def wholeDigits? (cs : List Char) : Option (List Nat) :=
  match digits? 10 cs with
  | some (0 :: _ :: _) => none
  | ds => ds

/-- Whether there is a minus sign, and what follows the sign, if there is one. -/
def unsigned : List Char → Bool × List Char
  | '-' :: rest => (true, rest)
  | '+' :: rest => (false, rest)
  | cs => (false, cs)

/-- An integer, if it fits 64 bits with sign. -/
def fit? (n : Int) : Option Int :=
  if -Int.pow 2 63 ≤ n ∧ n < Int.pow 2 63 then some n else none

/-- An integer in one of the four bases; only decimal ones have a sign. -/
def integer? : List Char → Option Int
  | '0' :: 'x' :: rest => (digits? 16 rest).bind fun ds => fit? (ofDigits 16 ds)
  | '0' :: 'o' :: rest => (digits? 8 rest).bind fun ds => fit? (ofDigits 8 ds)
  | '0' :: 'b' :: rest => (digits? 2 rest).bind fun ds => fit? (ofDigits 2 ds)
  | cs =>
    let (negative, cs) := unsigned cs
    (wholeDigits? cs).bind fun ds =>
      fit? (if negative then -(ofDigits 10 ds : Int) else ofDigits 10 ds)

/-- Whether a quantity of these digits and this power of ten is beyond every double: at least half
a step above the largest one. -/
def isBoundless (digits : List Nat) (power : Int) : Bool :=
  let n := ofDigits 10 digits
  let size : Int := (digits.dropWhile (· == 0)).length + power
  if n == 0 || size < 300 then false
  else if 320 < size then true
  else if 0 ≤ power then Nat.pow 2 1024 - Nat.pow 2 970 ≤ n * Nat.pow 10 power.toNat
  else (Nat.pow 2 1024 - Nat.pow 2 970) * Nat.pow 10 (-power).toNat ≤ n

/-- The exponent after its letter. -/
def exponent? (cs : List Char) : Option Int :=
  let (negative, cs) := unsigned cs
  (digits? 10 cs).map fun ds => if negative then -(ofDigits 10 ds : Int) else ofDigits 10 ds

/-- Whether a run is a float: a whole part with a fraction, an exponent or both. -/
def isFloat (cs : List Char) : Bool :=
  let (negative, cs) := unsigned cs
  if cs == ['i', 'n', 'f'] || cs == ['n', 'a', 'n'] then true
  else
    let isMark (c : Char) : Bool := c == 'e' || c == 'E'
    let body := cs.takeWhile (!isMark ·)
    let power := (cs.dropWhile (!isMark ·)).drop 1
    let marked := body.length < cs.length
    let whole := body.takeWhile (· != '.')
    let fraction := (body.dropWhile (· != '.')).drop 1
    let pointed := whole.length < body.length
    if !marked && !pointed then false
    else
      match wholeDigits? whole, (if pointed then digits? 10 fraction else some []),
        (if marked then exponent? power else some 0) with
      | some ds, some fs, some e => negative || !isBoundless (ds ++ fs) (e - fs.length)
      | _, _, _ => false

/-- A number of exactly two digits. -/
def twoDigits? (a b : Char) : Option Nat :=
  match digit? 10 a, digit? 10 b with
  | some x, some y => some (x * 10 + y)
  | _, _ => none

/-- How many days a month has. -/
def daysIn (year month : Nat) : Nat :=
  if month == 2 then
    if year % 4 == 0 && (year % 100 != 0 || year % 400 == 0) then 29 else 28
  else if month == 4 || month == 6 || month == 9 || month == 11 then 30
  else 31

/-- What follows a date that exists, as in `1979-05-27`. -/
def afterDate? : List Char → Option (List Char)
  | a :: b :: c :: d :: '-' :: e :: f :: '-' :: g :: h :: rest =>
    match twoDigits? a b, twoDigits? c d, twoDigits? e f, twoDigits? g h with
    | some century, some year, some month, some day =>
      if 1 ≤ month && month ≤ 12 && 1 ≤ day && day ≤ daysIn (century * 100 + year) month then
        some rest
      else none
    | _, _, _, _ => none
  | _ => none

/-- What follows a time that exists, as in `07:32:00.999`. A minute may have a leap second. -/
def afterTime? : List Char → Option (List Char)
  | a :: b :: ':' :: c :: d :: ':' :: e :: f :: rest =>
    match twoDigits? a b, twoDigits? c d, twoDigits? e f with
    | some hour, some minute, some second =>
      if hour ≤ 23 && minute ≤ 59 && second ≤ 60 then
        match rest with
        | '.' :: rest =>
          if (rest.takeWhile Char.isDigit).isEmpty then none else some (rest.dropWhile Char.isDigit)
        | rest => some rest
      else none
    | _, _, _ => none
  | _ => none

/-- Whether a run is an offset from universal time, or nothing. -/
def isOffset : List Char → Bool
  | [] => true
  | ['Z'] => true
  | ['z'] => true
  | sign :: [a, b, ':', c, d] =>
    match twoDigits? a b, twoDigits? c d with
    | some hour, some minute => (sign == '+' || sign == '-') && hour ≤ 23 && minute ≤ 59
    | _, _ => false
  | _ => false

/-- Whether a run is a time of day with an offset or without. -/
def isTimeWithOffset (cs : List Char) : Bool :=
  match afterTime? cs with
  | some rest => isOffset rest
  | none => false

/-- Whether a run is a date, a time, or both. -/
def isDatetime (cs : List Char) : Bool :=
  match afterDate? cs with
  | some [] => true
  | some (sep :: rest) => (sep == 'T' || sep == 't') && isTimeWithOffset rest
  | none => afterTime? cs == some []

/-- The value that a run writes. -/
def scalar? (cs : List Char) : Option Value :=
  if cs == ['t', 'r', 'u', 'e'] then some (.boolean true)
  else if cs == ['f', 'a', 'l', 's', 'e'] then some (.boolean false)
  else if isDatetime cs then some .datetime
  else if isFloat cs then some .float
  else (integer? cs).map .integer

/-- The bare value at the beginning of a text. A time may follow a date after one space. -/
def bare? (cs : List Char) : Option (Value × List Char) :=
  let run := cs.takeWhile isBare
  let rest := cs.dropWhile isBare
  match afterDate? run, rest with
  | some [], ' ' :: more =>
    if (more.head?.map Char.isDigit).getD false then
      if isTimeWithOffset (more.takeWhile isBare) then some (.datetime, more.dropWhile isBare)
      else none
    else some (.datetime, rest)
  | _, _ => (scalar? run).map (·, rest)

end CandleRelay.Toml
