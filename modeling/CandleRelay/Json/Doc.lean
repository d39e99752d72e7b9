import CandleRelay.Text.Utf8

/-!
# JSON documents

A JSON text after its syntax has been checked and before anything in it is interpreted. Numbers
keep their digits and strings keep their escapes, because how much of a document must make sense
depends on who reads it: a member that nobody asks for may hold a number of any size or an escape
that stands for no character.
-/

namespace CandleRelay.Json

/-- A decimal digit. -/
abbrev Digit := Fin 10

/-- There are digits, so numbers may stand for them; the zero meant is that of the numbers
themselves, whichever algebra is loaded. -/
instance Digit.neZero : @NeZero Nat ⟨0⟩ 10 := @NeZero.mk Nat ⟨0⟩ 10 (by decide)

/-- The power of ten behind a number; the sign is `some true` for `-` and `some false` for `+`. -/
structure Exponent where
  sign : Option Bool
  digits : List Digit
  deriving DecidableEq, Repr

/-- A number as it is written. -/
structure Numeral where
  negative : Bool
  whole : List Digit
  fraction : Option (List Digit)
  exponent : Option Exponent
  deriving DecidableEq, Repr

/-- One step of a string: a byte, standing for itself or named by a short escape, or a `\u` escape.
-/
inductive Piece where
  | byte (b : UInt8)
  | unit (u : UInt16)
  deriving DecidableEq, Repr

/-- The inside of a string. -/
abbrev Literal := List Piece

/-- A JSON text, with members in the order in which they stand and repetitions kept. -/
inductive Doc where
  | null
  | bool (b : Bool)
  | number (n : Numeral)
  | text (l : Literal)
  | array (items : List Doc)
  | object (members : List (Literal × Doc))
  deriving Repr, Inhabited

/-- One entry of an object. -/
abbrev Member := Literal × Doc

namespace Doc

mutual

/-- How many arrays and objects are open at once at the deepest place. -/
def nesting : Doc → Nat
  | .array items => nestingOfItems items + 1
  | .object members => nestingOfMembers members + 1
  | _ => 0

/-- The deepest nesting among the items. -/
def nestingOfItems : List Doc → Nat
  | [] => 0
  | d :: rest => max d.nesting (nestingOfItems rest)

/-- The deepest nesting among the members' values. -/
def nestingOfMembers : List (Literal × Doc) → Nat
  | [] => 0
  | (_, d) :: rest => max d.nesting (nestingOfMembers rest)

end

mutual

/-- Whether every string satisfies `good` and every number satisfies `fits`, keys included. -/
def every (good : Literal → Bool) (fits : Numeral → Bool) : Doc → Bool
  | .null => true
  | .bool _ => true
  | .number n => fits n
  | .text l => good l
  | .array items => everyItem good fits items
  | .object members => everyMember good fits members

/-- `every` for each of the items. -/
def everyItem (good : Literal → Bool) (fits : Numeral → Bool) : List Doc → Bool
  | [] => true
  | d :: rest => d.every good fits && everyItem good fits rest

/-- `every` for each of the members. -/
def everyMember (good : Literal → Bool) (fits : Numeral → Bool) : List (Literal × Doc) → Bool
  | [] => true
  | (k, d) :: rest => good k && d.every good fits && everyMember good fits rest

end

end Doc

end CandleRelay.Json
