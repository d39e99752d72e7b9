import CandleRelay.Json.Doc

/-!
# Reading JSON

A pushdown automaton over bytes. Its stack holds the arrays and objects that are still open, and
its phase says what may come next. It accepts the JSON grammar with no limit on nesting: blanks are
space, tab, line feed and carriage return, strings hold no control characters, and the whole input
is one value with blanks around it. Which bytes stand inside a string is not its business.

Once a text is complete only blanks may follow (`step_finished`), which is why a text that was cut
short is never taken for a whole one.
-/

namespace CandleRelay.Json

namespace Byte

abbrev quote : UInt8 := 0x22
abbrev plus : UInt8 := 0x2B
abbrev comma : UInt8 := 0x2C
abbrev minus : UInt8 := 0x2D
abbrev point : UInt8 := 0x2E
abbrev slash : UInt8 := 0x2F
abbrev colon : UInt8 := 0x3A
abbrev leftBracket : UInt8 := 0x5B
abbrev backslash : UInt8 := 0x5C
abbrev rightBracket : UInt8 := 0x5D
abbrev leftBrace : UInt8 := 0x7B
abbrev rightBrace : UInt8 := 0x7D

/-- The four bytes that may stand between tokens. -/
def isBlank (b : UInt8) : Bool :=
  b == 0x20 || b == 0x09 || b == 0x0A || b == 0x0D

/-- The digit that a byte writes. -/
def digit? (b : UInt8) : Option Digit :=
  if h : 0x30 ≤ b.toNat ∧ b.toNat < 0x3A then some ⟨b.toNat - 0x30, by omega⟩ else none

/-- The value of a hexadecimal digit of either case. -/
def hex? (b : UInt8) : Option UInt16 :=
  if 0x30 ≤ b && b < 0x3A then some (b - 0x30).toUInt16
  else if 0x41 ≤ b && b < 0x47 then some (b - 0x37).toUInt16
  else if 0x61 ≤ b && b < 0x67 then some (b - 0x57).toUInt16
  else none

/-- The byte that a one-letter escape stands for. -/
def escaped? (b : UInt8) : Option UInt8 :=
  if b == quote || b == backslash || b == slash then some b
  else if b == 0x62 then some 0x08
  else if b == 0x66 then some 0x0C
  else if b == 0x6E then some 0x0A
  else if b == 0x72 then some 0x0D
  else if b == 0x74 then some 0x09
  else none

end Byte

namespace Numeral

/-- Whether a number, its digits latest first, may end here: each part that was begun has a digit.
-/
def isWhole (n : Numeral) : Bool :=
  !n.whole.isEmpty && n.fraction != some [] && n.exponent.all (!·.digits.isEmpty)

/-- A number, its digits latest first, after one more digit. A whole part that starts with zero is
that zero. -/
def push? (n : Numeral) (d : Digit) : Option Numeral :=
  match n.exponent, n.fraction with
  | some e, _ => some { n with exponent := some { e with digits := d :: e.digits } }
  | none, some ds => some { n with fraction := some (d :: ds) }
  | none, none => if n.whole == [0] then none else some { n with whole := d :: n.whole }

/-- A number, its digits latest first, after a byte that continues it. -/
def continue? (n : Numeral) (b : UInt8) : Option Numeral :=
  match Byte.digit? b with
  | some d => n.push? d
  | none =>
    match n.exponent with
    | none =>
      if b == Byte.point && n.isWhole && n.fraction.isNone then
        some { n with fraction := some [] }
      else if (b == 0x65 || b == 0x45) && n.isWhole then some { n with exponent := some ⟨none, []⟩ }
      else none
    | some ⟨none, []⟩ =>
      if b == Byte.plus then some { n with exponent := some ⟨some false, []⟩ }
      else if b == Byte.minus then some { n with exponent := some ⟨some true, []⟩ }
      else none
    | some _ => none

/-- The number with its digits in the order in which they were written. -/
def inOrder (n : Numeral) : Numeral :=
  { n with
    whole := n.whole.reverse
    fraction := n.fraction.map List.reverse
    exponent := n.exponent.map fun e => { e with digits := e.digits.reverse } }

end Numeral

/-- A string that is being read; its pieces stand latest first. -/
inductive OpenText where
  /-- Between pieces. -/
  | plain (pieces : Literal)
  /-- After a backslash. -/
  | escape (pieces : Literal)
  /-- In a `\u` escape, with `left + 1` digits to come. -/
  | unit (pieces : Literal) (left : Nat) (value : UInt16)
  deriving Repr

namespace OpenText

/-- The string after one more byte other than its closing quote. -/
def step? : OpenText → UInt8 → Option OpenText
  | .plain ps, b =>
    if b == Byte.backslash then some (.escape ps)
    else if b < 0x20 then none
    else some (.plain (.byte b :: ps))
  | .escape ps, b =>
    if b == 0x75 then some (.unit ps 3 0)
    else (Byte.escaped? b).map fun e => .plain (.byte e :: ps)
  | .unit ps left value, b =>
    match Byte.hex? b with
    | none => none
    | some h =>
      match left with
      | 0 => some (.plain (.unit (value * 16 + h) :: ps))
      | left + 1 => some (.unit ps left (value * 16 + h))

end OpenText

/-- An array or object that is still open around the value being read, with what it holds so far,
latest first. -/
inductive Container where
  | array (items : List Doc)
  | object (members : List Member) (key : Literal)
  deriving Repr

/-- What may come next. -/
inductive Phase where
  /-- A value. -/
  | value
  /-- The first item of an array, or its end. -/
  | firstItem
  /-- A comma or the end of an array with these items. -/
  | items (items : List Doc)
  /-- The first key of an object, or its end. -/
  | firstKey
  /-- A further key. -/
  | key (members : List Member)
  /-- More of a key. -/
  | keyText (members : List Member) (text : OpenText)
  /-- The colon after a key. -/
  | colon (members : List Member) (key : Literal)
  /-- A comma or the end of an object with these members. -/
  | members (members : List Member)
  /-- More of a string. -/
  | text (text : OpenText)
  /-- More of a number, or what follows it. -/
  | number (n : Numeral)
  /-- The rest of the word that names `value`. -/
  | word (rest : Bytes) (value : Doc)
  /-- Blanks, for the text is complete. -/
  | finished (value : Doc)
  deriving Repr

/-- The automaton between two bytes. -/
structure Reader where
  phase : Phase
  stack : List Container
  deriving Repr

namespace Reader

/-- Before the first byte. -/
def start : Reader := ⟨.value, []⟩

/-- A value is complete: it goes to the innermost open container, or it is the whole text. -/
def complete (v : Doc) : List Container → Reader
  | [] => ⟨.finished v, []⟩
  | .array items :: rest => ⟨.items (v :: items), rest⟩
  | .object members key :: rest => ⟨.members ((key, v) :: members), rest⟩

/-- The first byte of a value. -/
def begin? (b : UInt8) (stack : List Container) : Option Reader :=
  if b == Byte.leftBrace then some ⟨.firstKey, stack⟩
  else if b == Byte.leftBracket then some ⟨.firstItem, stack⟩
  else if b == Byte.quote then some ⟨.text (.plain []), stack⟩
  else if b == Byte.minus then some ⟨.number ⟨true, [], none, none⟩, stack⟩
  else if b == 0x74 then some ⟨.word [0x72, 0x75, 0x65] (.bool true), stack⟩
  else if b == 0x66 then some ⟨.word [0x61, 0x6C, 0x73, 0x65] (.bool false), stack⟩
  else if b == 0x6E then some ⟨.word [0x75, 0x6C, 0x6C] .null, stack⟩
  else (Byte.digit? b).map fun d => ⟨.number ⟨false, [d], none, none⟩, stack⟩

/-- A byte after a complete value. -/
def between? (r : Reader) (b : UInt8) : Option Reader :=
  if Byte.isBlank b then some r
  else
    match r.phase with
    | .items items =>
      if b == Byte.comma then some ⟨.value, .array items :: r.stack⟩
      else if b == Byte.rightBracket then some (complete (.array items.reverse) r.stack)
      else none
    | .members members =>
      if b == Byte.comma then some ⟨.key members, r.stack⟩
      else if b == Byte.rightBrace then some (complete (.object members.reverse) r.stack)
      else none
    | _ => none

/-- One byte. -/
def step? (r : Reader) (b : UInt8) : Option Reader :=
  match r.phase with
  | .value => if Byte.isBlank b then some r else begin? b r.stack
  | .firstItem =>
    if Byte.isBlank b then some r
    else if b == Byte.rightBracket then some (complete (.array []) r.stack)
    else begin? b (.array [] :: r.stack)
  | .firstKey =>
    if Byte.isBlank b then some r
    else if b == Byte.quote then some ⟨.keyText [] (.plain []), r.stack⟩
    else if b == Byte.rightBrace then some (complete (.object []) r.stack)
    else none
  | .key members =>
    if Byte.isBlank b then some r
    else if b == Byte.quote then some ⟨.keyText members (.plain []), r.stack⟩
    else none
  | .keyText members (.plain pieces) =>
    if b == Byte.quote then some ⟨.colon members pieces.reverse, r.stack⟩
    else (OpenText.step? (.plain pieces) b).map fun t => ⟨.keyText members t, r.stack⟩
  | .keyText members t => (t.step? b).map fun t => ⟨.keyText members t, r.stack⟩
  | .colon members key =>
    if Byte.isBlank b then some r
    else if b == Byte.colon then some ⟨.value, .object members key :: r.stack⟩
    else none
  | .text (.plain pieces) =>
    if b == Byte.quote then some (complete (.text pieces.reverse) r.stack)
    else (OpenText.step? (.plain pieces) b).map fun t => ⟨.text t, r.stack⟩
  | .text t => (t.step? b).map fun t => ⟨.text t, r.stack⟩
  | .number n =>
    match n.continue? b with
    | some n => some ⟨.number n, r.stack⟩
    | none =>
      if n.isWhole then (complete (.number n.inOrder) r.stack).between? b else none
  | .word [] _ => none
  | .word [last] v => if b == last then some (complete v r.stack) else none
  | .word (next :: rest) v => if b == next then some ⟨.word rest v, r.stack⟩ else none
  | .items _ | .members _ | .finished _ => r.between? b

/-- All the bytes in turn. -/
def run? (r : Reader) : Bytes → Option Reader
  | [] => some r
  | b :: rest =>
    match r.step? b with
    | some r => r.run? rest
    | none => none

/-- The text, if the input may end here. Only a number can be complete without having said so. -/
def result? (r : Reader) : Option Doc :=
  match r.phase, r.stack with
  | .finished v, [] => some v
  | .number n, [] => if n.isWhole then some (.number n.inOrder) else none
  | _, _ => none

theorem step_finished (v : Doc) (stack : List Container) (b : UInt8) :
    step? ⟨.finished v, stack⟩ b =
      if Byte.isBlank b then some ⟨.finished v, stack⟩ else none := by
  simp only [step?, between?]

end Reader

/-- The document that the bytes write, if they are one JSON text. -/
def parse? (input : Bytes) : Option Doc :=
  (Reader.start.run? input).bind Reader.result?

end CandleRelay.Json
