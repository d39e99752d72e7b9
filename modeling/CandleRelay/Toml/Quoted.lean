/-!
# TOML strings

Strings come with or without escapes and on one line or on several. The end of a string is found
first: the next quote, or the next three quotes, of which up to two more belong to the text. What
lies inside is then checked and resolved character by character.

A line of a longer string ends in a line feed, with a carriage return before it or not. Where
escapes hold, a backslash at the end of a line swallows the blanks and line ends up to the next
other character.
-/

namespace CandleRelay.Toml

/-- Blanks within a line. -/
def isBlank (c : Char) : Bool := c == ' ' || c == '\t'

/-- Characters that may stand in comments and strings as they are. -/
def isPlain (c : Char) : Bool :=
  c == '\t' || (0x20 ≤ c.toNat && c.toNat ≠ 0x7F)

/-- The value of a digit in a base up to 16. -/
def digit? (base : Nat) (c : Char) : Option Nat :=
  let n :=
    if '0' ≤ c ∧ c ≤ '9' then c.toNat - 48
    else if 'a' ≤ c ∧ c ≤ 'f' then c.toNat - 87
    else if 'A' ≤ c ∧ c ≤ 'F' then c.toNat - 55
    else base
  if n < base then some n else none

/-- Cuts a text at its next quote, leaving the quote out; `done` is what came before, latest first.
Where escapes hold, a character after a backslash is guarded and no quote. -/
def cutAtQuote (quote : Char) (escapes guarded : Bool) (done : List Char) :
    List Char → Option (List Char × List Char)
  | [] => none
  | c :: rest =>
    if c == quote && !guarded then some (done.reverse, rest)
    else cutAtQuote quote escapes (escapes && c == '\\' && !guarded) (c :: done) rest

/-- Up to two quotes after the three that end a string are its last characters. -/
def takeExtra (quote : Char) (done rest : List Char) : List Char × List Char :=
  let extra := (rest.take 2).takeWhile (· == quote)
  ((extra ++ done).reverse, rest.drop extra.length)

/-- Cuts a text at its next three quotes, leaving them out. -/
def cutAtQuotes (quote : Char) (escapes guarded : Bool) (done : List Char) :
    List Char → Option (List Char × List Char)
  | [] => none
  | c :: rest =>
    if c == quote && !guarded && rest.take 2 == [quote, quote] then
      some (takeExtra quote done (rest.drop 2))
    else cutAtQuotes quote escapes (escapes && c == '\\' && !guarded) (c :: done) rest

/-- Where the resolution of a string stands. -/
inductive Inside where
  | plain
  /-- After a carriage return. -/
  | lineEnd
  /-- After a backslash. -/
  | escape
  /-- In a code point of `left + 1` more digits. -/
  | code (left value : Nat)
  /-- After a backslash and blanks; across a line end or not yet. -/
  | gap (crossed : Bool)
  /-- In a gap, after a carriage return. -/
  | gapLineEnd
  deriving Repr

/-- The character for a one-letter escape. -/
def escaped? : Char → Option Char
  | 'b' => some '\x08'
  | 't' => some '\t'
  | 'n' => some '\n'
  | 'f' => some '\x0C'
  | 'r' => some '\r'
  | '"' => some '"'
  | '\\' => some '\\'
  | _ => none

/-- Resolves one character between escapes; `out` is the text so far, latest first. -/
def plainStep? (escapes lines : Bool) (out : List Char) (c : Char) : Option (List Char × Inside) :=
  if escapes && c == '\\' then some (out, .escape)
  else if isPlain c then some (c :: out, .plain)
  else if lines && c == '\n' then some (c :: out, .plain)
  else if lines && c == '\r' then some (out, .lineEnd)
  else none

/-- Resolves one character. -/
def insideStep? (escapes lines : Bool) (s : List Char × Inside) (c : Char) :
    Option (List Char × Inside) :=
  let (out, mode) := s
  match mode with
  | .plain => plainStep? escapes lines out c
  | .lineEnd => if c == '\n' then some ('\n' :: out, .plain) else none
  | .escape =>
    if c == 'u' then some (out, .code 3 0)
    else if c == 'U' then some (out, .code 7 0)
    else if lines && isBlank c then some (out, .gap false)
    else if lines && c == '\n' then some (out, .gap true)
    else if lines && c == '\r' then some (out, .gapLineEnd)
    else (escaped? c).map fun e => (e :: out, .plain)
  | .code left value =>
    match digit? 16 c with
    | none => none
    | some d =>
      match left with
      | left + 1 => some (out, .code left (value * 16 + d))
      | 0 =>
        if (value * 16 + d).isValidChar then some (Char.ofNat (value * 16 + d) :: out, .plain)
        else none
  | .gap crossed =>
    if isBlank c then some (out, .gap crossed)
    else if c == '\n' then some (out, .gap true)
    else if c == '\r' then some (out, .gapLineEnd)
    else if crossed then plainStep? escapes lines out c
    else none
  | .gapLineEnd => if c == '\n' then some (out, .gap true) else none

/-- Resolves the inside of a string. -/
def resolve? (escapes lines : Bool) (inside : List Char) : Option String :=
  match inside.foldlM (insideStep? escapes lines) ([], .plain) with
  | some (out, .plain) | some (out, .gap true) => some (String.ofList out.reverse)
  | _ => none

/-- A line end right after the opening quotes of a longer string is not part of it. -/
def dropFirstLineEnd : List Char → List Char
  | '\n' :: rest => rest
  | '\r' :: '\n' :: rest => rest
  | cs => cs

/-- A string on one line, after its opening quote. -/
def lineString? (quote : Char) (cs : List Char) : Option (String × List Char) :=
  let escapes := quote == '"'
  match cutAtQuote quote escapes false [] cs with
  | some (inside, rest) => (resolve? escapes false inside).map (·, rest)
  | none => none

/-- A string on several lines, after its opening quotes. -/
def linesString? (quote : Char) (cs : List Char) : Option (String × List Char) :=
  let escapes := quote == '"'
  match cutAtQuotes quote escapes false [] (dropFirstLineEnd cs) with
  | some (inside, rest) => (resolve? escapes true inside).map (·, rest)
  | none => none

/-- A string of either kind, after its first quote. -/
def string? (quote : Char) : List Char → Option (String × List Char)
  | a :: b :: rest =>
    if a == quote && b == quote then linesString? quote rest else lineString? quote (a :: b :: rest)
  | cs => lineString? quote cs

end CandleRelay.Toml
