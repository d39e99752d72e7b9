import CandleRelay.Json.Doc

/-!
# Writing JSON strings

A text is written between quotes with as few escapes as JSON allows: quote, backslash and control
characters, the latter by their letter where they have one.
-/

namespace CandleRelay.Json

/-- The lower-case hexadecimal digit for `n`. -/
def hexDigit (n : Nat) : Char :=
  if n < 10 then Char.ofNat (48 + n) else Char.ofNat (87 + n)

/-- How a character stands inside a string. -/
def escape (c : Char) : List Char :=
  if c == '"' then ['\\', '"']
  else if c == '\\' then ['\\', '\\']
  else if c == '\x08' then ['\\', 'b']
  else if c == '\x0C' then ['\\', 'f']
  else if c == '\n' then ['\\', 'n']
  else if c == '\r' then ['\\', 'r']
  else if c == '\t' then ['\\', 't']
  else if c.toNat < 0x20 then
    ['\\', 'u', '0', '0', hexDigit (c.toNat / 16), hexDigit (c.toNat % 16)]
  else [c]

/-- The text as a JSON string. -/
def quoted (s : String) : String :=
  String.ofList ('"' :: s.toList.flatMap escape ++ ['"'])

/-- The texts as a JSON array of strings. -/
def quotedList (texts : List String) : String :=
  "[" ++ ",".intercalate (texts.map quoted) ++ "]"

end CandleRelay.Json
