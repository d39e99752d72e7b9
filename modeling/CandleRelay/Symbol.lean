import CandleRelay.Text.Canonical

/-!
# Symbols and topics

A symbol is an exchange ticker in canonical form and is never empty. The channel that carries its
events is a topic: the same name, under which publishers and clients meet however either of them
spelled it. A topic may be empty, but no event is published there.
-/

namespace CandleRelay

/-- The name of a channel on the bus, in canonical form. -/
structure Topic where
  name : String
  canonical : Text.canonical name = name
  deriving DecidableEq

namespace Topic

/-- The channel that a spelling stands for. -/
def ofString (raw : String) : Topic :=
  ⟨Text.canonical raw, Text.canonical_canonical raw⟩

/-- Whether the spelling was blank. -/
def isEmpty (t : Topic) : Bool := t.name == ""

instance : Inhabited Topic := ⟨ofString ""⟩

end Topic

/-- A ticker in canonical form. -/
structure Symbol where
  name : String
  canonical : Text.canonical name = name
  nonempty : name ≠ ""
  deriving DecidableEq

namespace Symbol

/-- The symbol that a spelling stands for; a blank one stands for none. -/
def ofString? (raw : String) : Option Symbol :=
  if h : Text.canonical raw = "" then none
  else some ⟨Text.canonical raw, Text.canonical_canonical raw, h⟩

/-- What is said of a blank spelling where a symbol is needed. -/
def blankMessage : String := "symbol must not be empty"

/-- The channel that carries the symbol's events. -/
def topic (s : Symbol) : Topic := ⟨s.name, s.canonical⟩

/-- Whether the name ends with `quote`, letter case included. -/
def hasQuote (s : Symbol) (quote : String) : Bool :=
  quote.toList.isSuffixOf s.name.toList

end Symbol

end CandleRelay
