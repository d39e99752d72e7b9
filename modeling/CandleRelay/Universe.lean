import CandleRelay.Symbol

/-!
# The symbol universe

Of the exchange's instruments only those quoted in one asset are followed. A filter names the
asset and says where in the ticker it has to stand; the universe keeps the first mention of each
accepted symbol, in the order of the list it is drawn from.
-/

namespace CandleRelay

/-- Where the quote asset has to stand in a ticker. -/
inductive QuoteMode where
  /-- At the end, as `USDT` in `BTCUSDT`. -/
  | suffix
  /-- Anywhere, as `USDT` in `USDTTRY`. -/
  | contains
  deriving DecidableEq, Repr, Inhabited

namespace QuoteMode

/-- The word for the mode in settings. -/
def word : QuoteMode → String
  | suffix => "suffix"
  | contains => "contains"

/-- The mode with this word. -/
def ofWord? (word : String) : Option QuoteMode :=
  [suffix, contains].find? (·.word == word)

end QuoteMode

/-- Which symbols are followed. -/
structure QuoteFilter where
  quote : String
  mode : QuoteMode
  deriving DecidableEq

namespace QuoteFilter

/-- The filter for an asset however it is spelled. -/
def ofAsset (asset : String) (mode : QuoteMode) : QuoteFilter :=
  ⟨Text.canonical asset, mode⟩

/-- Whether the asset stands where the mode wants it. -/
def accepts (f : QuoteFilter) (s : Symbol) : Bool :=
  match f.mode with
  | .suffix => s.hasQuote f.quote
  | .contains => Text.contains f.quote.toList s.name.toList

/-- The accepted symbols among the names, each once, in the order of their first mention. -/
def symbols (f : QuoteFilter) (names : List String) : List Symbol :=
  ((names.filterMap Symbol.ofString?).filter f.accepts).eraseDups

end QuoteFilter

end CandleRelay
