import CandleRelay.Json.Reader
import CandleRelay.Json.Record
import CandleRelay.Universe

/-!
# The instrument catalog

The exchange lists its instruments in one JSON record. Of each instrument only the ticker is read.
-/

namespace CandleRelay.Discovery

open Json

/-- The ticker of one instrument. -/
def ticker? (d : Doc) : Option String :=
  (d.record? ["symbol"] 1).bind (required? Doc.text? "symbol")

/-- The tickers that a catalog lists, in its order. -/
def tickers? (body : Bytes) : Option (List String) :=
  ((parse? body).bind (·.record? ["symbols"] 1)).bind (required? (Doc.items? ticker?) "symbols")

/-- The symbols of a catalog that the filter accepts. -/
def symbols? (filter : QuoteFilter) (body : Bytes) : Option (List Symbol) :=
  (tickers? body).map filter.symbols

end CandleRelay.Discovery
