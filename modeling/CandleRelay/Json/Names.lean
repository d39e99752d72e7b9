import CandleRelay.Config.Settings
import CandleRelay.Json.Reader
import CandleRelay.Json.Record

/-!
# Names in JSON

Symbols, topics and intervals stand in JSON as strings, and reading one keeps what its type
promises: a symbol and a topic come out canonical, a blank symbol and an unknown code are refused.
A word of the settings may also stand as the only key of an object, with nothing under it.
-/

namespace CandleRelay.Json

namespace Doc

/-- A symbol, in any spelling but a blank one. -/
def symbol? (d : Doc) : Option Symbol := d.text?.bind Symbol.ofString?

/-- A topic, in any spelling. -/
def topic? (d : Doc) : Option Topic := d.text?.map Topic.ofString

/-- An interval, by its code. -/
def interval? (d : Doc) : Option Interval := d.text?.bind Interval.ofCode?

/-- A word: a string, or an object with that key alone and null under it. -/
def word? : Doc → Option String
  | .text l => l.text?
  | .object [(k, .null)] => k.text?
  | _ => none

/-- The way a quote asset is matched, by its word. -/
def quoteMode? (d : Doc) : Option QuoteMode := d.word?.bind QuoteMode.ofWord?

/-- The place of the bus, by its word. -/
def busBackend? (d : Doc) : Option Config.BusBackend := d.word?.bind Config.BusBackend.ofWord?

end Doc

end CandleRelay.Json
