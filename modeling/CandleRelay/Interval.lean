import CandleRelay.Symbol

/-!
# Kline intervals

The candle widths that the exchange streams, each with the code that names it on the wire. Codes
are case-sensitive: `1m` is a minute and `1M` is a month.
-/

namespace CandleRelay

/-- The width of a candle. -/
inductive Interval where
  | sec1 | min1 | min3 | min5 | min15 | min30
  | hour1 | hour2 | hour4 | hour6 | hour8 | hour12
  | day1 | day3 | week1 | month1
  deriving DecidableEq, Repr, Inhabited

namespace Interval

/-- Every interval, from the shortest to the longest. -/
def all : List Interval :=
  [sec1, min1, min3, min5, min15, min30, hour1, hour2, hour4, hour6, hour8, hour12,
    day1, day3, week1, month1]

/-- The exchange's name for the interval. -/
def code : Interval → String
  | sec1 => "1s"
  | min1 => "1m"
  | min3 => "3m"
  | min5 => "5m"
  | min15 => "15m"
  | min30 => "30m"
  | hour1 => "1h"
  | hour2 => "2h"
  | hour4 => "4h"
  | hour6 => "6h"
  | hour8 => "8h"
  | hour12 => "12h"
  | day1 => "1d"
  | day3 => "3d"
  | week1 => "1w"
  | month1 => "1M"

/-- The interval with this code. -/
def ofCode? (code : String) : Option Interval :=
  all.find? (·.code == code)

/-- What is said of a code that names no interval. -/
def unknownMessage (code : String) : String := "unknown kline interval: " ++ code

/-- The exchange's name for the candles of a symbol, e.g. `btcusdt@kline_1s`. -/
def streamName (i : Interval) (s : Symbol) : String :=
  Text.lower s.name ++ "@kline_" ++ i.code

end Interval

end CandleRelay
