import CandleRelay.Interval
import CandleRelay.Universe

/-!
# Settings

Everything that can be set, by section, with the values that hold where nothing is said. Lengths of
time carry their unit in their name.
-/

namespace CandleRelay.Config

/-- The exchange's streams. -/
structure ExchangeConfig where
  wsUrl : String := "wss://stream.binance.com/stream"
  intervals : List Interval := [.sec1]
  /-- Streams in one request. -/
  batchSize : Nat := 100
  /-- Between two requests. -/
  batchDelayMs : Nat := 300
  /-- Streams on one connection. -/
  maxStreams : Nat := 1024
  connectTimeoutSecs : Nat := 10
  deriving DecidableEq, Repr

/-- The exchange's catalog. -/
structure DiscoveryConfig where
  catalogUrl : String := "https://api.binance.com/api/v3/exchangeInfo"
  quoteAsset : String := "USDT"
  quoteMatch : QuoteMode := .suffix
  maxAttempts : Nat := 3
  initialBackoffMs : Nat := 500
  requestTimeoutSecs : Nat := 10
  deriving DecidableEq, Repr

/-- Where the bus is. -/
inductive BusBackend where
  | redis
  /-- In the process itself. -/
  | memory
  deriving DecidableEq, Repr

namespace BusBackend

/-- The word for it in settings. -/
def word : BusBackend → String
  | redis => "redis"
  | memory => "memory"

/-- The one with this word. -/
def ofWord? (word : String) : Option BusBackend :=
  [redis, memory].find? (·.word == word)

end BusBackend

/-- The bus. -/
structure BusConfig where
  backend : BusBackend := .redis
  redisUrl : String := "redis://127.0.0.1:6379"
  /-- Messages that the bus in the process keeps for a subscriber. -/
  memoryCapacity : Nat := 4096
  deriving DecidableEq, Repr

/-- The clients' side. -/
structure GatewayConfig where
  bindAddr : String := "0.0.0.0:8888"
  /-- For one write to one client. -/
  deliveryTimeoutMs : Nat := 5000
  /-- Failures in a row before a client is evicted. -/
  maxDeliveryFailures : Nat := 1
  deriving DecidableEq, Repr

/-- The log. -/
structure LoggingConfig where
  level : String := "info"
  /-- Where log files go; without it there are none. -/
  directory : Option String := none
  deriving DecidableEq, Repr

end CandleRelay.Config

namespace CandleRelay

/-- All settings. -/
structure Config where
  exchange : Config.ExchangeConfig := {}
  discovery : Config.DiscoveryConfig := {}
  bus : Config.BusConfig := {}
  gateway : Config.GatewayConfig := {}
  logging : Config.LoggingConfig := {}
  deriving DecidableEq, Repr

end CandleRelay
