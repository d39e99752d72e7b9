import CandleRelay.Config.Extract
import CandleRelay.Net.Url

/-!
# Loading settings

Settings come from a file, or from nowhere if there is no file, and are then checked: the relay does
not start with settings that it cannot run with. Of several faults the first in the order of the
checks is the one that is told.
-/

namespace CandleRelay.Config

/-- Why there are no settings to run with. -/
inductive ConfigError where
  | io (reason : String)
  | parse (reason : String)
  | invalidUrl (field : String) (reason : Net.UrlError)
  | invalid (reason : String)
  deriving DecidableEq, Repr

/-- The text of the error. -/
def ConfigError.message : ConfigError → String
  | .io reason => "Failed to read config file: " ++ reason
  | .parse reason => "Failed to parse config: " ++ reason
  | .invalidUrl field reason => "Invalid URL in " ++ field ++ ": " ++ reason.message
  | .invalid reason => "Invalid config: " ++ reason

/-- A web address has to be one. -/
def checkUrl (field url : String) : Except ConfigError Unit :=
  match Net.Url.check url with
  | .ok _ => .ok ()
  | .error reason => .error (.invalidUrl field reason)

/-- A condition has to hold. -/
def require (holds : Bool) (reason : String) : Except ConfigError Unit :=
  if holds then .ok () else .error (.invalid reason)

/-- Whether a text holds nothing but blanks. -/
def isBlank (s : String) : Bool := (Text.trim s.toList).isEmpty

/-- Checks settings. The address of the bus matters only if the bus is somewhere else. -/
def validate (c : Config) : Except ConfigError Unit := do
  checkUrl "upstream.ws_url" c.exchange.wsUrl
  checkUrl "discovery.catalog_url" c.discovery.catalogUrl
  require (0 < c.exchange.batchSize) "upstream.batch_size must be > 0"
  require (0 < c.exchange.batchDelayMs) "upstream.batch_delay_ms must be > 0"
  require (!c.exchange.intervals.isEmpty) "upstream.intervals must not be empty"
  require (0 < c.exchange.maxStreams) "upstream.max_streams must be > 0"
  require (!isBlank c.discovery.quoteAsset) "discovery.quote_asset must not be empty"
  if c.bus.backend = .redis then checkUrl "bus.redis_url" c.bus.redisUrl
  require (Net.isSocketAddress c.gateway.bindAddr) "gateway.bind_addr must be host:port"
  require (0 < c.gateway.deliveryTimeoutMs) "gateway.delivery_timeout_ms must be > 0"
  require (0 < c.gateway.maxDeliveryFailures) "gateway.max_delivery_failures must be >= 1"

/-- What is found at the place of the file. -/
inductive Source where
  | missing
  /-- Something that cannot be read. -/
  | unreadable (reason : String)
  | file (content : Bytes)
  deriving DecidableEq

/-- What is said of a directory in the place of the file. -/
def directoryReason : String := "Is a directory (os error 21)"

/-- What is said of a file that is no text. -/
def notTextReason : String := "stream did not contain valid UTF-8"

/-- The settings at a place, before they are checked. -/
def read : Source → Except ConfigError Config
  | .missing => .ok {}
  | .unreadable reason => .error (.io reason)
  | .file content =>
    match Text.Utf8.decode? content with
    | none => .error (.io notTextReason)
    | some s =>
      match ofToml? s with
      | some c => .ok c
      | none => .error (.parse "not a settings file")

/-- The settings at a place, checked. -/
def load (s : Source) : Except ConfigError Config := do
  let c ← read s
  validate c
  return c

end CandleRelay.Config
