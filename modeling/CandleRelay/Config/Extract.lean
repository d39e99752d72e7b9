import CandleRelay.Config.Settings
import CandleRelay.Toml.Document

/-!
# Settings from TOML

A section is a table of its fields, or the array of its fields in order. What is missing keeps its
default, what is unknown is passed over, and what has the wrong type or does not fit its field makes
the whole text unusable. A date in the place of a section says nothing about any field.
-/

namespace CandleRelay.Config

open Toml

/-- The fields of a section that are there, by name. -/
def section? (fields : List String) : Value → Option (List (String × Value))
  | .table entries => some entries
  | .array items => some (fields.zip items)
  | .datetime => some []
  | _ => none

/-- A field through `read`, or its default where it is missing. -/
def field? {α : Type} (read : Value → Option α) (default : α) (name : String)
    (r : List (String × Value)) : Option α :=
  match r.lookup name with
  | none => some default
  | some v => read v

/-- A text. -/
def text? : Value → Option String
  | .text s => some s
  | _ => none

/-- A number from zero up, below a bound. -/
def natural? (bound : Nat) : Value → Option Nat
  | .integer n => if 0 ≤ n ∧ n < bound then some n.toNat else none
  | _ => none

/-- A word, as a text or as the only key of a table with nothing under it. -/
def word? : Value → Option String
  | .text s => some s
  | .table [(s, .table [])] => some s
  | .table [(s, .array [])] => some s
  | _ => none

/-- The intervals of an array of codes. -/
def intervals? : Value → Option (List Interval)
  | .array items => items.mapM fun v => (text? v).bind Interval.ofCode?
  | _ => none

/-- The section on the exchange's streams. -/
def exchange? (v : Value) : Option ExchangeConfig := do
  let d : ExchangeConfig := {}
  let r ← section?
    ["ws_url", "intervals", "batch_size", "batch_delay_ms", "max_streams", "connect_timeout_secs"] v
  let wsUrl ← field? text? d.wsUrl "ws_url" r
  let intervals ← field? intervals? d.intervals "intervals" r
  let batchSize ← field? (natural? (Nat.pow 2 64)) d.batchSize "batch_size" r
  let batchDelayMs ← field? (natural? (Nat.pow 2 64)) d.batchDelayMs "batch_delay_ms" r
  let maxStreams ← field? (natural? (Nat.pow 2 64)) d.maxStreams "max_streams" r
  let connectTimeoutSecs ←
    field? (natural? (Nat.pow 2 64)) d.connectTimeoutSecs "connect_timeout_secs" r
  return { wsUrl, intervals, batchSize, batchDelayMs, maxStreams, connectTimeoutSecs }

/-- The section on the exchange's catalog. -/
def discovery? (v : Value) : Option DiscoveryConfig := do
  let d : DiscoveryConfig := {}
  let r ← section?
    ["catalog_url", "quote_asset", "quote_match", "max_attempts", "initial_backoff_ms",
      "request_timeout_secs"] v
  let catalogUrl ← field? text? d.catalogUrl "catalog_url" r
  let quoteAsset ← field? text? d.quoteAsset "quote_asset" r
  let quoteMatch ← field? (fun v => (word? v).bind QuoteMode.ofWord?) d.quoteMatch "quote_match" r
  let maxAttempts ← field? (natural? (Nat.pow 2 32)) d.maxAttempts "max_attempts" r
  let initialBackoffMs ← field? (natural? (Nat.pow 2 64)) d.initialBackoffMs "initial_backoff_ms" r
  let requestTimeoutSecs ←
    field? (natural? (Nat.pow 2 64)) d.requestTimeoutSecs "request_timeout_secs" r
  return { catalogUrl, quoteAsset, quoteMatch, maxAttempts, initialBackoffMs, requestTimeoutSecs }

/-- The section on the bus. -/
def bus? (v : Value) : Option BusConfig := do
  let d : BusConfig := {}
  let r ← section? ["backend", "redis_url", "memory_capacity"] v
  let backend ← field? (fun v => (word? v).bind BusBackend.ofWord?) d.backend "backend" r
  let redisUrl ← field? text? d.redisUrl "redis_url" r
  let memoryCapacity ← field? (natural? (Nat.pow 2 64)) d.memoryCapacity "memory_capacity" r
  return { backend, redisUrl, memoryCapacity }

/-- The section on the clients' side. -/
def gateway? (v : Value) : Option GatewayConfig := do
  let d : GatewayConfig := {}
  let r ← section? ["bind_addr", "delivery_timeout_ms", "max_delivery_failures"] v
  let bindAddr ← field? text? d.bindAddr "bind_addr" r
  let deliveryTimeoutMs ←
    field? (natural? (Nat.pow 2 64)) d.deliveryTimeoutMs "delivery_timeout_ms" r
  let maxDeliveryFailures ←
    field? (natural? (Nat.pow 2 32)) d.maxDeliveryFailures "max_delivery_failures" r
  return { bindAddr, deliveryTimeoutMs, maxDeliveryFailures }

/-- The section on the log. -/
def logging? (v : Value) : Option LoggingConfig := do
  let d : LoggingConfig := {}
  let r ← section? ["level", "directory"] v
  let level ← field? text? d.level "level" r
  let directory ← field? (fun v => (text? v).map some) d.directory "directory" r
  return { level, directory }


/-- The settings that a text of TOML gives. -/
def ofToml? (input : String) : Option Config := do
  let r ← Toml.parse? input
  let exchange ← field? exchange? {} "upstream" r
  let discovery ← field? discovery? {} "discovery" r
  let bus ← field? bus? {} "bus" r
  let gateway ← field? gateway? {} "gateway" r
  let logging ← field? logging? {} "logging" r
  return { exchange, discovery, bus, gateway, logging }

end CandleRelay.Config
