import CandleRelay.Config.Settings
import CandleRelay.Gateway.Dispatch
import CandleRelay.Worker

/-!
# From settings to parts

What each part of the relay is told of the settings.
-/

namespace CandleRelay.Config

/-- Which symbols are followed. -/
def DiscoveryConfig.filter (c : DiscoveryConfig) : QuoteFilter :=
  QuoteFilter.ofAsset c.quoteAsset c.quoteMatch

/-- How often the catalog is asked for. -/
def DiscoveryConfig.retry (c : DiscoveryConfig) : Discovery.RetryPolicy :=
  .ofLimits c.maxAttempts c.initialBackoffMs

/-- The limits of deliveries. -/
def GatewayConfig.deliveries (c : GatewayConfig) : Gateway.Settings :=
  ⟨c.deliveryTimeoutMs, c.maxDeliveryFailures⟩

/-- What the worker asks for. -/
def plan (c : Config) : Worker.Plan where
  filter := c.discovery.filter
  retry := c.discovery.retry
  intervals := c.exchange.intervals
  batchSize := c.exchange.batchSize
  batchDelay := c.exchange.batchDelayMs
  maxStreams := c.exchange.maxStreams

end CandleRelay.Config
