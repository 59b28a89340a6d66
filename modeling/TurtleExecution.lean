import TurtleExecution.EventStore.Corruption
import TurtleExecution.OrderManager.Venue
import TurtleExecution.OrderManager.Amend
import TurtleExecution.OrderManager.KeyLength
import TurtleExecution.SharedStore.MutationKeys
import TurtleExecution.PortfolioManager.Rounding
import TurtleExecution.Orchestration.Reconciliation
import TurtleExecution.App.EmergencyStop
import TurtleExecution.TradingSystem.LiveOrders
import TurtleExecution.OrderManager.Fills
import TurtleExecution.PositionManager.Conservation
import TurtleExecution.HyperliquidAdapter.Cancellation
import TurtleExecution.Historical.FundingRates
import TurtleExecution.Historical.Metrics
import TurtleExecution.TradingSystem.Exits
import TurtleExecution.PortfolioManager.Margins
import TurtleExecution.PositionManager.Exits
import TurtleExecution.AccountingSync.Exposure
import TurtleExecution.TradingSystem.RiskLimit
import TurtleExecution.EventStore.Opening
import TurtleExecution.EventStore.SecretNames
import TurtleExecution.EventStore.Agreement
import TurtleExecution.ExchangeAdapter.Adapter
import TurtleExecution.ExchangeAdapter.Retry
import TurtleExecution.HyperliquidAdapter.ActionCodec
import TurtleExecution.TradingSystem.Quantization
import TurtleExecution.Historical.FundingPages
import TurtleExecution.HistoricalStorage.FirstWins
import TurtleExecution.Config.Loading
import TurtleExecution.SecretsBoundary.Separation
import TurtleExecution.Validation.Regimes
import TurtleExecution.Validation.HitRates
import TurtleExecution.Validation.Duplicates
import TurtleExecution.ExecutionBridge.Cadence
import TurtleExecution.Registry.Walks
import TurtleExecution.OpenInterestCampaign.LookAhead
import TurtleExecution.SharedStore.NamespacedKeys
import TurtleExecution.Lifecycle.Degradation
import TurtleExecution.Governance.Decisions
import TurtleExecution.OrderManager.DrivenMachine
import TurtleExecution.TradingSystem.SizingRange
