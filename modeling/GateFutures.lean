import GateFutures.Library.Run
import GateFutures.Framework.Download
import GateFutures.Framework.Limit
import GateFutures.Framework.Symbols
import GateFutures.Roq.Types
import GateFutures.Protocol.Json
import GateFutures.Protocol.Encoder
import GateFutures.Gateway.Streams
import GateFutures.Gateway.DropCopy
import GateFutures.Gateway.OrderEntry
import GateFutures.Gateway.Account
import GateFutures.Gateway.Effects
import GateFutures.Gateway.Stages
import GateFutures.Gateway.Steps
import GateFutures.Gateway.Correlation
import GateFutures.Gateway.Downloaded
import GateFutures.Gateway.Freshness
import GateFutures.Gateway.StaleOrders
import GateFutures.Gateway.Resolution
import GateFutures.Gateway.RoundTrip
import GateFutures.Gateway.Positions
import GateFutures.Market.Feeds
import GateFutures.Market.MarketData
import GateFutures.Market.Rest
import GateFutures.Market.Controller
import GateFutures.Market.Effects
import GateFutures.Market.Queues
import GateFutures.Market.Steps
import GateFutures.Market.NewSymbols
import GateFutures.Market.Snapshots
import GateFutures.Market.Contracts
import GateFutures.Market.Subscriptions
import GateFutures.Tools.Quota
import GateFutures.Market.Attempts
import GateFutures.Market.Scratch
import GateFutures.Gateway.Envelope
import GateFutures.Gateway.Acknowledgements
import GateFutures.Protocol.Router
import GateFutures.Gateway.Texts
import GateFutures.Market.Texts
import GateFutures.Gateway.Outbound
import GateFutures.Gateway.Reports
import GateFutures.Library.Decimals
import GateFutures.Protocol.Times
import GateFutures.Market.Summaries
import GateFutures.Gateway.SettleCoins
import GateFutures.Gateway.Lookback
import GateFutures.Gateway.Fills
import GateFutures.Tools.Crypto
import GateFutures.Tools.Nanoseconds
import GateFutures.Library.Composition
import GateFutures.Gateway.Identities
import GateFutures.Market.Identities
import GateFutures.Gateway.Waiting
import GateFutures.Gateway.Progress
import GateFutures.Market.Origins
import GateFutures.Market.Demands
import GateFutures.Gateway.Liveness
import GateFutures.Gateway.Logins
import GateFutures.Gateway.StaleChecks
import GateFutures.System.Config
import GateFutures.System.Coins
import GateFutures.System.Orders
import GateFutures.System.Controller
import GateFutures.System.Layout
import GateFutures.System.Runs
import GateFutures.System.Shared
import GateFutures.System.Connections
import GateFutures.System.Credentials
