import StellAIverse.Marketplace.Settlement
import StellAIverse.PortfolioManager.Rebalancing
import StellAIverse.PortfolioManager.Valuation
import StellAIverse.PortfolioManager.Deposits
import StellAIverse.SquareRoot
import StellAIverse.PredictionMarket.Solvency
import StellAIverse.PredictionMarket.Votes
import StellAIverse.PredictionMarket.Custody
import StellAIverse.PredictionMarket.Trades
import StellAIverse.Vault.ShareLedger
import StellAIverse.Vault.SharePrice
import StellAIverse.Vault.Strategies
import StellAIverse.Staking.Batches
import StellAIverse.Amm.Rewards
import StellAIverse.Amm.Execution
import StellAIverse.FeeDistribution.Distributions
import StellAIverse.FeeDistribution.Batches
import StellAIverse.TokenVesting.Arithmetic
import StellAIverse.Escrow.Custody
import StellAIverse.Escrow.RateLimit
import StellAIverse.Escrow.Takeover
import StellAIverse.MultiSigWallet.Order
import StellAIverse.MultiSigWallet.DailyLimit
import StellAIverse.CollateralManagement.Custody
import StellAIverse.CollateralManagement.Accruals
import StellAIverse.CollateralManagement.Limits
import StellAIverse.CollateralManagement.Freshness
import StellAIverse.MembershipSubscription.Revenue
import StellAIverse.MembershipSubscription.Pauses
import StellAIverse.Bridge.Quorum
import StellAIverse.Bridge.Backing
import StellAIverse.Bridge.Liquidity
import StellAIverse.Bridge.Disputes
import StellAIverse.Bridge.Initialization
import StellAIverse.CrossChainBridge.Fees
import StellAIverse.CrossChainBridge.RateLimits
import StellAIverse.CrossChainBridge.Signatures
import StellAIverse.Governance.Finality
import StellAIverse.Governance.Supply
import StellAIverse.InsuranceProtocol.Claims
import StellAIverse.InsuranceProtocol.Votes
import StellAIverse.InsuranceProtocol.ShareValue
import StellAIverse.PortfolioManager.Custody
import StellAIverse.Marketplace.Royalties
import StellAIverse.Marketplace.Sales
import StellAIverse.Marketplace.SealedBids
import StellAIverse.ComplianceIntegration.Finality
import StellAIverse.Oracle.Breaker
import StellAIverse.Oracle.Reputation
import StellAIverse.Oracle.Aggregation
import StellAIverse.Oracle.Twap
import StellAIverse.Oracle.Robustness
import StellAIverse.Oracle.Queries
import StellAIverse.ExecutionHub.Actions
import StellAIverse.ExecutionHub.Summaries
