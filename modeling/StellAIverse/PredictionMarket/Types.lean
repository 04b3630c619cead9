import StellAIverse.Soroban.Token

/-!
# Data model of the prediction market

The records and enumerations of the contract, and its storage with one keyed
store for each family of data keys. Getters supply the defaults of absent
entries and the two balance setters drop an entry that is not positive.
-/

namespace PredictionMarket

open Soroban

def maxOutcomes : ℕ := 10

def maxTradingFeeBps : ℕ := 500

def minResolutionWindow : ℕ := 60

def maxResolutionWindow : ℕ := 365 * 24 * 3600

/-- 18-decimal precision of prices. -/
def decimalFactor : ℤ := 10 ^ 18

inductive MarketStatus where
  | active | pendingResolution | resolved | disputed | closed
  deriving DecidableEq, Repr

inductive MarketCategory where
  | sports | crypto | politics | events | custom
  deriving DecidableEq, Repr

inductive DisputeStatus where
  | open | voted | resolvedUpheld | resolvedRejected
  deriving DecidableEq, Repr

inductive OrderStatus where
  | open | filled | cancelled
  deriving DecidableEq, Repr

inductive OrderSide where
  | buy | sell
  deriving DecidableEq, Repr

structure Market where
  marketId : ℕ
  question : String
  category : MarketCategory
  creator : Address
  collateralToken : Address
  oracleSource : Address
  numOutcomes : ℕ
  outcomeNames : List String
  status : MarketStatus
  createdAt : ℕ
  resolutionWindowStart : ℕ
  resolutionWindowEnd : ℕ
  resolvedOutcome : Option ℕ
  totalCollateral : ℤ
  maxOutcomeSupply : ℤ
  tradingFeeBps : ℕ

/-- CPMM reserves of one outcome: `x` collateral against `y` outcome tokens. -/
structure OutcomePool where
  collateralReserve : ℤ
  outcomeReserve : ℤ
  lpTotalSupply : ℤ
  deriving DecidableEq, Repr

structure UserOutcomePosition where
  marketId : ℕ
  outcomeIndex : ℕ
  owner : Address
  quantity : ℤ
  avgEntryPrice : ℤ
  realizedPnl : ℤ
  createdAt : ℕ
  updatedAt : ℕ

structure LimitOrder where
  orderId : ℕ
  marketId : ℕ
  owner : Address
  outcomeIndex : ℕ
  side : OrderSide
  price : ℤ
  quantity : ℤ
  filledQuantity : ℤ
  status : OrderStatus
  createdAt : ℕ
  expiresAt : Option ℕ

structure Dispute where
  disputeId : ℕ
  marketId : ℕ
  challenger : Address
  claimedOutcome : ℕ
  evidence : String
  stakeAmount : ℤ
  status : DisputeStatus
  votesFor : ℤ
  votesAgainst : ℤ
  createdAt : ℕ
  resolvedAt : Option ℕ

structure CreateMarketParams where
  question : String
  category : MarketCategory
  collateralToken : Address
  oracleSource : Address
  numOutcomes : ℕ
  outcomeNames : List String
  resolutionWindowDuration : ℕ
  maxOutcomeSupply : ℤ
  tradingFeeBps : ℕ
  initialLiquidity : ℤ

/-- Contract storage together with the token state it trades against. -/
structure State (τ : Type) where
  admin : Option Address
  tradingPaused : Bool
  marketCounter : ℕ
  defaultOracle : Option Address
  feeShareBps : ℤ
  governanceCollector : Option Address
  market : Store ℕ Market
  outcomePool : Store (ℕ × ℕ) OutcomePool
  outcomeBalance : Store (ℕ × ℕ × Address) ℤ
  marketCollateral : Store ℕ ℤ
  lpShares : Store (ℕ × Address) ℤ
  lpTotalSupply : Store ℕ ℤ
  orderCounter : Store ℕ ℕ
  order : Store (ℕ × ℕ) LimitOrder
  userPosition : Store (ℕ × ℕ × Address) UserOutcomePosition
  disputeCounter : Store ℕ ℕ
  dispute : Store (ℕ × ℕ) Dispute
  disputeVote : Store (ℕ × ℕ × Address) ℤ
  totalOutcomeSupply : Store (ℕ × ℕ) ℤ
  tokens : τ

variable {τ : Type}

/-- Storage of a contract that has only been deployed. -/
def deployed (tokens : τ) : State τ where
  admin := none
  tradingPaused := false
  marketCounter := 0
  defaultOracle := none
  feeShareBps := 0
  governanceCollector := none
  market := .empty
  outcomePool := .empty
  outcomeBalance := .empty
  marketCollateral := .empty
  lpShares := .empty
  lpTotalSupply := .empty
  orderCounter := .empty
  order := .empty
  userPosition := .empty
  disputeCounter := .empty
  dispute := .empty
  disputeVote := .empty
  totalOutcomeSupply := .empty
  tokens := tokens

def getMarket (s : State τ) (marketId : ℕ) : Option Market := s.market.get? marketId

def setMarket (s : State τ) (m : Market) : State τ :=
  { s with market := s.market.set m.marketId m }

def getOutcomePool (s : State τ) (marketId outcomeIndex : ℕ) : Option OutcomePool :=
  s.outcomePool.get? (marketId, outcomeIndex)

def setOutcomePool (s : State τ) (marketId outcomeIndex : ℕ) (pool : OutcomePool) : State τ :=
  { s with outcomePool := s.outcomePool.set (marketId, outcomeIndex) pool }

def getOutcomeBalance (s : State τ) (marketId outcomeIndex : ℕ) (user : Address) : ℤ :=
  s.outcomeBalance.amount (marketId, outcomeIndex, user)

/-- A balance that is not positive is removed, also a negative one. -/
def setOutcomeBalance (s : State τ) (marketId outcomeIndex : ℕ) (user : Address)
    (amount : ℤ) : State τ :=
  { s with outcomeBalance := s.outcomeBalance.put (marketId, outcomeIndex, user) amount }

def getMarketCollateral (s : State τ) (marketId : ℕ) : ℤ :=
  s.marketCollateral.amount marketId

def setMarketCollateral (s : State τ) (marketId : ℕ) (amount : ℤ) : State τ :=
  { s with marketCollateral := s.marketCollateral.set marketId amount }

def getLpShares (s : State τ) (marketId : ℕ) (provider : Address) : ℤ :=
  s.lpShares.amount (marketId, provider)

def setLpShares (s : State τ) (marketId : ℕ) (provider : Address) (shares : ℤ) : State τ :=
  { s with lpShares := s.lpShares.put (marketId, provider) shares }

def getLpTotalSupply (s : State τ) (marketId : ℕ) : ℤ :=
  s.lpTotalSupply.amount marketId

def setLpTotalSupply (s : State τ) (marketId : ℕ) (supply : ℤ) : State τ :=
  { s with lpTotalSupply := s.lpTotalSupply.set marketId supply }

def getOrderCounter (s : State τ) (marketId : ℕ) : ℕ := (s.orderCounter.get? marketId).getD 0

def setOrderCounter (s : State τ) (marketId counter : ℕ) : State τ :=
  { s with orderCounter := s.orderCounter.set marketId counter }

def getOrder (s : State τ) (marketId orderId : ℕ) : Option LimitOrder :=
  s.order.get? (marketId, orderId)

def setOrder (s : State τ) (order : LimitOrder) : State τ :=
  { s with order := s.order.set (order.marketId, order.orderId) order }

def getUserPosition (s : State τ) (marketId outcomeIndex : ℕ) (user : Address) :
    Option UserOutcomePosition :=
  s.userPosition.get? (marketId, outcomeIndex, user)

def setUserPosition (s : State τ) (p : UserOutcomePosition) : State τ :=
  { s with userPosition := s.userPosition.set (p.marketId, p.outcomeIndex, p.owner) p }

def getDisputeCounter (s : State τ) (marketId : ℕ) : ℕ :=
  (s.disputeCounter.get? marketId).getD 0

def setDisputeCounter (s : State τ) (marketId counter : ℕ) : State τ :=
  { s with disputeCounter := s.disputeCounter.set marketId counter }

def getDispute (s : State τ) (marketId disputeId : ℕ) : Option Dispute :=
  s.dispute.get? (marketId, disputeId)

def setDispute (s : State τ) (d : Dispute) : State τ :=
  { s with dispute := s.dispute.set (d.marketId, d.disputeId) d }

def hasVoted (s : State τ) (marketId disputeId : ℕ) (voter : Address) : Bool :=
  (s.disputeVote.get? (marketId, disputeId, voter)).isSome

def setVote (s : State τ) (marketId disputeId : ℕ) (voter : Address) (weight : ℤ) : State τ :=
  { s with disputeVote := s.disputeVote.set (marketId, disputeId, voter) weight }

def getTotalOutcomeSupply (s : State τ) (marketId outcomeIndex : ℕ) : ℤ :=
  s.totalOutcomeSupply.amount (marketId, outcomeIndex)

def setTotalOutcomeSupply (s : State τ) (marketId outcomeIndex : ℕ) (supply : ℤ) : State τ :=
  { s with totalOutcomeSupply := s.totalOutcomeSupply.set (marketId, outcomeIndex) supply }

end PredictionMarket
