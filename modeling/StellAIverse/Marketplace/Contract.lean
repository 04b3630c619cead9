import StellAIverse.ExecutionHub.Contract

/-!
# The marketplace

Agents are listed, auctioned and sold. A sale runs as a workflow of the execution
hub: buying books it, and the hub then calls the steps of the sale back on the
marketplace. This module has the storage of the two contracts, listings, the steps
of a sale and the callbacks; no token moves in any of them. Events, getters and the
entry points that touch nothing of this (disputes, currencies, roles, collection
metadata, fee splits) are left out.
-/

namespace Marketplace

open Soroban

abbrev Bytes := List UInt8

structure Agent where
  owner : Address
  updatedAt : ℕ
  nonce : ℕ
  escrowLocked : Bool
  escrowHolder : Option Address
  deriving DecidableEq, Repr

inductive ListingType where
  | sale | lease | auction
  deriving DecidableEq, Repr

structure Listing where
  listingId : ℕ
  assetId : ℕ
  seller : Address
  price : ℤ
  listingType : ListingType
  active : Bool
  createdAt : ℕ
  expiresAt : ℕ
  deriving DecidableEq, Repr

structure PendingSale where
  listingId : ℕ
  buyer : Address
  amount : ℤ
  seller : Address
  agentId : ℕ
  workflowId : ℕ
  createdAt : ℕ
  deriving DecidableEq, Repr

structure Offer where
  offerId : ℕ
  listingId : ℕ
  offerer : Address
  amount : ℤ
  active : Bool
  createdAt : ℕ
  expiresAt : ℕ

structure CounterOffer where
  counterId : ℕ
  listingId : ℕ
  inResponseToOfferId : ℕ
  bySeller : Address
  amount : ℤ
  active : Bool
  createdAt : ℕ
  expiresAt : ℕ

inductive TxnType where
  | sale | auctionWon | nftSale
  deriving DecidableEq, Repr

structure TransactionRecord where
  txnId : ℕ
  listingId : ℕ
  assetId : ℕ
  seller : Address
  buyer : Address
  amount : ℤ
  royaltyAmount : ℤ
  platformFee : ℤ
  timestamp : ℕ
  txnType : TxnType
  deriving DecidableEq, Repr

structure PlatformFeeConfig where
  feeBps : ℕ
  recipient : Address

structure RoyaltyInfo where
  recipient : Address
  fee : ℕ

structure RoyaltyRecipient where
  recipient : Address
  shareBps : ℕ
  role : String
  deriving DecidableEq, Repr

structure RoyaltyConfig where
  recipients : List RoyaltyRecipient
  totalBps : ℕ
  minThreshold : ℤ
  maxCap : Option ℤ
  deriving DecidableEq, Repr

structure Collection where
  collectionId : ℕ
  creator : Address
  name : String
  members : List ℕ
  royaltyConfig : RoyaltyConfig
  createdAt : ℕ
  updatedAt : ℕ

inductive AuctionType where
  | english | dutch | sealed
  deriving DecidableEq, Repr

inductive AuctionStatus where
  | created | active | ended | cancelled | won
  deriving DecidableEq, Repr

structure Auction where
  auctionId : ℕ
  agentId : ℕ
  seller : Address
  auctionType : AuctionType
  startPrice : ℤ
  reservePrice : ℤ
  currentPrice : ℤ
  highestBidder : Option Address
  highestBid : ℤ
  startTime : ℕ
  endTime : ℕ
  minBidIncrementBps : ℕ
  status : AuctionStatus
  sealedCommitEnd : Option ℕ
  sealedRevealEnd : Option ℕ
  deriving DecidableEq, Repr

structure BidRecord where
  bidder : Address
  amount : ℤ
  timestamp : ℕ
  bidIncrement : ℤ
  sequence : ℕ

structure SealedCommit where
  bidder : Address
  commitment : Bytes
  deposit : ℤ
  timestamp : ℕ

structure SealedReveal where
  bidder : Address
  amount : ℤ
  nonce : String
  deposit : ℤ
  timestamp : ℕ

inductive NftStandard where
  | stellarNative | erc721 | erc1155
  deriving DecidableEq, Repr

structure NftTokenRef where
  contractAddress : Option Address
  tokenId : ℕ
  standard : NftStandard

structure NftListing where
  nftListingId : ℕ
  nftTokenRef : NftTokenRef
  seller : Address
  price : ℤ
  currencySymbol : String
  currencyTokenAddress : Option Address
  active : Bool
  createdAt : ℕ
  expiresAt : ℕ
  metadataUri : String

/-- Storage of the marketplace, with that of the hub. -/
structure State where
  admin : Option Address
  executionHub : Option Address
  agent : Store ℕ Agent
  listingCounter : Option ℕ
  listing : Store ℕ Listing
  pendingSale : Store ℕ PendingSale
  wfListing : Store ℕ ℕ
  offerCounter : Option ℕ
  offer : Store ℕ Offer
  counterOfferCounter : Option ℕ
  counterOffer : Store ℕ CounterOffer
  transactionCounter : Option ℕ
  transaction : Store ℕ TransactionRecord
  platformFee : Option PlatformFeeConfig
  royalty : Store ℕ RoyaltyInfo
  collectionCounter : Option ℕ
  collection : Store ℕ Collection
  collectionRoyalty : Store ℕ RoyaltyConfig
  auctionCounter : Option ℕ
  auction : Store ℕ Auction
  bidRecord : Store ℕ (List BidRecord)
  extensionConfig : Store ℕ (ℕ × ℕ)
  sealedCommit : Store (ℕ × Address) SealedCommit
  sealedReveal : Store (ℕ × Address) SealedReveal
  nftListingCounter : Option ℕ
  nftListing : Store ℕ NftListing
  hub : ExecutionHub.State

/-- The agents are there before the marketplace; it has stored nothing else. -/
def deployed (agents : Store ℕ Agent) : State where
  admin := none
  executionHub := none
  agent := agents
  listingCounter := none
  listing := .empty
  pendingSale := .empty
  wfListing := .empty
  offerCounter := none
  offer := .empty
  counterOfferCounter := none
  counterOffer := .empty
  transactionCounter := none
  transaction := .empty
  platformFee := none
  royalty := .empty
  collectionCounter := none
  collection := .empty
  collectionRoyalty := .empty
  auctionCounter := none
  auction := .empty
  bidRecord := .empty
  extensionConfig := .empty
  sealedCommit := .empty
  sealedReveal := .empty
  nftListingCounter := none
  nftListing := .empty
  hub := ExecutionHub.deployed

def priceUpperBound : ℤ := I128.max / 2

def priceLowerBound : ℤ := 0

def maxDurationDays : ℕ := 36500

def maxRoyaltyPercentage : ℕ := 10000

def secondsPerDay : ℕ := 86400

/-- Thirty days. -/
def defaultListingDuration : ℕ := 2592000

def maxBatchSize : ℕ := 25

/-- Eight bytes, the most significant first. -/
def encodeU64 (value : ℕ) : Bytes :=
  [7, 6, 5, 4, 3, 2, 1, 0].map fun i => UInt8.ofNat (value / 256 ^ i)

/-- Bytes after the eighth are not read. -/
def decodeU64 (data : Bytes) : Result ℕ := do
  panicIf (data.length < 8) "Encoded args too short"
  .ok ((data.take 8).foldl (fun value byte => value * 256 + byte.toNat) 0)

def assertAdmin (s : State) (caller : Address) : Result Unit := do
  let admin ← expect s.admin "Not initialized"
  panicIf (caller ≠ admin) "Unauthorized"

def loadAgent (s : State) (agentId : ℕ) : Result Agent :=
  expect (s.agent.get? agentId) "Agent not found"

def saveAgent (s : State) (agentId : ℕ) (agent : Agent) : State :=
  { s with agent := s.agent.set agentId agent }

def loadListing (s : State) (listingId : ℕ) : Result Listing :=
  expect (s.listing.get? listingId) "Listing not found"

def saveListing (s : State) (listingId : ℕ) (listing : Listing) : State :=
  { s with listing := s.listing.set listingId listing }

/-- The next number of a counter that starts at zero. -/
def nextId (counter : Option ℕ) (message : String) : Result ℕ :=
  U64.checked (counter.getD 0 + 1) message

/-- The end of a period of some days, or of the default length. -/
def expiryOf (now : ℕ) (durationDays : Option ℕ) (default : ℕ) : Result ℕ :=
  match durationDays with
  | some days => do
    let seconds ← U64.mul days secondsPerDay
    U64.add now seconds
  | none => U64.add now default

def initContract (env : Env) (admin : Address) (s : State) : Result State := do
  panicIf (s.admin.isSome = true) "Already initialized"
  requireAuth env admin
  .ok { s with
    admin := some admin
    listingCounter := some 0
    auctionCounter := some 0
    collectionCounter := some 0
    counterOfferCounter := some 0
    offerCounter := some 0
    nftListingCounter := some 0
    platformFee := some ⟨250, admin⟩ }

def setExecutionHub (env : Env) (admin hub : Address) (s : State) : Result State := do
  requireAuth env admin
  assertAdmin s admin
  .ok { s with executionHub := some hub }

def setPlatformFee (env : Env) (admin : Address) (feeBps : ℕ) (recipient : Address) (s : State) :
    Result State := do
  requireAuth env admin
  assertAdmin s admin
  panicIf (feeBps > 1000) "Platform fee cannot exceed 10%"
  let _ ← expect s.platformFee "Platform fee config not found"
  .ok { s with platformFee := some ⟨feeBps, recipient⟩ }

def setRoyalty (env : Env) (agentId : ℕ) (creator recipient : Address) (percentage : ℕ)
    (s : State) : Result State := do
  requireAuth env creator
  panicIf (agentId = 0) "Invalid agent ID"
  panicIf (percentage > maxRoyaltyPercentage) "Royalty exceeds maximum"
  let agent ← loadAgent s agentId
  panicIf (agent.owner ≠ creator) "Only agent owner can set royalty"
  .ok { s with royalty := s.royalty.set agentId ⟨recipient, percentage⟩ }

/-- A part of an amount, in basis points. -/
def partOf (amount : ℤ) (bps : ℕ) (message : String) : Result ℤ := do
  let product ← I128.checked (amount * bps) message
  .ok (product.tdiv 10000)

def sumRoyalties (amount : ℤ) : List RoyaltyRecipient → ℤ → Result ℤ
  | [], total => .ok total
  | recipient :: rest, total => do
    panicIf (recipient.shareBps > maxRoyaltyPercentage) "Invalid recipient share"
    let part ← partOf amount recipient.shareBps "share overflow"
    let total ← I128.checked (total + part) "total overflow"
    sumRoyalties amount rest total

/-- The royalty of the collection comes first, then that of the agent. -/
def royaltyOf (s : State) (assetId : ℕ) (amount : ℤ) : Result ℤ :=
  match s.collectionRoyalty.get? assetId with
  | some config => do
    panicIf (config.totalBps > maxRoyaltyPercentage) "Invalid royalty percentage"
    sumRoyalties amount config.recipients 0
  | none =>
    match s.royalty.get? assetId with
    | some info =>
      if info.fee ≤ maxRoyaltyPercentage then partOf amount info.fee "royalty overflow" else .ok 0
    | none => .ok 0

def computeSettlementFees (s : State) (assetId : ℕ) (amount : ℤ) : Result (ℤ × ℤ) := do
  let royaltyAmount ← royaltyOf s assetId amount
  let config ← expect s.platformFee "Platform fee not configured"
  let platformFee ←
    if config.feeBps > maxRoyaltyPercentage then .ok 0
    else partOf amount config.feeBps "fee overflow"
  .ok (royaltyAmount, platformFee)

/-- The record gets the next number and the time. -/
def recordTransaction (now : ℕ) (record : TransactionRecord) (s : State) : Result State := do
  let txnId ← U64.add (s.transactionCounter.getD 0) 1
  .ok { s with
    transactionCounter := some txnId
    transaction := s.transaction.set txnId { record with txnId, timestamp := now } }

section Entries

variable (self : Address)

def listingTypeOf : ℕ → Result ListingType
  | 0 => .ok .sale
  | 1 => .ok .lease
  | 2 => .ok .auction
  | _ => .error (.panic "Invalid listing type")

/-- The agent is locked, with the marketplace as holder. -/
def locked (now : ℕ) (agent : Agent) : Agent :=
  { agent with escrowLocked := true, escrowHolder := some self, updatedAt := now }

def HeldBy (holder : Address) (agent : Agent) : Prop :=
  agent.escrowLocked = true ∧ agent.escrowHolder = some holder

instance (holder : Address) (agent : Agent) : Decidable (HeldBy holder agent) :=
  inferInstanceAs (Decidable (_ ∧ _))

/-- A new listing of an agent by its owner, under the next number. -/
def withListing (now agentId : ℕ) (seller : Address) (price : ℤ) (listingType : ListingType)
    (listingId expiresAt : ℕ) (agent : Agent) (s : State) : State :=
  { s with
    listingCounter := some listingId
    listing := s.listing.set listingId {
      listingId, seller, price, listingType, expiresAt
      assetId := agentId
      active := true
      createdAt := now }
    agent := s.agent.set agentId (locked self now agent) }

def checkLease (listingType : ℕ) (durationDays : Option ℕ) : Result Unit :=
  if listingType = 1 then do
    let days ← expect durationDays "Duration required for leases"
    panicIf (days = 0 ∨ days > maxDurationDays) "Lease duration out of valid range"
  else .ok ()

def createListing (env : Env) (agentId : ℕ) (seller : Address) (listingType : ℕ) (price : ℤ)
    (durationDays : Option ℕ) (s : State) : Result (ℕ × State) := do
  requireAuth env seller
  panicIf (agentId = 0) "Invalid agent ID"
  panicIf (listingType > 2) "Invalid listing type"
  panicIf (¬ (priceLowerBound ≤ price ∧ price ≤ priceUpperBound)) "Price out of valid range"
  checkLease listingType durationDays
  let agent ← loadAgent s agentId
  panicIf (agent.owner ≠ seller) "Only agent owner can create listings"
  panicIf (agent.escrowLocked = true) "Agent already locked in escrow"
  let listingId ← nextId s.listingCounter "Listing ID overflow"
  let expiresAt ← expiryOf env.timestamp durationDays defaultListingDuration
  let kind ← listingTypeOf listingType
  .ok (listingId,
    withListing self env.timestamp agentId seller price kind listingId expiresAt agent s)

/-- The listings of a batch, one after the other. -/
def listEach (now : ℕ) (seller : Address) (price : ℤ) (kind : ListingType) (expiresAt : ℕ) :
    List ℕ → State → Result State
  | [], s => .ok s
  | agentId :: rest, s => do
    panicIf (agentId = 0) "Invalid agent ID"
    let agent ← loadAgent s agentId
    panicIf (agent.owner ≠ seller) "Only agent owner can create listings"
    panicIf (agent.escrowLocked = true) "Agent already locked in escrow"
    let listingId ← nextId s.listingCounter "Listing ID overflow"
    listEach now seller price kind expiresAt rest
      (withListing self now agentId seller price kind listingId expiresAt agent s)

def batchCreateListings (env : Env) (seller : Address) (listingType : ℕ) (price : ℤ)
    (agentIds : List ℕ) (s : State) : Result State := do
  requireAuth env seller
  panicIf (agentIds.length = 0 ∨ agentIds.length > maxBatchSize) "Batch size out of bounds"
  panicIf (listingType > 2) "Invalid listing type"
  panicIf (¬ (priceLowerBound ≤ price ∧ price ≤ priceUpperBound)) "Price out of valid range"
  let kind ← listingTypeOf listingType
  let expiresAt ← U64.checked (env.timestamp + defaultListingDuration) "Expiry overflow"
  listEach self env.timestamp seller price kind expiresAt agentIds s

/-- The agent after the marketplace gave it up. -/
def released (now nonce : ℕ) (agent : Agent) : Agent :=
  { agent with escrowLocked := false, escrowHolder := none, updatedAt := now, nonce }

/-- Give an agent up if the marketplace holds it. -/
def releaseHeld (now assetId : ℕ) (agent : Agent) (s : State) : Result State :=
  if HeldBy self agent then do
    let nonce ← U64.checked (agent.nonce + 1) "Nonce overflow"
    .ok (saveAgent s assetId (released now nonce agent))
  else .ok s

def cancelListing (env : Env) (listingId : ℕ) (seller : Address) (s : State) : Result State := do
  requireAuth env seller
  panicIf (listingId = 0) "Invalid listing ID"
  let listing ← loadListing s listingId
  panicIf (listing.seller ≠ seller) "Only seller can cancel listing"
  panicIf (listing.active = false) "Listing is not active"
  let agent ← loadAgent s listing.assetId
  panicIf (agent.escrowLocked = true ∧ agent.escrowHolder ≠ some self)
    "Agent locked by a different contract"
  let s ← releaseHeld self env.timestamp listing.assetId agent s
  .ok (saveListing s listingId { listing with active := false })

/-- Listings that are not there, not the seller's or not active are passed over. -/
def cancelEach (now : ℕ) (seller : Address) : List ℕ → State → Result State
  | [], s => .ok s
  | listingId :: rest, s =>
    match s.listing.get? listingId with
    | some listing =>
      if listing.seller = seller ∧ listing.active = true then do
        let released ←
          match s.agent.get? listing.assetId with
          | some agent => releaseHeld self now listing.assetId agent s
          | none => .ok s
        cancelEach now seller rest (saveListing released listingId { listing with active := false })
      else cancelEach now seller rest s
    | none => cancelEach now seller rest s

def batchCancelListings (env : Env) (seller : Address) (listingIds : List ℕ) (s : State) :
    Result State := do
  requireAuth env seller
  panicIf (listingIds.length = 0 ∨ listingIds.length > maxBatchSize) "Batch size out of bounds"
  cancelEach self env.timestamp seller listingIds s

/-- Expired listings are taken down, and their agents released. -/
def cleanupExpiredListings (env : Env) : List ℕ → State → Result State
  | [], s => .ok s
  | listingId :: rest, s =>
    match s.listing.get? listingId with
    | some listing =>
      if listing.active = true ∧ listing.expiresAt < env.timestamp then do
        let agent ← loadAgent s listing.assetId
        let s ← releaseHeld self env.timestamp listing.assetId agent
          (saveListing s listingId { listing with active := false })
        cleanupExpiredListings env rest s
      else cleanupExpiredListings env rest s
    | none => cleanupExpiredListings env rest s

/-- The first step of a sale. Each step is an entry point of its own, that asks nobody for
authorisation. -/
def verifySale (encodedArgs : Bytes) (s : State) : Result State := do
  let listingId ← decodeU64 encodedArgs
  let listing ← loadListing s listingId
  panicIf (listing.active = false) "Listing no longer active"
  panicIf (s.pendingSale.get? listingId = none) "No pending sale for this listing"
  let agent ← loadAgent s listing.assetId
  panicIf (agent.escrowLocked = false) "Agent not in escrow at verify time"
  panicIf (agent.escrowHolder ≠ some self) "Escrow holder mismatch at verify time"
  .ok s

def transferOwnership (env : Env) (encodedArgs : Bytes) (s : State) : Result State := do
  let listingId ← decodeU64 encodedArgs
  let listing ← loadListing s listingId
  let pending ← expect (s.pendingSale.get? listingId) "No pending sale"
  let agent ← loadAgent s listing.assetId
  let nonce ← U64.checked (agent.nonce + 1) "Agent nonce overflow"
  .ok (saveAgent s listing.assetId
    { agent with owner := pending.buyer, nonce, updatedAt := env.timestamp })

def recordSale (env : Env) (encodedArgs : Bytes) (s : State) : Result State := do
  let listingId ← decodeU64 encodedArgs
  let listing ← loadListing s listingId
  let pending ← expect (s.pendingSale.get? listingId) "No pending sale"
  let (royaltyAmount, platformFee) ← computeSettlementFees s listing.assetId pending.amount
  let afterRoyalty ← I128.checked (pending.amount - royaltyAmount) "Seller amount underflow"
  let _ ← I128.checked (afterRoyalty - platformFee) "Platform-fee underflow"
  let agent ← loadAgent s listing.assetId
  let s := saveListing (saveAgent s listing.assetId (released env.timestamp agent.nonce agent))
    listingId { listing with active := false }
  let s ← recordTransaction env.timestamp {
    txnId := 0
    listingId, royaltyAmount, platformFee
    assetId := listing.assetId
    seller := listing.seller
    buyer := pending.buyer
    amount := pending.amount
    timestamp := 0
    txnType := .sale } s
  .ok { s with pendingSale := s.pendingSale.remove listingId }

/-- An agent that went to the buyer goes back to the seller. -/
def returned (now : ℕ) (pending : PendingSale) (agent : Agent) : Result Agent :=
  if agent.owner = pending.buyer then do
    let nonce ← U64.checked (agent.nonce + 1) "Nonce overflow"
    .ok { agent with owner := pending.seller, nonce, updatedAt := now }
  else .ok agent

/-- The lock goes, whoever holds it; the listing stays as it is. -/
def rollbackAgent (now : ℕ) (pending : PendingSale) (assetId : ℕ) (s : State) : Result State :=
  match s.agent.get? assetId with
  | some agent => do
    let agent ← returned now pending agent
    .ok (saveAgent s assetId
      (if agent.escrowLocked = true then released now agent.nonce agent else agent))
  | none => .ok s

def rollback (env : Env) (encodedArgs : Bytes) (s : State) : Result State :=
  if encodedArgs = [] then .ok s
  else do
    let listingId ← decodeU64 encodedArgs
    match s.pendingSale.get? listingId with
    | some pending => do
      let s ←
        match s.listing.get? listingId with
        | some listing => rollbackAgent env.timestamp pending listing.assetId s
        | none => .ok s
      .ok { s with pendingSale := s.pendingSale.remove listingId }
    | none => .ok s

def execStep (env : Env) (stepIndex : ℕ) (encodedArgs : Bytes) (s : State) : Result State :=
  match stepIndex with
  | 0 => verifySale self encodedArgs s
  | 1 => transferOwnership env encodedArgs s
  | 2 => recordSale env encodedArgs s
  | _ => .error (.panic "Unknown step index")

/-- After a failure the listing is active again, whatever it was. -/
def wfDone (workflowId status : ℕ) (s : State) : State :=
  match s.wfListing.get? workflowId with
  | none => s
  | some listingId =>
    if status = 2 then { s with wfListing := s.wfListing.remove workflowId }
    else if 3 ≤ status ∧ status ≤ 5 then
      { s with
        listing :=
          match s.listing.get? listingId with
          | some listing =>
            if listing.active = false then s.listing.set listingId { listing with active := true }
            else s.listing
          | none => s.listing
        pendingSale := s.pendingSale.remove listingId
        wfListing := s.wfListing.remove workflowId }
    else s

end Entries

end Marketplace
