import StellAIverse.Marketplace.Auctions
import StellAIverse.Marketplace.Collections

/-!
# The marketplace and the hub together

A purchase calls the hub, and the hub calls the first step of the sale back in the same
invocation. The host lets no contract be called while it is being called, so that call
traps. Everything else the hub does is started on the hub itself: it leaves its new
storage, and has made some calls, in order. Those on the marketplace run here, those on
other contracts change nothing. There is one hub, at a fixed address.
-/

namespace Marketplace

open Soroban

/-- What the hub calls on the marketplace, and what anybody else can call too. -/
inductive Call where
  | execStep (stepIndex : ℕ) (encodedArgs : Bytes)
  | rollback (encodedArgs : Bytes)
  | wfDone (workflowId status : ℕ)
  deriving DecidableEq, Repr

/-- A call of the hub: the contract it is made on, and what is called. -/
def madeOn : ExecutionHub.Call → Address × Call
  | .execStep _ _ target stepIndex encodedArgs => (target, .execStep stepIndex encodedArgs)
  | .rollback _ _ target encodedArgs => (target, .rollback encodedArgs)
  | .wfDone target workflowId status => (target, .wfDone workflowId status)

def defaultOfferSecs : ℕ := 604800

def defaultCounterOfferDays : ℕ := 5

section Entries

variable (self hub : Address)

def runCall (env : Env) (s : State) : Call → Result State
  | .execStep stepIndex encodedArgs => execStep self env stepIndex encodedArgs s
  | .rollback encodedArgs => rollback env encodedArgs s
  | .wfDone workflowId status => .ok (wfDone workflowId status s)

def runCalls (env : Env) : List Call → State → Result State
  | [], s => .ok s
  | call :: rest, s => do
    let s ← runCall self env s call
    runCalls env rest s

/-- The calls of the hub that are made on the marketplace. -/
def callsOn (calls : List ExecutionHub.Call) : List Call :=
  calls.filterMap fun call => if (madeOn call).1 = self then some (madeOn call).2 else none

/-- A step of a sale: it is called back on the marketplace, with the number of the listing. -/
def saleStep (listingId stepIndex : ℕ) (name : String) (maxRetries : ℕ) :
    ExecutionHub.WorkflowStep where
  stepIndex := stepIndex
  name := name
  targetContract := self
  functionName := name
  encodedArgs := encodeU64 listingId
  required := true
  maxRetries := maxRetries
  retryCount := 0
  status := .pending
  result := none
  error := none
  updatedAt := 0

def buildSaleSteps (listingId : ℕ) : List ExecutionHub.WorkflowStep := [
  saleStep self listingId 0 "verify_sale" 0,
  saleStep self listingId 1 "transfer_ownership" 1,
  saleStep self listingId 2 "record_sale" 0]

/-- The host during a call of the marketplace: the marketplace authorises what it calls, and no
call on it completes. -/
def hostInCall (env : Env) : ExecutionHub.Host where
  timestamp := env.timestamp
  authorized a := decide (a = self)
  completes call := decide ((madeOn call).1 ≠ self)

/-- A listing has one pending sale: a later buyer takes the place of an earlier one. -/
def buyAgent (env : Env) (listingId : ℕ) (buyer : Address) (amount : ℤ) (s : State) :
    Result State := do
  requireAuth env buyer
  panicIf (listingId = 0) "Invalid listing ID"
  let listing ← loadListing s listingId
  panicIf (listing.active = false) "Listing is not active"
  panicIf (amount < listing.price) "Insufficient payment"
  panicIf (amount > priceUpperBound) "Payment exceeds safe maximum"
  let agent ← loadAgent s listing.assetId
  panicIf (agent.escrowLocked = false) "Agent not in escrow"
  panicIf (agent.escrowHolder ≠ some self) "Agent locked by a different contract"
  let called ← expect s.executionHub "Execution hub not set"
  failIf (called ≠ hub) .callFailed
  let (workflowId, created) ← ExecutionHub.createWorkflow (hostInCall self env) self {
    name := "agent_sale"
    steps := buildSaleSteps self listingId
    deadlineOffsetSeconds := none
    contextTag := some "agent_sale"
    callbackContract := some self } s.hub
  let (_, started) ← ExecutionHub.executeWorkflowStep (hostInCall self env) workflowId created
  .ok { s with
    pendingSale := s.pendingSale.set listingId {
      listingId, buyer, amount, workflowId
      seller := listing.seller
      agentId := listing.assetId
      createdAt := env.timestamp }
    wfListing := s.wfListing.set workflowId listingId
    hub := started }

def loadOffer (s : State) (offerId : ℕ) : Result Offer :=
  expect (s.offer.get? offerId) "Offer not found"

def saveOffer (s : State) (offerId : ℕ) (offer : Offer) : State :=
  { s with offer := s.offer.set offerId offer }

def makeOffer (env : Env) (listingId : ℕ) (offerer : Address) (amount : ℤ)
    (durationDays : Option ℕ) (s : State) : Result State := do
  requireAuth env offerer
  panicIf (listingId = 0) "Invalid listing ID"
  panicIf (amount ≤ 0 ∨ amount > priceUpperBound) "Invalid offer amount"
  let listing ← loadListing s listingId
  panicIf (listing.active = false) "Listing is not active"
  panicIf (listing.expiresAt < env.timestamp) "Listing has expired"
  let offerId ← nextId s.offerCounter "Offer ID overflow"
  let expiresAt ← expiryOf env.timestamp durationDays defaultOfferSecs
  .ok { s with
    offerCounter := some offerId
    offer := s.offer.set offerId
      ⟨offerId, listingId, offerer, amount, true, env.timestamp, expiresAt⟩ }

def acceptOffer (env : Env) (offerId : ℕ) (seller : Address) (s : State) : Result State := do
  requireAuth env seller
  panicIf (offerId = 0) "Invalid offer ID"
  let offer ← loadOffer s offerId
  panicIf (offer.active = false) "Offer is not active"
  panicIf (offer.expiresAt < env.timestamp) "Offer has expired"
  let listing ← loadListing s offer.listingId
  panicIf (listing.seller ≠ seller) "Only listing seller can accept offers"
  panicIf (listing.active = false) "Listing is no longer active"
  buyAgent self hub env offer.listingId offer.offerer offer.amount
    (saveOffer s offerId { offer with active := false })

def rejectOffer (env : Env) (offerId : ℕ) (caller : Address) (s : State) : Result State := do
  requireAuth env caller
  let offer ← loadOffer s offerId
  let listing ← loadListing s offer.listingId
  panicIf (listing.seller ≠ caller ∧ offer.offerer ≠ caller)
    "Only involved parties can reject offers"
  .ok (if offer.active = true then saveOffer s offerId { offer with active := false } else s)

def loadCounterOffer (s : State) (counterId : ℕ) : Result CounterOffer :=
  expect (s.counterOffer.get? counterId) "Counter offer not found"

def saveCounterOffer (s : State) (counterId : ℕ) (counter : CounterOffer) : State :=
  { s with counterOffer := s.counterOffer.set counterId counter }

def makeCounterOffer (env : Env) (seller : Address) (offerId : ℕ) (amount : ℤ)
    (durationDays : Option ℕ) (s : State) : Result State := do
  requireAuth env seller
  panicIf (offerId = 0) "Invalid offer ID"
  panicIf (amount ≤ 0 ∨ amount > priceUpperBound) "Invalid counter-offer amount"
  let offer ← loadOffer s offerId
  panicIf (offer.active = false) "Original offer is not active"
  let listing ← loadListing s offer.listingId
  panicIf (listing.seller ≠ seller) "Only listing seller can counter-offer"
  panicIf (listing.active = false) "Listing is not active"
  let counterId ← nextId s.counterOfferCounter "Counter-offer ID overflow"
  let secs ← U64.checked (durationDays.getD defaultCounterOfferDays * secondsPerDay)
    "Duration overflow"
  let expiresAt ← U64.checked (env.timestamp + secs) "Expiry overflow"
  .ok { s with
    counterOfferCounter := some counterId
    counterOffer := s.counterOffer.set counterId
      ⟨counterId, offer.listingId, offerId, seller, amount, true, env.timestamp, expiresAt⟩ }

def acceptCounterOffer (env : Env) (offerer : Address) (counterId : ℕ) (s : State) :
    Result State := do
  requireAuth env offerer
  panicIf (counterId = 0) "Invalid counter ID"
  let counter ← loadCounterOffer s counterId
  panicIf (counter.active = false) "Counter offer is not active"
  panicIf (counter.expiresAt < env.timestamp) "Counter offer has expired"
  let original ← loadOffer s counter.inResponseToOfferId
  panicIf (original.offerer ≠ offerer) "Only original offerer can accept counter"
  buyAgent self hub env counter.listingId offerer counter.amount
    (saveOffer (saveCounterOffer s counterId { counter with active := false })
      counter.inResponseToOfferId { original with active := false })

def rejectCounterOffer (env : Env) (caller : Address) (counterId : ℕ) (s : State) :
    Result State := do
  requireAuth env caller
  let counter ← loadCounterOffer s counterId
  let original ← loadOffer s counter.inResponseToOfferId
  panicIf (counter.bySeller ≠ caller ∧ original.offerer ≠ caller)
    "Only involved parties can reject counter"
  .ok (if counter.active = true then saveCounterOffer s counterId { counter with active := false }
    else s)

def createNftListing (env : Env) (nftTokenRef : NftTokenRef) (seller : Address) (price : ℤ)
    (currencySymbol : String) (currencyTokenAddress : Option Address) (durationDays : Option ℕ)
    (metadataUri : String) (s : State) : Result State := do
  requireAuth env seller
  panicIf (price ≤ 0 ∨ price > priceUpperBound) "Price out of valid range"
  panicIf (currencySymbol = "") "Currency symbol required"
  let nftListingId ← nextId s.nftListingCounter "NFT listing ID overflow"
  let expiresAt ← expiryOf env.timestamp durationDays defaultListingDuration
  .ok { s with
    nftListingCounter := some nftListingId
    nftListing := s.nftListing.set nftListingId {
      nftListingId, nftTokenRef, seller, price, currencySymbol, currencyTokenAddress, expiresAt
      metadataUri
      active := true
      createdAt := env.timestamp } }

def loadNftListing (s : State) (nftListingId : ℕ) : Result NftListing :=
  expect (s.nftListing.get? nftListingId) "NFT listing not found"

def buyNftListing (env : Env) (nftListingId : ℕ) (buyer : Address) (paymentAmount : ℤ)
    (s : State) : Result State := do
  requireAuth env buyer
  panicIf (nftListingId = 0) "Invalid NFT listing ID"
  panicIf (paymentAmount ≤ 0) "Payment must be positive"
  let listing ← loadNftListing s nftListingId
  panicIf (listing.active = false) "NFT listing is not active"
  panicIf (listing.expiresAt < env.timestamp) "NFT listing has expired"
  panicIf (paymentAmount < listing.price) "Insufficient payment"
  let (royaltyAmount, platformFee) ←
    computeSettlementFees s listing.nftTokenRef.tokenId paymentAmount
  let afterRoyalty ← I128.checked (paymentAmount - royaltyAmount) "Seller amount underflow"
  let _ ← I128.checked (afterRoyalty - platformFee) "Platform fee underflow"
  recordTransaction env.timestamp {
    txnId := 0
    listingId := nftListingId
    assetId := listing.nftTokenRef.tokenId
    seller := listing.seller
    buyer
    amount := paymentAmount
    royaltyAmount, platformFee
    timestamp := 0
    txnType := .nftSale }
    { s with nftListing := s.nftListing.set nftListingId { listing with active := false } }

def cancelNftListing (env : Env) (nftListingId : ℕ) (seller : Address) (s : State) :
    Result State := do
  requireAuth env seller
  panicIf (nftListingId = 0) "Invalid NFT listing ID"
  let listing ← loadNftListing s nftListingId
  panicIf (listing.seller ≠ seller) "Only seller can cancel NFT listing"
  panicIf (listing.active = false) "NFT listing is not active"
  .ok { s with nftListing := s.nftListing.set nftListingId { listing with active := false } }

end Entries

inductive Op where
  | initContract (admin : Address)
  | setExecutionHub (admin hub : Address)
  | setPlatformFee (admin : Address) (feeBps : ℕ) (recipient : Address)
  | setRoyalty (agentId : ℕ) (creator recipient : Address) (percentage : ℕ)
  | createListing (agentId : ℕ) (seller : Address) (listingType : ℕ) (price : ℤ)
    (durationDays : Option ℕ)
  | batchCreateListings (seller : Address) (listingType : ℕ) (price : ℤ) (agentIds : List ℕ)
  | cancelListing (listingId : ℕ) (seller : Address)
  | batchCancelListings (seller : Address) (listingIds : List ℕ)
  | cleanupExpiredListings (listingIds : List ℕ)
  | buyAgent (listingId : ℕ) (buyer : Address) (amount : ℤ)
  | verifySale (encodedArgs : Bytes)
  | transferOwnership (encodedArgs : Bytes)
  | recordSale (encodedArgs : Bytes)
  | callback (call : Call)
  | makeOffer (listingId : ℕ) (offerer : Address) (amount : ℤ) (durationDays : Option ℕ)
  | acceptOffer (offerId : ℕ) (seller : Address)
  | rejectOffer (offerId : ℕ) (caller : Address)
  | makeCounterOffer (seller : Address) (offerId : ℕ) (amount : ℤ) (durationDays : Option ℕ)
  | acceptCounterOffer (offerer : Address) (counterId : ℕ)
  | rejectCounterOffer (caller : Address) (counterId : ℕ)
  | createAuction (agentId : ℕ) (seller : Address) (startPrice reservePrice : ℤ)
    (durationDays : ℕ) (incrementBps : Option ℕ)
  | createAuctionWithExtension (agentId : ℕ) (seller : Address) (startPrice reservePrice : ℤ)
    (durationDays : ℕ) (incrementBps windowSecs extensionSecs : Option ℕ)
  | placeBid (auctionId : ℕ) (bidder : Address) (bidAmount : ℤ)
  | placeBidWithExtension (auctionId : ℕ) (bidder : Address) (bidAmount : ℤ)
  | finalizeAuction (auctionId : ℕ)
  | createDutchAuction (agentId : ℕ) (seller : Address) (startPrice reservePrice : ℤ)
    (durationDays : ℕ)
  | dutchBuyNow (auctionId : ℕ) (buyer : Address) (bidAmount : ℤ)
  | createSealedBidAuction (agentId : ℕ) (seller : Address) (startPrice reservePrice : ℤ)
    (commitDurationSecs revealDurationSecs : ℕ)
  | commitBid (auctionId : ℕ) (bidder : Address) (commitment : Bytes) (deposit : ℤ)
  | revealBid (auctionId : ℕ) (bidder : Address) (amount : ℤ) (nonce : String)
  | finalizeSealedAuction (auctionId : ℕ)
  | createCollection (creator : Address) (name : String) (royaltyBps : ℕ)
  | addToCollection (creator : Address) (collectionId : ℕ) (agentIds : List ℕ)
  | removeFromCollection (creator : Address) (collectionId : ℕ) (agentIds : List ℕ)
  | setCollectionRoyalty (creator : Address) (collectionId : ℕ)
    (recipients : List RoyaltyRecipient) (totalBps : ℕ)
  | createNftListing (nftTokenRef : NftTokenRef) (seller : Address) (price : ℤ)
    (currencySymbol : String) (currencyTokenAddress : Option Address) (durationDays : Option ℕ)
    (metadataUri : String)
  | buyNftListing (nftListingId : ℕ) (buyer : Address) (paymentAmount : ℤ)
  | cancelNftListing (nftListingId : ℕ) (seller : Address)

def invoke (self hub : Address) (env : Env) : Op → State → Result State
  | .initContract admin => initContract env admin
  | .setExecutionHub admin hub => setExecutionHub env admin hub
  | .setPlatformFee admin feeBps recipient => setPlatformFee env admin feeBps recipient
  | .setRoyalty agentId creator recipient percentage =>
    setRoyalty env agentId creator recipient percentage
  | .createListing agentId seller listingType price durationDays => fun s => do
    let (_, s) ← createListing self env agentId seller listingType price durationDays s
    .ok s
  | .batchCreateListings seller listingType price agentIds =>
    batchCreateListings self env seller listingType price agentIds
  | .cancelListing listingId seller => cancelListing self env listingId seller
  | .batchCancelListings seller listingIds => batchCancelListings self env seller listingIds
  | .cleanupExpiredListings listingIds => cleanupExpiredListings self env listingIds
  | .buyAgent listingId buyer amount => buyAgent self hub env listingId buyer amount
  | .verifySale encodedArgs => verifySale self encodedArgs
  | .transferOwnership encodedArgs => transferOwnership env encodedArgs
  | .recordSale encodedArgs => recordSale env encodedArgs
  | .callback call => fun s => runCall self env s call
  | .makeOffer listingId offerer amount durationDays =>
    makeOffer env listingId offerer amount durationDays
  | .acceptOffer offerId seller => acceptOffer self hub env offerId seller
  | .rejectOffer offerId caller => rejectOffer env offerId caller
  | .makeCounterOffer seller offerId amount durationDays =>
    makeCounterOffer env seller offerId amount durationDays
  | .acceptCounterOffer offerer counterId => acceptCounterOffer self hub env offerer counterId
  | .rejectCounterOffer caller counterId => rejectCounterOffer env caller counterId
  | .createAuction agentId seller startPrice reservePrice durationDays incrementBps =>
    createAuction self env agentId seller startPrice reservePrice durationDays incrementBps
  | .createAuctionWithExtension agentId seller startPrice reservePrice durationDays incrementBps
      windowSecs extensionSecs =>
    createAuctionWithExtension self env agentId seller startPrice reservePrice durationDays
      incrementBps windowSecs extensionSecs
  | .placeBid auctionId bidder bidAmount => placeBid env auctionId bidder bidAmount
  | .placeBidWithExtension auctionId bidder bidAmount =>
    placeBidWithExtension env auctionId bidder bidAmount
  | .finalizeAuction auctionId => finalizeAuction self env auctionId
  | .createDutchAuction agentId seller startPrice reservePrice durationDays =>
    createDutchAuction self env agentId seller startPrice reservePrice durationDays
  | .dutchBuyNow auctionId buyer bidAmount => dutchBuyNow env auctionId buyer bidAmount
  | .createSealedBidAuction agentId seller startPrice reservePrice commitDurationSecs
      revealDurationSecs =>
    createSealedBidAuction self env agentId seller startPrice reservePrice commitDurationSecs
      revealDurationSecs
  | .commitBid auctionId bidder commitment deposit =>
    commitBid env auctionId bidder commitment deposit
  | .revealBid auctionId bidder amount nonce => revealBid env auctionId bidder amount nonce
  | .finalizeSealedAuction auctionId => finalizeSealedAuction self env auctionId
  | .createCollection creator name royaltyBps => createCollection env creator name royaltyBps
  | .addToCollection creator collectionId agentIds =>
    addToCollection env creator collectionId agentIds
  | .removeFromCollection creator collectionId agentIds =>
    removeFromCollection env creator collectionId agentIds
  | .setCollectionRoyalty creator collectionId recipients totalBps =>
    setCollectionRoyalty env creator collectionId recipients totalBps
  | .createNftListing nftTokenRef seller price currencySymbol currencyTokenAddress durationDays
      metadataUri =>
    createNftListing env nftTokenRef seller price currencySymbol currencyTokenAddress durationDays
      metadataUri
  | .buyNftListing nftListingId buyer paymentAmount =>
    buyNftListing env nftListingId buyer paymentAmount
  | .cancelNftListing nftListingId seller => cancelNftListing env nftListingId seller

/-- An invocation of the marketplace or of the hub. -/
inductive Action where
  | call (env : Env) (op : Op)
  | hub (env : ExecutionHub.Host) (op : ExecutionHub.Op)

def Action.time : Action → Option ℕ
  | .call env _ => some env.timestamp
  | .hub env _ => some env.timestamp

/-- The calls of an earlier invocation of the hub are made by then. -/
def next (self hub : Address) : Action → State → Result State
  | .call env op, s => invoke self hub env op s
  | .hub env op, s => do
    let after ← ExecutionHub.next ⟨env, op⟩ { s.hub with calls := [] }
    runCalls self env.toEnv (callsOn self after.calls) { s with hub := after }

end Marketplace
