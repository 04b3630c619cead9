import StellAIverse.Marketplace.Contract

/-!
# Auctions

English, Dutch and sealed-bid auctions share one record and one status; each kind has
entry points of its own, and some of them do not look at the kind.
-/

namespace Marketplace

open Soroban

/-- One percent. -/
def minBidIncrementBps : ℕ := 100

def extensionWindowSecs : ℕ := 300

def defaultExtensionSecs : ℕ := 300

def loadAuction (s : State) (auctionId : ℕ) : Result Auction :=
  expect (s.auction.get? auctionId) "Auction not found"

def saveAuction (s : State) (auctionId : ℕ) (auction : Auction) : State :=
  { s with auction := s.auction.set auctionId auction }

section Entries

variable (self : Address)

/-- The agent, if it is its owner's to auction. -/
def loadAuctionable (s : State) (agentId : ℕ) (seller : Address) : Result Agent := do
  let agent ← loadAgent s agentId
  panicIf (agent.owner ≠ seller) "Only owner can create auctions"
  panicIf (agent.escrowLocked = true) "Agent already locked in escrow"
  .ok agent

/-- An auction that opens now, without a bid. -/
def newAuction (now auctionId agentId : ℕ) (seller : Address) (auctionType : AuctionType)
    (startPrice reservePrice : ℤ) (endTime minBidIncrementBps : ℕ)
    (sealedCommitEnd sealedRevealEnd : Option ℕ) : Auction where
  auctionId := auctionId
  agentId := agentId
  seller := seller
  auctionType := auctionType
  startPrice := startPrice
  reservePrice := reservePrice
  currentPrice := startPrice
  highestBidder := none
  highestBid := 0
  startTime := now
  endTime := endTime
  minBidIncrementBps := minBidIncrementBps
  status := .active
  sealedCommitEnd := sealedCommitEnd
  sealedRevealEnd := sealedRevealEnd

/-- The auction is stored under its number, and the agent locked. -/
def withAuction (now : ℕ) (auction : Auction) (agent : Agent) (s : State) : State :=
  { s with
    auctionCounter := some auction.auctionId
    auction := s.auction.set auction.auctionId auction
    agent := s.agent.set auction.agentId (locked self now agent) }

/-- An English auction; its number comes with the new state. -/
def openEnglish (env : Env) (agentId : ℕ) (seller : Address) (startPrice reservePrice : ℤ)
    (durationDays : ℕ) (incrementBps : Option ℕ) (s : State) : Result (ℕ × State) := do
  requireAuth env seller
  panicIf (agentId = 0) "Invalid agent ID"
  panicIf (startPrice ≤ 0 ∨ reservePrice ≤ 0) "Prices must be positive"
  panicIf (reservePrice > startPrice) "Reserve price cannot exceed start price"
  panicIf (durationDays = 0 ∨ durationDays > 365) "Invalid auction duration"
  let agent ← loadAuctionable s agentId seller
  let auctionId ← nextId s.auctionCounter "Auction ID overflow"
  let duration ← U64.mul durationDays secondsPerDay
  let endTime ← U64.add env.timestamp duration
  let minIncrement := incrementBps.getD minBidIncrementBps
  panicIf (minIncrement < 10 ∨ minIncrement > 10000)
    "Invalid bid increment (must be 0.1% to 100%)"
  .ok (auctionId, withAuction self env.timestamp
    (newAuction env.timestamp auctionId agentId seller .english startPrice reservePrice endTime
      minIncrement none none) agent s)

def createAuction (env : Env) (agentId : ℕ) (seller : Address) (startPrice reservePrice : ℤ)
    (durationDays : ℕ) (incrementBps : Option ℕ) (s : State) : Result State := do
  let (_, s) ← openEnglish self env agentId seller startPrice reservePrice durationDays
    incrementBps s
  .ok s

def createAuctionWithExtension (env : Env) (agentId : ℕ) (seller : Address)
    (startPrice reservePrice : ℤ) (durationDays : ℕ)
    (incrementBps windowSecs extensionSecs : Option ℕ) (s : State) : Result State := do
  let (auctionId, s) ← openEnglish self env agentId seller startPrice reservePrice durationDays
    incrementBps s
  let secs := extensionSecs.getD defaultExtensionSecs
  panicIf (secs = 0) "Extension duration must be positive"
  .ok { s with
    extensionConfig :=
      s.extensionConfig.set auctionId (windowSecs.getD extensionWindowSecs, secs) }

def createDutchAuction (env : Env) (agentId : ℕ) (seller : Address) (startPrice reservePrice : ℤ)
    (durationDays : ℕ) (s : State) : Result State := do
  requireAuth env seller
  panicIf (agentId = 0) "Invalid agent ID"
  panicIf (startPrice ≤ 0 ∨ reservePrice < 0 ∨ startPrice < reservePrice)
    "Invalid Dutch auction price bounds"
  panicIf (durationDays = 0 ∨ durationDays > 365) "Invalid auction duration"
  let agent ← loadAuctionable s agentId seller
  let auctionId ← nextId s.auctionCounter "Auction ID overflow"
  let secs ← U64.checked (durationDays * secondsPerDay) "Duration overflow"
  let endTime ← U64.checked (env.timestamp + secs) "end_time overflow"
  .ok (withAuction self env.timestamp
    (newAuction env.timestamp auctionId agentId seller .dutch startPrice reservePrice endTime
      minBidIncrementBps none none) agent s)

def createSealedBidAuction (env : Env) (agentId : ℕ) (seller : Address)
    (startPrice reservePrice : ℤ) (commitDurationSecs revealDurationSecs : ℕ) (s : State) :
    Result State := do
  requireAuth env seller
  panicIf (agentId = 0 ∨ startPrice ≤ 0 ∨ reservePrice ≤ 0) "Invalid sealed-bid auction params"
  panicIf (reservePrice > startPrice) "Reserve cannot exceed start"
  panicIf (commitDurationSecs = 0 ∨ revealDurationSecs ≤ commitDurationSecs)
    "Invalid sealed-bid timeline"
  let agent ← loadAuctionable s agentId seller
  let auctionId ← nextId s.auctionCounter "Auction ID overflow"
  let commitEnd ← U64.checked (env.timestamp + commitDurationSecs) "commit-end overflow"
  let revealEnd ← U64.checked (commitEnd + revealDurationSecs) "reveal-end overflow"
  .ok (withAuction self env.timestamp
    (newAuction env.timestamp auctionId agentId seller .sealed startPrice reservePrice revealEnd
      minBidIncrementBps (some commitEnd) (some revealEnd)) agent s)

/-- The increment is a part of the highest bid, rounded down. -/
def minBid (auction : Auction) : Result ℤ :=
  if auction.highestBid = 0 then .ok auction.startPrice
  else do
    let product ← I128.mul auction.highestBid auction.minBidIncrementBps
    let increment ← I128.div product 10000
    I128.add auction.highestBid increment

/-- What a bid adds to the last one. -/
def incrementOver (bids : List BidRecord) (amount : ℤ) : Result ℤ :=
  match bids.getLast? with
  | some prevBid => I128.sub amount prevBid.amount
  | none => .ok 0

def recordBid (auctionId : ℕ) (bidder : Address) (amount : ℤ) (timestamp : ℕ) (s : State) :
    Result State := do
  let bids := (s.bidRecord.get? auctionId).getD []
  let bidIncrement ← incrementOver bids amount
  .ok { s with
    bidRecord := s.bidRecord.set auctionId
      (bids ++ [⟨bidder, amount, timestamp, bidIncrement, bids.length + 1⟩]) }

/-- The auction with this bid in the lead. -/
def led (bidder : Address) (amount : ℤ) (auction : Auction) : Auction :=
  { auction with highestBidder := some bidder, highestBid := amount, currentPrice := amount }

/-- An open auction that this bid can lead. -/
def loadForBid (env : Env) (auctionId : ℕ) (bidder : Address) (bidAmount : ℤ) (s : State) :
    Result Auction := do
  requireAuth env bidder
  panicIf (auctionId = 0) "Invalid auction ID"
  panicIf (bidAmount ≤ 0) "Bid amount must be positive"
  let auction ← loadAuction s auctionId
  panicIf (auction.status ≠ .active) "Auction is not active"
  panicIf (env.timestamp > auction.endTime) "Auction has ended"
  let least ← minBid auction
  panicIf (bidAmount < least) s!"Bid too low - minimum required: {least}"
  .ok auction

def placeBid (env : Env) (auctionId : ℕ) (bidder : Address) (bidAmount : ℤ) (s : State) :
    Result State := do
  let auction ← loadForBid env auctionId bidder bidAmount s
  let s ← recordBid auctionId bidder bidAmount env.timestamp s
  .ok (saveAuction s auctionId (led bidder bidAmount auction))

/-- A bid near the end moves the end. -/
def extendedEnd (now : ℕ) (config : Option (ℕ × ℕ)) (endTime : ℕ) : Result ℕ :=
  match config with
  | some (window, secs) => if endTime - now ≤ window then U64.add endTime secs else .ok endTime
  | none => .ok endTime

def placeBidWithExtension (env : Env) (auctionId : ℕ) (bidder : Address) (bidAmount : ℤ)
    (s : State) : Result State := do
  let auction ← loadForBid env auctionId bidder bidAmount s
  let endTime ← extendedEnd env.timestamp (s.extensionConfig.get? auctionId) auction.endTime
  let s ← recordBid auctionId bidder bidAmount env.timestamp s
  .ok (saveAuction s auctionId (led bidder bidAmount { auction with endTime }))

/-- Auctions know the royalty of the agent only. -/
def auctionRoyalty (s : State) (agentId : ℕ) (amount : ℤ) : Result ℤ :=
  match s.royalty.get? agentId with
  | some info =>
    if info.fee ≤ maxRoyaltyPercentage then do
      let product ← I128.mul amount info.fee
      I128.div product 10000
    else .ok 0
  | none => .ok 0

def processAuctionSale (env : Env) (auction : Auction) (buyer : Address) (s : State) :
    Result State := do
  let agent ← loadAgent s auction.agentId
  let nonce ← U64.checked (agent.nonce + 1) "Nonce overflow"
  let s := saveAgent s auction.agentId { released env.timestamp nonce agent with owner := buyer }
  let config ← expect s.platformFee "Platform fee not configured"
  let royaltyAmount ← auctionRoyalty s auction.agentId auction.highestBid
  let product ← I128.mul auction.highestBid config.feeBps
  let platformFee ← I128.div product 10000
  let afterRoyalty ← I128.sub auction.highestBid royaltyAmount
  let _ ← I128.sub afterRoyalty platformFee
  recordTransaction env.timestamp {
    txnId := 0
    listingId := 0
    assetId := auction.agentId
    seller := auction.seller
    buyer
    amount := auction.highestBid
    royaltyAmount, platformFee
    timestamp := 0
    txnType := .auctionWon } s

def cancelAuctionAssetReturn (env : Env) (auction : Auction) (s : State) : Result State := do
  let agent ← loadAgent s auction.agentId
  if agent.escrowLocked = true then do
    panicIf (agent.escrowHolder ≠ some self) "Agent locked by different contract"
    .ok (saveAgent s auction.agentId (released env.timestamp agent.nonce agent))
  else .ok s

/-- Without a bidder nobody gets the agent, and it stays locked. -/
def sellToLeader (env : Env) (auction : Auction) (s : State) : Result State :=
  match auction.highestBidder with
  | some buyer => processAuctionSale env auction buyer s
  | none => .ok s

def finalizeAuction (env : Env) (auctionId : ℕ) (s : State) : Result State := do
  panicIf (auctionId = 0) "Invalid auction ID"
  let auction ← loadAuction s auctionId
  panicIf (auction.status ≠ .active) "Auction already processed"
  panicIf (env.timestamp ≤ auction.endTime) "Auction has not ended yet"
  if auction.highestBid ≥ auction.reservePrice then do
    let auction := { auction with status := .won }
    let s ← sellToLeader env auction s
    .ok (saveAuction s auctionId auction)
  else do
    let auction := { auction with status := .ended }
    let s ← cancelAuctionAssetReturn self env auction s
    .ok (saveAuction s auctionId auction)

/-- The price falls from the start price to the reserve over the time of the auction. -/
def dutchCurrentPrice (now : ℕ) (auction : Auction) : ℤ :=
  if auction.endTime - auction.startTime = 0 then auction.reservePrice
  else if now ≤ auction.startTime then auction.startPrice
  else if auction.endTime ≤ now then auction.reservePrice
  else
    let drop := I128.saturatingSub auction.startPrice auction.reservePrice
    let elapsed : ℕ := now - auction.startTime
    let window : ℕ := auction.endTime - auction.startTime
    I128.saturatingSub auction.startPrice ((I128.saturatingMul drop elapsed).tdiv window)

def dutchBuyNow (env : Env) (auctionId : ℕ) (buyer : Address) (bidAmount : ℤ) (s : State) :
    Result State := do
  requireAuth env buyer
  panicIf (auctionId = 0) "Invalid auction ID"
  panicIf (bidAmount ≤ 0) "Bid amount must be positive"
  let auction ← loadAuction s auctionId
  panicIf (auction.auctionType ≠ .dutch) "Auction is not Dutch"
  panicIf (auction.status ≠ .active) "Dutch auction is not active"
  panicIf (env.timestamp > auction.endTime) "Dutch auction has ended"
  panicIf (env.timestamp < auction.startTime) "Dutch auction has not started"
  panicIf (bidAmount < dutchCurrentPrice env.timestamp auction) "Bid below current Dutch price"
  panicIf (bidAmount < auction.reservePrice) "Bid below reserve price"
  let auction := { led buyer bidAmount auction with status := .won }
  processAuctionSale env auction buyer (saveAuction s auctionId auction)

def loadSealed (s : State) (auctionId : ℕ) : Result Auction := do
  let auction ← loadAuction s auctionId
  panicIf (auction.auctionType ≠ .sealed) "Auction is not sealed"
  .ok auction

def commitBid (env : Env) (auctionId : ℕ) (bidder : Address) (commitment : Bytes) (deposit : ℤ)
    (s : State) : Result State := do
  requireAuth env bidder
  panicIf (auctionId = 0) "Invalid auction ID"
  panicIf (deposit ≤ 0) "Deposit must be positive"
  let auction ← loadSealed s auctionId
  let commitEnd ← expect auction.sealedCommitEnd "missing commit end"
  panicIf (env.timestamp > commitEnd) "Commit phase has ended"
  .ok { s with
    sealedCommit :=
      s.sealedCommit.set (auctionId, bidder) ⟨bidder, commitment, deposit, env.timestamp⟩ }

/-- The commitment has to be there; it is not opened. -/
def revealBid (env : Env) (auctionId : ℕ) (bidder : Address) (amount : ℤ) (nonce : String)
    (s : State) : Result State := do
  requireAuth env bidder
  panicIf (auctionId = 0) "Invalid auction ID"
  panicIf (amount ≤ 0) "Reveal amount must be positive"
  let auction ← loadSealed s auctionId
  let commitEnd ← expect auction.sealedCommitEnd "missing commit end"
  let revealEnd ← expect auction.sealedRevealEnd "missing reveal end"
  panicIf (env.timestamp ≤ commitEnd) "Reveal phase has not started"
  panicIf (env.timestamp > revealEnd) "Reveal phase has ended"
  let commit ← expect (s.sealedCommit.get? (auctionId, bidder)) "No commit found for this bidder"
  .ok { s with
    sealedReveal := s.sealedReveal.set (auctionId, bidder)
      ⟨bidder, amount, nonce, commit.deposit, env.timestamp⟩
    auction :=
      if amount > auction.highestBid then s.auction.set auctionId (led bidder amount auction)
      else s.auction }

def finalizeSealedAuction (env : Env) (auctionId : ℕ) (s : State) : Result State := do
  panicIf (auctionId = 0) "Invalid auction ID"
  let auction ← loadSealed s auctionId
  let revealEnd ← expect auction.sealedRevealEnd "missing reveal end"
  panicIf (env.timestamp ≤ revealEnd) "Reveal phase has not ended"
  panicIf (auction.status ≠ .active) "Auction already processed"
  if auction.highestBidder.isSome = true ∧ auction.highestBid ≥ auction.reservePrice then do
    let auction := { auction with status := .won }
    let winner ← expect auction.highestBidder "winner present"
    let s ← processAuctionSale env auction winner s
    .ok (saveAuction s auctionId auction)
  else do
    let auction := { auction with status := .ended }
    let s ← cancelAuctionAssetReturn self env auction s
    .ok (saveAuction s auctionId auction)

end Entries

end Marketplace
