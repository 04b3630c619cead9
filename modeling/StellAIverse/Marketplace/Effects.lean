import StellAIverse.ExecutionHub.Effects
import StellAIverse.Marketplace.System

/-!
# What each call does

Listings and auctions are opened on agents and settled, sales go through their steps,
bids come in, collections hand out their royalties. The steps of a sale are the same
calls whether the hub makes them or anybody else.
-/

namespace Marketplace

open Soroban

/-- The entry points that are a step of a sale or a callback. -/
def Op.call? : Op → Option Call
  | .verifySale encodedArgs => some (.execStep 0 encodedArgs)
  | .transferOwnership encodedArgs => some (.execStep 1 encodedArgs)
  | .recordSale encodedArgs => some (.execStep 2 encodedArgs)
  | .callback call => some call
  | _ => none

/-- The listing, the buyer and the amount of a purchase. -/
def Op.purchase? (s : State) : Op → Option (ℕ × Address × ℤ)
  | .buyAgent listingId buyer amount => some (listingId, buyer, amount)
  | .acceptOffer offerId _ =>
    (s.offer.get? offerId).map fun offer => (offer.listingId, offer.offerer, offer.amount)
  | .acceptCounterOffer offerer counterId =>
    (s.counterOffer.get? counterId).map fun counter =>
      (counter.listingId, offerer, counter.amount)
  | _ => none

/-- The auction, the bidder and the amount of an ascending bid. -/
def Op.raises? : Op → Option (ℕ × Address × ℤ)
  | .placeBid auctionId bidder bidAmount | .placeBidWithExtension auctionId bidder bidAmount =>
    some (auctionId, bidder, bidAmount)
  | _ => none

/-- The auction, the kind and the amount of a bid. -/
def Op.bid? : Op → Option (ℕ × AuctionType × ℤ)
  | .placeBid auctionId _ bidAmount | .placeBidWithExtension auctionId _ bidAmount =>
    some (auctionId, .english, bidAmount)
  | .dutchBuyNow auctionId _ bidAmount => some (auctionId, .dutch, bidAmount)
  | .revealBid auctionId _ amount _ => some (auctionId, .sealed, amount)
  | _ => none

/-- The auction that a call finalizes. -/
def Op.finalizes? : Op → Option ℕ
  | .finalizeAuction auctionId | .finalizeSealedAuction auctionId => some auctionId
  | _ => none

section Relations

variable (self : Address) (now : ℕ)

/-- A free agent is listed by its owner. -/
inductive Listed : State → State → Prop
  | mk (s : State) (agentId : ℕ) (seller : Address) (price : ℤ) (kind : ListingType)
      (expiresAt : ℕ) (agent : Agent) (found : s.agent.get? agentId = some agent)
      (owned : agent.owner = seller) (free : agent.escrowLocked = false)
      (small : s.listingCounter.getD 0 + 1 < 2 ^ 64) :
      Listed s (withListing self now agentId seller price kind (s.listingCounter.getD 0 + 1)
        expiresAt agent s)

/-- A listing is taken down, with its agent released if the marketplace holds it. -/
inductive TakenDown : State → State → Prop
  | released (s : State) (listingId : ℕ) (listing : Listing) (agent : Agent)
      (found : s.listing.get? listingId = some listing) (active : listing.active = true)
      (there : s.agent.get? listing.assetId = some agent) (held : HeldBy self agent) :
      TakenDown s { s with
        agent := s.agent.set listing.assetId (released now (agent.nonce + 1) agent)
        listing := s.listing.set listingId { listing with active := false } }
  | unheld (s : State) (listingId : ℕ) (listing : Listing)
      (found : s.listing.get? listingId = some listing) (active : listing.active = true)
      (free : ∀ agent, s.agent.get? listing.assetId = some agent → ¬ HeldBy self agent) :
      TakenDown s { s with listing := s.listing.set listingId { listing with active := false } }

end Relations

/-- A step of a sale or a rollback needs a pending sale to change anything, and a callback the
workflow of one. -/
inductive CallEffect (s : State) : State → Prop
  | kept : CallEffect s s
  | stepped (listingId : ℕ) (pending : PendingSale)
      (bought : s.pendingSale.get? listingId = some pending) (agent : Store ℕ Agent)
      (listing : Store ℕ Listing) (transactionCounter : Option ℕ)
      (transaction : Store ℕ TransactionRecord) (pendingSale : Store ℕ PendingSale) :
      CallEffect s { s with agent, listing, transactionCounter, transaction, pendingSale }
  | done (workflowId listingId : ℕ) (named : s.wfListing.get? workflowId = some listingId)
      (listing : Store ℕ Listing) (pendingSale : Store ℕ PendingSale) (wfListing : Store ℕ ℕ) :
      CallEffect s { s with listing, pendingSale, wfListing }

/-- What holds of an auction when it is opened. -/
structure Opens (s : State) (now : ℕ) (auction : Auction) (agent : Agent) : Prop where
  numbered : auction.auctionId = s.auctionCounter.getD 0 + 1
  active : auction.status = .active
  unbid : auction.highestBid = 0 ∧ auction.highestBidder = none
  priced : 0 < auction.startPrice
  reserved : auction.auctionType ≠ .dutch → 0 < auction.reservePrice
  phases : auction.auctionType = .sealed → auction.sealedRevealEnd = some auction.endTime ∧
    ∃ commitEnd, auction.sealedCommitEnd = some commitEnd ∧ commitEnd ≤ auction.endTime
  there : s.agent.get? auction.agentId = some agent
  owned : agent.owner = auction.seller
  free : agent.escrowLocked = false

/-- A bid takes the lead, except for a revealed one that is not higher. -/
inductive Bid (env : Env) (s : State) : Op → State → Prop
  | raised (op : Op) (auctionId : ℕ) (bidder : Address) (amount least : ℤ) (auction : Auction)
      (endTime : ℕ) (bids : List BidRecord) (is : op.raises? = some (auctionId, bidder, amount))
      (positive : 0 < amount) (found : s.auction.get? auctionId = some auction)
      (active : auction.status = .active) (enough : minBid auction = .ok least) (above : least ≤ amount)
      (later : auction.endTime ≤ endTime) :
      Bid env s op { s with
        bidRecord := s.bidRecord.set auctionId bids
        auction := s.auction.set auctionId (led bidder amount { auction with endTime }) }
  | boughtNow (auctionId : ℕ) (buyer : Address) (amount : ℤ) (auction : Auction) (agent : Agent)
      (record : TransactionRecord) (positive : 0 < amount)
      (found : s.auction.get? auctionId = some auction) (dutch : auction.auctionType = .dutch)
      (active : auction.status = .active) (met : auction.reservePrice ≤ amount)
      (there : s.agent.get? auction.agentId = some agent) (kind : record.txnType = .auctionWon)
      (small : s.transactionCounter.getD 0 + 1 < 2 ^ 64) :
      Bid env s (.dutchBuyNow auctionId buyer amount) { s with
        agent := s.agent.set auction.agentId
          { released env.timestamp (agent.nonce + 1) agent with owner := buyer }
        auction := s.auction.set auctionId { led buyer amount auction with status := .won }
        transactionCounter := some (s.transactionCounter.getD 0 + 1)
        transaction := s.transaction.set (s.transactionCounter.getD 0 + 1) record }
  | revealed (auctionId : ℕ) (bidder : Address) (amount : ℤ) (nonce : String) (auction : Auction)
      (commitEnd revealEnd : ℕ) (commit : SealedCommit) (positive : 0 < amount)
      (found : s.auction.get? auctionId = some auction) (kind : auction.auctionType = .sealed)
      (phases : auction.sealedCommitEnd = some commitEnd ∧
        auction.sealedRevealEnd = some revealEnd)
      (between : commitEnd < env.timestamp ∧ env.timestamp ≤ revealEnd)
      (committed : s.sealedCommit.get? (auctionId, bidder) = some commit) :
      Bid env s (.revealBid auctionId bidder amount nonce) { s with
        sealedReveal := s.sealedReveal.set (auctionId, bidder)
          ⟨bidder, amount, nonce, commit.deposit, env.timestamp⟩
        auction :=
          if amount > auction.highestBid then s.auction.set auctionId (led bidder amount auction)
          else s.auction }

inductive Effect (self hub : Address) (env : Env) (s : State) : Op → State → Prop
  | administered (op : Op) (admin executionHub : Option Address)
      (platformFee : Option PlatformFeeConfig) (royalty : Store ℕ RoyaltyInfo)
      (offerCounter : Option ℕ) (offer : Store ℕ Offer) (counterOfferCounter : Option ℕ)
      (counterOffer : Store ℕ CounterOffer) (nftListingCounter : Option ℕ)
      (nftListing : Store ℕ NftListing) :
      Effect self hub env s op { s with
        admin, executionHub, platformFee, royalty, offerCounter, offer, counterOfferCounter
        counterOffer, nftListingCounter, nftListing }
  | initialized (admin : Address) :
      Effect self hub env s (.initContract admin) { s with
        admin := some admin
        listingCounter := some 0
        auctionCounter := some 0
        collectionCounter := some 0
        counterOfferCounter := some 0
        offerCounter := some 0
        nftListingCounter := some 0
        platformFee := some ⟨250, admin⟩ }
  | listed (op : Op) (s' : State)
      (chain : Relation.ReflTransGen (Listed self env.timestamp) s s') :
      Effect self hub env s op s'
  | takenDown (op : Op) (s' : State)
      (chain : Relation.ReflTransGen (TakenDown self env.timestamp) s s') :
      Effect self hub env s op s'
  | called (op : Op) (s' : State) (effect : CallEffect s s') : Effect self hub env s op s'
  | opened (op : Op) (auction : Auction) (agent : Agent) (extensionConfig : Store ℕ (ℕ × ℕ))
      (opens : Opens s env.timestamp auction agent) :
      Effect self hub env s op
        { withAuction self env.timestamp auction agent s with extensionConfig }
  | bid (op : Op) (s' : State) (effect : Bid env s op s') : Effect self hub env s op s'
  | won (op : Op) (auctionId : ℕ) (buyer : Address) (auction : Auction) (agent : Agent)
      (record : TransactionRecord) (is : op.finalizes? = some auctionId)
      (found : s.auction.get? auctionId = some auction) (active : auction.status = .active)
      (past : auction.endTime < env.timestamp ∨ ∃ revealEnd,
        auction.sealedRevealEnd = some revealEnd ∧ revealEnd < env.timestamp)
      (leader : auction.highestBidder = some buyer)
      (met : auction.reservePrice ≤ auction.highestBid)
      (there : s.agent.get? auction.agentId = some agent) (kind : record.txnType = .auctionWon)
      (small : s.transactionCounter.getD 0 + 1 < 2 ^ 64) :
      Effect self hub env s op { s with
        agent := s.agent.set auction.agentId
          { released env.timestamp (agent.nonce + 1) agent with owner := buyer }
        auction := s.auction.set auctionId { auction with status := .won }
        transactionCounter := some (s.transactionCounter.getD 0 + 1)
        transaction := s.transaction.set (s.transactionCounter.getD 0 + 1) record }
  | unsold (auctionId : ℕ) (auction : Auction) (found : s.auction.get? auctionId = some auction)
      (active : auction.status = .active) (past : auction.endTime < env.timestamp)
      (leaderless : auction.highestBidder = none)
      (met : auction.reservePrice ≤ auction.highestBid) :
      Effect self hub env s (.finalizeAuction auctionId)
        { s with auction := s.auction.set auctionId { auction with status := .won } }
  | ended (op : Op) (auctionId : ℕ) (auction : Auction) (agent : Agent) (agents : Store ℕ Agent)
      (is : op.finalizes? = some auctionId) (found : s.auction.get? auctionId = some auction)
      (active : auction.status = .active) (there : s.agent.get? auction.agentId = some agent)
      (freed : if agent.escrowLocked = true then
          agent.escrowHolder = some self ∧
            agents = s.agent.set auction.agentId (released env.timestamp agent.nonce agent)
        else agents = s.agent) :
      Effect self hub env s op { s with
        agent := agents
        auction := s.auction.set auctionId { auction with status := .ended } }
  | committed (auctionId : ℕ) (bidder : Address) (commitment : Bytes) (deposit : ℤ)
      (auction : Auction) (commitEnd : ℕ) (found : s.auction.get? auctionId = some auction)
      (kind : auction.auctionType = .sealed) (phase : auction.sealedCommitEnd = some commitEnd)
      (early : env.timestamp ≤ commitEnd) :
      Effect self hub env s (.commitBid auctionId bidder commitment deposit) { s with
        sealedCommit :=
          s.sealedCommit.set (auctionId, bidder) ⟨bidder, commitment, deposit, env.timestamp⟩ }
  | grouped (op : Op) (coll : Collection) (unused : coll.members = [])
      (numbered : coll.collectionId = s.collectionCounter.getD 0 + 1) :
      Effect self hub env s op { s with
        collectionCounter := some (s.collectionCounter.getD 0 + 1)
        collection := s.collection.set (s.collectionCounter.getD 0 + 1) coll }
  | added (creator : Address) (collectionId : ℕ) (agentIds members : List ℕ) (coll : Collection)
      (royalties : Store ℕ RoyaltyConfig) (found : s.collection.get? collectionId = some coll)
      (done : addEach coll.royaltyConfig agentIds (coll.members, s.collectionRoyalty) =
        .ok (members, royalties)) :
      Effect self hub env s (.addToCollection creator collectionId agentIds) { s with
        collection := s.collection.set collectionId
          { coll with members, updatedAt := env.timestamp }
        collectionRoyalty := royalties }
  | removed (creator : Address) (collectionId : ℕ) (agentIds : List ℕ) (coll : Collection)
      (found : s.collection.get? collectionId = some coll) :
      Effect self hub env s (.removeFromCollection creator collectionId agentIds) { s with
        collection := s.collection.set collectionId { coll with
          members := (removeEach agentIds (coll.members, s.collectionRoyalty)).1
          updatedAt := env.timestamp }
        collectionRoyalty := (removeEach agentIds (coll.members, s.collectionRoyalty)).2 }
  | shared (creator : Address) (collectionId : ℕ) (recipients : List RoyaltyRecipient)
      (totalBps : ℕ) (coll : Collection) (found : s.collection.get? collectionId = some coll) :
      Effect self hub env s (.setCollectionRoyalty creator collectionId recipients totalBps)
        { s with
          collection := s.collection.set collectionId { coll with
            royaltyConfig := ⟨recipients, totalBps, 0, none⟩, updatedAt := env.timestamp }
          collectionRoyalty := coll.members.foldl
            (fun royalties member => royalties.set member ⟨recipients, totalBps, 0, none⟩)
            s.collectionRoyalty }
  | nftSold (op : Op) (nftListing : Store ℕ NftListing) (record : TransactionRecord)
      (kind : record.txnType = .nftSale) (small : s.transactionCounter.getD 0 + 1 < 2 ^ 64) :
      Effect self hub env s op { s with
        nftListing
        transactionCounter := some (s.transactionCounter.getD 0 + 1)
        transaction := s.transaction.set (s.transactionCounter.getD 0 + 1) record }

section Effects

variable {self hub : Address} {env : Env} {s s' : State} {β : Type} {r : β}

theorem nextId_bind {counter : Option ℕ} {message : String} {f : ℕ → Result β} :
    (nextId counter message >>= f) = .ok r ↔
      counter.getD 0 + 1 < 2 ^ 64 ∧ f (counter.getD 0 + 1) = .ok r :=
  U64.checked_bind

theorem loadAgent_bind {agentId : ℕ} {f : Agent → Result β} :
    (loadAgent s agentId >>= f) = .ok r ↔
      ∃ agent, s.agent.get? agentId = some agent ∧ f agent = .ok r :=
  expect_bind

theorem loadListing_bind {listingId : ℕ} {f : Listing → Result β} :
    (loadListing s listingId >>= f) = .ok r ↔
      ∃ listing, s.listing.get? listingId = some listing ∧ f listing = .ok r :=
  expect_bind

theorem loadAuction_bind {auctionId : ℕ} {f : Auction → Result β} :
    (loadAuction s auctionId >>= f) = .ok r ↔
      ∃ auction, s.auction.get? auctionId = some auction ∧ f auction = .ok r :=
  expect_bind

theorem recordTransaction_ok {now : ℕ} {record : TransactionRecord}
    (h : recordTransaction now record s = .ok s') :
    s.transactionCounter.getD 0 + 1 < 2 ^ 64 ∧ s' = { s with
      transactionCounter := some (s.transactionCounter.getD 0 + 1)
      transaction := s.transaction.set (s.transactionCounter.getD 0 + 1) { record with
        txnId := s.transactionCounter.getD 0 + 1, timestamp := now } } := by
  unfold recordTransaction at h
  obtain ⟨hsmall, h⟩ := U64.add_bind.mp h
  cases h
  exact ⟨hsmall, rfl⟩

theorem createListing_effect {op : Op} {agentId : ℕ} {seller : Address} {listingType : ℕ}
    {price : ℤ} {durationDays : Option ℕ} {listingId : ℕ}
    (h : createListing self env agentId seller listingType price durationDays s =
      .ok (listingId, s')) :
    Effect self hub env s op s' := by
  unfold createListing at h
  obtain ⟨-, h⟩ := requireAuth_bind.mp h
  obtain ⟨-, h⟩ := panicIf_bind.mp h
  obtain ⟨-, h⟩ := panicIf_bind.mp h
  obtain ⟨-, h⟩ := panicIf_bind.mp h
  obtain ⟨-, -, h⟩ := bind_ok.mp h
  obtain ⟨agent, hfound, h⟩ := loadAgent_bind.mp h
  obtain ⟨howned, h⟩ := panicIf_bind.mp h
  obtain ⟨hfree, h⟩ := panicIf_bind.mp h
  obtain ⟨hsmall, h⟩ := nextId_bind.mp h
  obtain ⟨expiresAt, -, h⟩ := bind_ok.mp h
  obtain ⟨kind, -, h⟩ := bind_ok.mp h
  cases h
  exact .listed op _ (.single (.mk s agentId seller price kind expiresAt agent hfound
    (not_not.mp howned) (by simpa using hfree) hsmall))

theorem listEach_listed {now : ℕ} {seller : Address} {price : ℤ} {kind : ListingType}
    {expiresAt : ℕ} {agentIds : List ℕ}
    (h : listEach self now seller price kind expiresAt agentIds s = .ok s') :
    Relation.ReflTransGen (Listed self now) s s' := by
  induction agentIds generalizing s with
  | nil =>
    cases h
    exact .refl
  | cons agentId rest ih =>
    unfold listEach at h
    obtain ⟨-, h⟩ := panicIf_bind.mp h
    obtain ⟨agent, hfound, h⟩ := loadAgent_bind.mp h
    obtain ⟨howned, h⟩ := panicIf_bind.mp h
    obtain ⟨hfree, h⟩ := panicIf_bind.mp h
    obtain ⟨hsmall, h⟩ := nextId_bind.mp h
    exact .head (.mk s agentId seller price kind expiresAt agent hfound (not_not.mp howned)
      (by simpa using hfree) hsmall) (ih h)

theorem batchCreateListings_effect {op : Op} {seller : Address} {listingType : ℕ} {price : ℤ}
    {agentIds : List ℕ}
    (h : batchCreateListings self env seller listingType price agentIds s = .ok s') :
    Effect self hub env s op s' := by
  unfold batchCreateListings at h
  obtain ⟨-, h⟩ := requireAuth_bind.mp h
  obtain ⟨-, h⟩ := panicIf_bind.mp h
  obtain ⟨-, h⟩ := panicIf_bind.mp h
  obtain ⟨-, h⟩ := panicIf_bind.mp h
  obtain ⟨kind, -, h⟩ := bind_ok.mp h
  obtain ⟨-, h⟩ := U64.checked_bind.mp h
  exact .listed op s' (listEach_listed h)

/-- An active listing is taken down after its agent was given up, or before. -/
theorem releaseHeld_takenDown {now listingId : ℕ} {listing : Listing} {agent : Agent} {s₁ : State}
    (hfound : s.listing.get? listingId = some listing) (hactive : listing.active = true)
    (hthere : s.agent.get? listing.assetId = some agent)
    (h : releaseHeld self now listing.assetId agent s = .ok s₁) :
    TakenDown self now s (saveListing s₁ listingId { listing with active := false }) := by
  unfold releaseHeld at h
  split at h
  · rename_i hheld
    obtain ⟨-, h⟩ := U64.checked_bind.mp h
    cases h
    exact .released s listingId listing agent hfound hactive hthere hheld
  · rename_i hheld
    cases h
    refine .unheld s listingId listing hfound hactive ?_
    intro agent' hthere'
    cases hthere.symm.trans hthere'
    exact hheld

theorem cancelListing_effect {op : Op} {listingId : ℕ} {seller : Address}
    (h : cancelListing self env listingId seller s = .ok s') : Effect self hub env s op s' := by
  unfold cancelListing at h
  obtain ⟨-, h⟩ := requireAuth_bind.mp h
  obtain ⟨-, h⟩ := panicIf_bind.mp h
  obtain ⟨listing, hfound, h⟩ := loadListing_bind.mp h
  obtain ⟨-, h⟩ := panicIf_bind.mp h
  obtain ⟨hactive, h⟩ := panicIf_bind.mp h
  obtain ⟨agent, hthere, h⟩ := loadAgent_bind.mp h
  obtain ⟨-, h⟩ := panicIf_bind.mp h
  obtain ⟨s₁, hrelease, h⟩ := bind_ok.mp h
  cases h
  exact .takenDown _ _ (.single (releaseHeld_takenDown hfound (by simpa using hactive) hthere
    hrelease))

theorem cancelEach_takenDown {now : ℕ} {seller : Address} {listingIds : List ℕ}
    (h : cancelEach self now seller listingIds s = .ok s') :
    Relation.ReflTransGen (TakenDown self now) s s' := by
  induction listingIds generalizing s with
  | nil =>
    cases h
    exact .refl
  | cons listingId rest ih =>
    unfold cancelEach at h
    cases hfound : s.listing.get? listingId with
    | none =>
      rw [hfound] at h
      exact ih h
    | some listing =>
      simp only [hfound] at h
      split at h
      · rename_i hown
        cases hthere : s.agent.get? listing.assetId with
        | none =>
          rw [hthere] at h
          refine .head (.unheld s listingId listing hfound hown.2 ?_) (ih h)
          intro agent hagent
          cases hthere.symm.trans hagent
        | some agent =>
          rw [hthere] at h
          obtain ⟨s₁, hrelease, h⟩ := bind_ok.mp h
          exact .head (releaseHeld_takenDown hfound hown.2 hthere hrelease) (ih h)
      · exact ih h

theorem batchCancelListings_effect {op : Op} {seller : Address} {listingIds : List ℕ}
    (h : batchCancelListings self env seller listingIds s = .ok s') :
    Effect self hub env s op s' := by
  unfold batchCancelListings at h
  obtain ⟨-, h⟩ := requireAuth_bind.mp h
  obtain ⟨-, h⟩ := panicIf_bind.mp h
  exact .takenDown _ s' (cancelEach_takenDown h)

theorem cleanup_takenDown {listingIds : List ℕ}
    (h : cleanupExpiredListings self env listingIds s = .ok s') :
    Relation.ReflTransGen (TakenDown self env.timestamp) s s' := by
  induction listingIds generalizing s with
  | nil =>
    cases h
    exact .refl
  | cons listingId rest ih =>
    unfold cleanupExpiredListings at h
    cases hfound : s.listing.get? listingId with
    | none =>
      rw [hfound] at h
      exact ih h
    | some listing =>
      simp only [hfound] at h
      split at h
      · rename_i hexpired
        obtain ⟨agent, hthere, h⟩ := loadAgent_bind.mp h
        obtain ⟨s₁, hrelease, h⟩ := bind_ok.mp h
        refine .head ?_ (ih h)
        unfold releaseHeld at hrelease
        split at hrelease
        · rename_i hheld
          obtain ⟨-, hrelease⟩ := U64.checked_bind.mp hrelease
          cases hrelease
          exact .released s listingId listing agent hfound hexpired.1 hthere hheld
        · rename_i hheld
          cases hrelease
          refine .unheld s listingId listing hfound hexpired.1 ?_
          intro agent' hthere'
          cases hthere.symm.trans hthere'
          exact hheld
      · exact ih h

theorem verifySale_same {encodedArgs : Bytes} (h : verifySale self encodedArgs s = .ok s') :
    s' = s := by
  unfold verifySale at h
  obtain ⟨listingId, -, h⟩ := bind_ok.mp h
  obtain ⟨listing, -, h⟩ := loadListing_bind.mp h
  obtain ⟨-, h⟩ := panicIf_bind.mp h
  obtain ⟨-, h⟩ := panicIf_bind.mp h
  obtain ⟨agent, -, h⟩ := loadAgent_bind.mp h
  obtain ⟨-, h⟩ := panicIf_bind.mp h
  obtain ⟨-, h⟩ := panicIf_bind.mp h
  cases h
  rfl

theorem transferOwnership_effect {encodedArgs : Bytes}
    (h : transferOwnership env encodedArgs s = .ok s') : CallEffect s s' := by
  unfold transferOwnership at h
  obtain ⟨listingId, -, h⟩ := bind_ok.mp h
  obtain ⟨listing, -, h⟩ := loadListing_bind.mp h
  obtain ⟨pending, hbought, h⟩ := expect_bind.mp h
  obtain ⟨agent, -, h⟩ := loadAgent_bind.mp h
  obtain ⟨-, h⟩ := U64.checked_bind.mp h
  cases h
  exact .stepped listingId pending hbought ..

theorem recordSale_effect {encodedArgs : Bytes} (h : recordSale env encodedArgs s = .ok s') :
    CallEffect s s' := by
  unfold recordSale at h
  obtain ⟨listingId, -, h⟩ := bind_ok.mp h
  obtain ⟨listing, -, h⟩ := loadListing_bind.mp h
  obtain ⟨pending, hbought, h⟩ := expect_bind.mp h
  obtain ⟨⟨royaltyAmount, platformFee⟩, -, h⟩ := bind_ok.mp h
  obtain ⟨-, h⟩ := I128.checked_bind.mp h
  obtain ⟨-, h⟩ := I128.checked_bind.mp h
  obtain ⟨agent, -, h⟩ := loadAgent_bind.mp h
  obtain ⟨s₁, hrecord, h⟩ := bind_ok.mp h
  obtain ⟨-, rfl⟩ := recordTransaction_ok hrecord
  cases h
  exact .stepped listingId pending hbought ..

theorem rollbackAgent_ok {now assetId : ℕ} {pending : PendingSale}
    (h : rollbackAgent now pending assetId s = .ok s') :
    ∃ agents, s' = { s with agent := agents } := by
  unfold rollbackAgent at h
  split at h
  · obtain ⟨agent, -, h⟩ := bind_ok.mp h
    cases h
    exact ⟨_, rfl⟩
  · cases h
    exact ⟨s.agent, rfl⟩

theorem rollback_effect {encodedArgs : Bytes} (h : rollback env encodedArgs s = .ok s') :
    CallEffect s s' := by
  unfold rollback at h
  split at h
  · cases h
    exact .kept
  · obtain ⟨listingId, -, h⟩ := bind_ok.mp h
    split at h
    · rename_i pending hbought
      split at h
      · obtain ⟨s₁, hagent, h⟩ := bind_ok.mp h
        cases h
        obtain ⟨agents, rfl⟩ := rollbackAgent_ok hagent
        exact .stepped listingId pending hbought ..
      · cases h
        exact .stepped listingId pending hbought ..
    · cases h
      exact .kept

theorem wfDone_effect (workflowId status : ℕ) : CallEffect s (wfDone workflowId status s) := by
  unfold wfDone
  split
  · exact .kept
  · rename_i listingId hnamed
    split
    · exact .done workflowId listingId hnamed ..
    · split
      · exact .done workflowId listingId hnamed ..
      · exact .kept

theorem execStep_effect {stepIndex : ℕ} {encodedArgs : Bytes}
    (h : execStep self env stepIndex encodedArgs s = .ok s') : CallEffect s s' := by
  unfold execStep at h
  split at h
  · rw [verifySale_same h]
    exact .kept
  · exact transferOwnership_effect h
  · exact recordSale_effect h
  · cases h

theorem runCall_effect {call : Call} (h : runCall self env s call = .ok s') : CallEffect s s' := by
  cases call with
  | execStep stepIndex encodedArgs => exact execStep_effect h
  | rollback encodedArgs => exact rollback_effect h
  | wfDone workflowId status =>
    cases h
    exact wfDone_effect workflowId status

/-- A purchase starts the first step of its sale, which calls the marketplace back. -/
theorem buyAgent_traps {listingId : ℕ} {buyer : Address} {amount : ℤ} :
    buyAgent self hub env listingId buyer amount s ≠ .ok s' := by
  intro h
  unfold buyAgent at h
  obtain ⟨-, h⟩ := requireAuth_bind.mp h
  obtain ⟨-, h⟩ := panicIf_bind.mp h
  obtain ⟨listing, -, h⟩ := loadListing_bind.mp h
  obtain ⟨-, h⟩ := panicIf_bind.mp h
  obtain ⟨-, h⟩ := panicIf_bind.mp h
  obtain ⟨-, h⟩ := panicIf_bind.mp h
  obtain ⟨agent, -, h⟩ := loadAgent_bind.mp h
  obtain ⟨-, h⟩ := panicIf_bind.mp h
  obtain ⟨-, h⟩ := panicIf_bind.mp h
  obtain ⟨called, -, h⟩ := expect_bind.mp h
  obtain ⟨-, h⟩ := failIf_bind.mp h
  obtain ⟨⟨workflowId, created⟩, hcreated, h⟩ := bind_ok.mp h
  obtain ⟨⟨status, started⟩, hstarted, -⟩ := bind_ok.mp h
  obtain ⟨wf, hwf, hintime, hcurrent, hsteps⟩ := ExecutionHub.createWorkflow_ready hcreated
  have hstep : wf.steps[wf.currentStep]? = some (saleStep self listingId 0 "verify_sale" 0) := by
    rw [hsteps, hcurrent]
    rfl
  exact ExecutionHub.executeWorkflowStep_traps hwf hintime hstep
    (decide_eq_false (not_not.mpr rfl)) hstarted

theorem acceptOffer_traps {offerId : ℕ} {seller : Address} :
    acceptOffer self hub env offerId seller s ≠ .ok s' := by
  intro h
  unfold acceptOffer loadOffer at h
  obtain ⟨-, h⟩ := requireAuth_bind.mp h
  obtain ⟨-, h⟩ := panicIf_bind.mp h
  obtain ⟨offer, -, h⟩ := expect_bind.mp h
  obtain ⟨-, h⟩ := panicIf_bind.mp h
  obtain ⟨-, h⟩ := panicIf_bind.mp h
  obtain ⟨listing, -, h⟩ := loadListing_bind.mp h
  obtain ⟨-, h⟩ := panicIf_bind.mp h
  obtain ⟨-, h⟩ := panicIf_bind.mp h
  exact buyAgent_traps h

theorem acceptCounterOffer_traps {offerer : Address} {counterId : ℕ} :
    acceptCounterOffer self hub env offerer counterId s ≠ .ok s' := by
  intro h
  unfold acceptCounterOffer loadCounterOffer loadOffer at h
  obtain ⟨-, h⟩ := requireAuth_bind.mp h
  obtain ⟨-, h⟩ := panicIf_bind.mp h
  obtain ⟨counter, -, h⟩ := expect_bind.mp h
  obtain ⟨-, h⟩ := panicIf_bind.mp h
  obtain ⟨-, h⟩ := panicIf_bind.mp h
  obtain ⟨original, -, h⟩ := expect_bind.mp h
  obtain ⟨-, h⟩ := panicIf_bind.mp h
  exact buyAgent_traps h

theorem loadAuctionable_bind {agentId : ℕ} {seller : Address} {f : Agent → Result β}
    (h : (loadAuctionable s agentId seller >>= f) = .ok r) :
    ∃ agent, s.agent.get? agentId = some agent ∧ agent.owner = seller ∧
      agent.escrowLocked = false ∧ f agent = .ok r := by
  obtain ⟨agent, hload, h⟩ := bind_ok.mp h
  obtain ⟨found, hfound, hload⟩ := loadAgent_bind.mp hload
  obtain ⟨howned, hload⟩ := panicIf_bind.mp hload
  obtain ⟨hfree, hload⟩ := panicIf_bind.mp hload
  cases hload
  exact ⟨agent, hfound, not_not.mp howned, by simpa using hfree, h⟩

theorem openEnglish_ok {agentId : ℕ} {seller : Address} {startPrice reservePrice : ℤ}
    {durationDays : ℕ} {incrementBps : Option ℕ} {auctionId : ℕ}
    (h : openEnglish self env agentId seller startPrice reservePrice durationDays incrementBps s =
      .ok (auctionId, s')) :
    ∃ auction agent, Opens s env.timestamp auction agent ∧
      s' = withAuction self env.timestamp auction agent s := by
  unfold openEnglish at h
  obtain ⟨-, h⟩ := requireAuth_bind.mp h
  obtain ⟨-, h⟩ := panicIf_bind.mp h
  obtain ⟨hprices, h⟩ := panicIf_bind.mp h
  obtain ⟨-, h⟩ := panicIf_bind.mp h
  obtain ⟨-, h⟩ := panicIf_bind.mp h
  obtain ⟨agent, hfound, howned, hfree, h⟩ := loadAuctionable_bind h
  obtain ⟨-, h⟩ := nextId_bind.mp h
  obtain ⟨-, h⟩ := U64.mul_bind.mp h
  obtain ⟨-, h⟩ := U64.add_bind.mp h
  obtain ⟨-, h⟩ := panicIf_bind.mp h
  cases h
  rw [not_or, not_le, not_le] at hprices
  refine ⟨_, agent, ?_, rfl⟩
  exact ⟨rfl, rfl, ⟨rfl, rfl⟩, hprices.1, fun _ => hprices.2, nofun, hfound,
    howned, hfree⟩

theorem createAuction_effect {op : Op} {agentId : ℕ} {seller : Address}
    {startPrice reservePrice : ℤ} {durationDays : ℕ} {incrementBps : Option ℕ}
    (h : createAuction self env agentId seller startPrice reservePrice durationDays incrementBps s =
      .ok s') :
    Effect self hub env s op s' := by
  unfold createAuction at h
  obtain ⟨⟨auctionId, s₁⟩, hopen, h⟩ := bind_ok.mp h
  cases h
  obtain ⟨auction, agent, hopens, rfl⟩ := openEnglish_ok hopen
  exact .opened op auction agent s.extensionConfig hopens

theorem createAuctionWithExtension_effect {op : Op} {agentId : ℕ} {seller : Address}
    {startPrice reservePrice : ℤ} {durationDays : ℕ}
    {incrementBps windowSecs extensionSecs : Option ℕ}
    (h : createAuctionWithExtension self env agentId seller startPrice reservePrice durationDays
      incrementBps windowSecs extensionSecs s = .ok s') :
    Effect self hub env s op s' := by
  unfold createAuctionWithExtension at h
  obtain ⟨⟨auctionId, s₁⟩, hopen, h⟩ := bind_ok.mp h
  obtain ⟨-, h⟩ := panicIf_bind.mp h
  cases h
  obtain ⟨auction, agent, hopens, rfl⟩ := openEnglish_ok hopen
  exact .opened op auction agent _ hopens

theorem createDutchAuction_effect {op : Op} {agentId : ℕ} {seller : Address}
    {startPrice reservePrice : ℤ} {durationDays : ℕ}
    (h : createDutchAuction self env agentId seller startPrice reservePrice durationDays s =
      .ok s') :
    Effect self hub env s op s' := by
  unfold createDutchAuction at h
  obtain ⟨-, h⟩ := requireAuth_bind.mp h
  obtain ⟨-, h⟩ := panicIf_bind.mp h
  obtain ⟨hprices, h⟩ := panicIf_bind.mp h
  obtain ⟨-, h⟩ := panicIf_bind.mp h
  obtain ⟨agent, hfound, howned, hfree, h⟩ := loadAuctionable_bind h
  obtain ⟨-, h⟩ := nextId_bind.mp h
  obtain ⟨-, h⟩ := U64.checked_bind.mp h
  obtain ⟨-, h⟩ := U64.checked_bind.mp h
  cases h
  rw [not_or, not_le] at hprices
  refine .opened op _ agent s.extensionConfig ?_
  exact ⟨rfl, rfl, ⟨rfl, rfl⟩, hprices.1, fun hkind => absurd rfl hkind,
    nofun, hfound, howned, hfree⟩

theorem createSealedBidAuction_effect {op : Op} {agentId : ℕ} {seller : Address}
    {startPrice reservePrice : ℤ} {commitDurationSecs revealDurationSecs : ℕ}
    (h : createSealedBidAuction self env agentId seller startPrice reservePrice commitDurationSecs
      revealDurationSecs s = .ok s') :
    Effect self hub env s op s' := by
  unfold createSealedBidAuction at h
  obtain ⟨-, h⟩ := requireAuth_bind.mp h
  obtain ⟨hprices, h⟩ := panicIf_bind.mp h
  obtain ⟨-, h⟩ := panicIf_bind.mp h
  obtain ⟨-, h⟩ := panicIf_bind.mp h
  obtain ⟨agent, hfound, howned, hfree, h⟩ := loadAuctionable_bind h
  obtain ⟨-, h⟩ := nextId_bind.mp h
  obtain ⟨-, h⟩ := U64.checked_bind.mp h
  obtain ⟨-, h⟩ := U64.checked_bind.mp h
  cases h
  rw [not_or, not_or, not_le, not_le] at hprices
  refine .opened op _ agent s.extensionConfig ?_
  exact ⟨rfl, rfl, ⟨rfl, rfl⟩, hprices.2.1, fun _ => hprices.2.2,
    fun _ => ⟨rfl, _, rfl, Nat.le_add_right _ _⟩, hfound, howned, hfree⟩

theorem loadForBid_ok {auctionId : ℕ} {bidder : Address} {bidAmount : ℤ} {auction : Auction}
    (h : loadForBid env auctionId bidder bidAmount s = .ok auction) :
    0 < bidAmount ∧ s.auction.get? auctionId = some auction ∧ auction.status = .active ∧
      ∃ least, minBid auction = .ok least ∧ least ≤ bidAmount := by
  unfold loadForBid at h
  obtain ⟨-, h⟩ := requireAuth_bind.mp h
  obtain ⟨-, h⟩ := panicIf_bind.mp h
  obtain ⟨hpositive, h⟩ := panicIf_bind.mp h
  obtain ⟨found, hfound, h⟩ := loadAuction_bind.mp h
  obtain ⟨hactive, h⟩ := panicIf_bind.mp h
  obtain ⟨-, h⟩ := panicIf_bind.mp h
  obtain ⟨least, hleast, h⟩ := bind_ok.mp h
  obtain ⟨habove, h⟩ := panicIf_bind.mp h
  cases h
  exact ⟨not_le.mp hpositive, hfound, not_not.mp hactive, least, hleast, not_lt.mp habove⟩

theorem recordBid_ok {auctionId : ℕ} {bidder : Address} {amount : ℤ} {timestamp : ℕ}
    (h : recordBid auctionId bidder amount timestamp s = .ok s') :
    ∃ bids, s' = { s with bidRecord := s.bidRecord.set auctionId bids } := by
  obtain ⟨increment, -, h⟩ := bind_ok.mp h
  cases h
  exact ⟨_, rfl⟩

theorem placeBid_bid {auctionId : ℕ} {bidder : Address} {bidAmount : ℤ}
    (h : placeBid env auctionId bidder bidAmount s = .ok s') :
    Bid env s (.placeBid auctionId bidder bidAmount) s' := by
  unfold placeBid at h
  obtain ⟨auction, hload, h⟩ := bind_ok.mp h
  obtain ⟨s₁, hrecord, h⟩ := bind_ok.mp h
  cases h
  obtain ⟨hpositive, hfound, hactive, least, hleast, habove⟩ := loadForBid_ok hload
  obtain ⟨bids, rfl⟩ := recordBid_ok hrecord
  exact .raised _ auctionId bidder bidAmount least auction auction.endTime bids rfl hpositive
    hfound hactive hleast habove le_rfl

theorem extendedEnd_le {now : ℕ} {config : Option (ℕ × ℕ)} {endTime endTime' : ℕ}
    (h : extendedEnd now config endTime = .ok endTime') : endTime ≤ endTime' := by
  unfold extendedEnd at h
  split at h
  · split at h
    · unfold U64.add at h
      split at h
      · cases h
        exact Nat.le_add_right _ _
      · cases h
    · cases h
      exact le_rfl
  · cases h
    exact le_rfl

theorem placeBidWithExtension_bid {auctionId : ℕ} {bidder : Address} {bidAmount : ℤ}
    (h : placeBidWithExtension env auctionId bidder bidAmount s = .ok s') :
    Bid env s (.placeBidWithExtension auctionId bidder bidAmount) s' := by
  unfold placeBidWithExtension at h
  obtain ⟨auction, hload, h⟩ := bind_ok.mp h
  obtain ⟨endTime, hend, h⟩ := bind_ok.mp h
  obtain ⟨s₁, hrecord, h⟩ := bind_ok.mp h
  cases h
  obtain ⟨hpositive, hfound, hactive, least, hleast, habove⟩ := loadForBid_ok hload
  obtain ⟨bids, rfl⟩ := recordBid_ok hrecord
  exact .raised _ auctionId bidder bidAmount least auction endTime bids rfl hpositive hfound
    hactive hleast habove (extendedEnd_le hend)

theorem processAuctionSale_ok {auction : Auction} {buyer : Address}
    (h : processAuctionSale env auction buyer s = .ok s') :
    ∃ agent record, s.agent.get? auction.agentId = some agent ∧
      record.txnType = TxnType.auctionWon ∧ s.transactionCounter.getD 0 + 1 < 2 ^ 64 ∧
      s' = { s with
        agent := s.agent.set auction.agentId
          { released env.timestamp (agent.nonce + 1) agent with owner := buyer }
        transactionCounter := some (s.transactionCounter.getD 0 + 1)
        transaction := s.transaction.set (s.transactionCounter.getD 0 + 1) record } := by
  unfold processAuctionSale at h
  obtain ⟨agent, hthere, h⟩ := loadAgent_bind.mp h
  obtain ⟨-, h⟩ := U64.checked_bind.mp h
  obtain ⟨config, -, h⟩ := expect_bind.mp h
  obtain ⟨royaltyAmount, -, h⟩ := bind_ok.mp h
  obtain ⟨product, -, h⟩ := bind_ok.mp h
  obtain ⟨platformFee, -, h⟩ := bind_ok.mp h
  obtain ⟨afterRoyalty, -, h⟩ := bind_ok.mp h
  obtain ⟨sellerAmount, -, h⟩ := bind_ok.mp h
  obtain ⟨hsmall, rfl⟩ := recordTransaction_ok h
  exact ⟨agent, _, hthere, rfl, hsmall, rfl⟩

theorem cancelAuctionAssetReturn_ok {auction : Auction}
    (h : cancelAuctionAssetReturn self env auction s = .ok s') :
    ∃ agent agents, s.agent.get? auction.agentId = some agent ∧
      (if agent.escrowLocked = true then
        agent.escrowHolder = some self ∧
          agents = s.agent.set auction.agentId (released env.timestamp agent.nonce agent)
      else agents = s.agent) ∧ s' = { s with agent := agents } := by
  unfold cancelAuctionAssetReturn at h
  obtain ⟨agent, hthere, h⟩ := loadAgent_bind.mp h
  split at h
  · rename_i hlocked
    obtain ⟨hholder, h⟩ := panicIf_bind.mp h
    cases h
    exact ⟨agent, _, hthere, by rw [if_pos hlocked]; exact ⟨not_not.mp hholder, rfl⟩, rfl⟩
  · rename_i hlocked
    cases h
    exact ⟨agent, s.agent, hthere, by rw [if_neg hlocked], rfl⟩

theorem finalizeAuction_effect {auctionId : ℕ} (h : finalizeAuction self env auctionId s = .ok s') :
    Effect self hub env s (.finalizeAuction auctionId) s' := by
  unfold finalizeAuction at h
  obtain ⟨-, h⟩ := panicIf_bind.mp h
  obtain ⟨auction, hfound, h⟩ := loadAuction_bind.mp h
  obtain ⟨hactive, h⟩ := panicIf_bind.mp h
  obtain ⟨hover, h⟩ := panicIf_bind.mp h
  have hstatus := not_not.mp hactive
  split at h
  · rename_i hmet
    obtain ⟨s₁, hsold, h⟩ := bind_ok.mp h
    cases h
    unfold sellToLeader at hsold
    split at hsold
    · rename_i buyer hleader
      obtain ⟨agent, record, hthere, hkind, hsmall, rfl⟩ := processAuctionSale_ok hsold
      exact .won _ auctionId buyer auction agent record rfl hfound hstatus
        (.inl (not_le.mp hover)) hleader hmet hthere hkind hsmall
    · rename_i hleader
      cases hsold
      exact .unsold auctionId auction hfound hstatus (not_le.mp hover) hleader hmet
  · obtain ⟨s₁, hreturn, h⟩ := bind_ok.mp h
    cases h
    obtain ⟨agent, agents, hthere, hfreed, rfl⟩ := cancelAuctionAssetReturn_ok hreturn
    exact .ended _ auctionId auction agent agents rfl hfound hstatus hthere hfreed

theorem loadSealed_bind {auctionId : ℕ} {f : Auction → Result β}
    (h : (loadSealed s auctionId >>= f) = .ok r) :
    ∃ auction, s.auction.get? auctionId = some auction ∧ auction.auctionType = .sealed ∧
      f auction = .ok r := by
  obtain ⟨auction, hload, h⟩ := bind_ok.mp h
  obtain ⟨found, hfound, hload⟩ := loadAuction_bind.mp hload
  obtain ⟨hkind, hload⟩ := panicIf_bind.mp hload
  cases hload
  exact ⟨auction, hfound, not_not.mp hkind, h⟩

theorem finalizeSealedAuction_effect {auctionId : ℕ}
    (h : finalizeSealedAuction self env auctionId s = .ok s') :
    Effect self hub env s (.finalizeSealedAuction auctionId) s' := by
  unfold finalizeSealedAuction at h
  obtain ⟨-, h⟩ := panicIf_bind.mp h
  obtain ⟨auction, hfound, -, h⟩ := loadSealed_bind h
  obtain ⟨revealEnd, hend, h⟩ := expect_bind.mp h
  obtain ⟨hover, h⟩ := panicIf_bind.mp h
  obtain ⟨hactive, h⟩ := panicIf_bind.mp h
  have hstatus := not_not.mp hactive
  split at h
  · rename_i hmet
    obtain ⟨winner, hleader, h⟩ := expect_bind.mp h
    obtain ⟨s₁, hsale, h⟩ := bind_ok.mp h
    cases h
    obtain ⟨agent, record, hthere, hkind, hsmall, rfl⟩ := processAuctionSale_ok hsale
    exact .won _ auctionId winner auction agent record rfl hfound hstatus
      (.inr ⟨revealEnd, hend, not_le.mp hover⟩) hleader hmet.2 hthere hkind hsmall
  · obtain ⟨s₁, hreturn, h⟩ := bind_ok.mp h
    cases h
    obtain ⟨agent, agents, hthere, hfreed, rfl⟩ := cancelAuctionAssetReturn_ok hreturn
    exact .ended _ auctionId auction agent agents rfl hfound hstatus hthere hfreed

theorem dutchBuyNow_bid {auctionId : ℕ} {buyer : Address} {bidAmount : ℤ}
    (h : dutchBuyNow env auctionId buyer bidAmount s = .ok s') :
    Bid env s (.dutchBuyNow auctionId buyer bidAmount) s' := by
  unfold dutchBuyNow at h
  obtain ⟨-, h⟩ := requireAuth_bind.mp h
  obtain ⟨-, h⟩ := panicIf_bind.mp h
  obtain ⟨hpositive, h⟩ := panicIf_bind.mp h
  obtain ⟨auction, hfound, h⟩ := loadAuction_bind.mp h
  obtain ⟨hkind, h⟩ := panicIf_bind.mp h
  obtain ⟨hactive, h⟩ := panicIf_bind.mp h
  obtain ⟨-, h⟩ := panicIf_bind.mp h
  obtain ⟨-, h⟩ := panicIf_bind.mp h
  obtain ⟨-, h⟩ := panicIf_bind.mp h
  obtain ⟨hmet, h⟩ := panicIf_bind.mp h
  obtain ⟨agent, record, hthere, htxn, hsmall, rfl⟩ := processAuctionSale_ok h
  exact .boughtNow auctionId buyer bidAmount auction agent record (not_le.mp hpositive) hfound
    (not_not.mp hkind) (not_not.mp hactive) (not_lt.mp hmet) hthere htxn hsmall

theorem commitBid_effect {auctionId : ℕ} {bidder : Address} {commitment : Bytes} {deposit : ℤ}
    (h : commitBid env auctionId bidder commitment deposit s = .ok s') :
    Effect self hub env s (.commitBid auctionId bidder commitment deposit) s' := by
  unfold commitBid at h
  obtain ⟨-, h⟩ := requireAuth_bind.mp h
  obtain ⟨-, h⟩ := panicIf_bind.mp h
  obtain ⟨-, h⟩ := panicIf_bind.mp h
  obtain ⟨auction, hfound, hkind, h⟩ := loadSealed_bind h
  obtain ⟨commitEnd, hphase, h⟩ := expect_bind.mp h
  obtain ⟨hearly, h⟩ := panicIf_bind.mp h
  cases h
  exact .committed auctionId bidder commitment deposit auction commitEnd hfound hkind hphase
    (not_lt.mp hearly)

theorem revealBid_bid {auctionId : ℕ} {bidder : Address} {amount : ℤ} {nonce : String}
    (h : revealBid env auctionId bidder amount nonce s = .ok s') :
    Bid env s (.revealBid auctionId bidder amount nonce) s' := by
  unfold revealBid at h
  obtain ⟨-, h⟩ := requireAuth_bind.mp h
  obtain ⟨-, h⟩ := panicIf_bind.mp h
  obtain ⟨hpositive, h⟩ := panicIf_bind.mp h
  obtain ⟨auction, hfound, hkind, h⟩ := loadSealed_bind h
  obtain ⟨commitEnd, hcommitEnd, h⟩ := expect_bind.mp h
  obtain ⟨revealEnd, hrevealEnd, h⟩ := expect_bind.mp h
  obtain ⟨hafter, h⟩ := panicIf_bind.mp h
  obtain ⟨hbefore, h⟩ := panicIf_bind.mp h
  obtain ⟨commit, hcommitted, h⟩ := expect_bind.mp h
  cases h
  exact .revealed auctionId bidder amount nonce auction commitEnd revealEnd commit
    (not_le.mp hpositive) hfound hkind ⟨hcommitEnd, hrevealEnd⟩
    ⟨not_le.mp hafter, not_lt.mp hbefore⟩ hcommitted

theorem createCollection_effect {op : Op} {creator : Address} {name : String} {royaltyBps : ℕ}
    (h : createCollection env creator name royaltyBps s = .ok s') : Effect self hub env s op s' := by
  unfold createCollection at h
  obtain ⟨-, h⟩ := requireAuth_bind.mp h
  obtain ⟨-, h⟩ := panicIf_bind.mp h
  obtain ⟨-, h⟩ := panicIf_bind.mp h
  obtain ⟨-, h⟩ := nextId_bind.mp h
  cases h
  exact .grouped op _ rfl rfl

theorem loadOwn_bind {creator : Address} {collectionId : ℕ} {f : Collection → Result β}
    (h : (loadOwn env creator collectionId s >>= f) = .ok r) :
    ∃ coll, s.collection.get? collectionId = some coll ∧
      f { coll with updatedAt := env.timestamp } = .ok r := by
  obtain ⟨coll, hload, h⟩ := bind_ok.mp h
  obtain ⟨found, hfound, hload⟩ := expect_bind.mp hload
  obtain ⟨-, hload⟩ := panicIf_bind.mp hload
  cases hload
  exact ⟨found, hfound, h⟩

theorem addToCollection_effect {creator : Address} {collectionId : ℕ} {agentIds : List ℕ}
    (h : addToCollection env creator collectionId agentIds s = .ok s') :
    Effect self hub env s (.addToCollection creator collectionId agentIds) s' := by
  unfold addToCollection at h
  obtain ⟨-, h⟩ := requireAuth_bind.mp h
  obtain ⟨-, h⟩ := panicIf_bind.mp h
  obtain ⟨coll, hfound, h⟩ := loadOwn_bind h
  obtain ⟨-, h⟩ := panicIf_bind.mp h
  obtain ⟨⟨members, royalties⟩, hdone, h⟩ := bind_ok.mp h
  cases h
  exact .added creator collectionId agentIds members coll royalties hfound hdone

theorem removeFromCollection_effect {creator : Address} {collectionId : ℕ} {agentIds : List ℕ}
    (h : removeFromCollection env creator collectionId agentIds s = .ok s') :
    Effect self hub env s (.removeFromCollection creator collectionId agentIds) s' := by
  unfold removeFromCollection at h
  obtain ⟨-, h⟩ := requireAuth_bind.mp h
  obtain ⟨-, h⟩ := panicIf_bind.mp h
  obtain ⟨coll, hfound, h⟩ := loadOwn_bind h
  obtain ⟨-, h⟩ := panicIf_bind.mp h
  cases h
  exact .removed creator collectionId agentIds coll hfound

theorem setCollectionRoyalty_effect {creator : Address} {collectionId : ℕ}
    {recipients : List RoyaltyRecipient} {totalBps : ℕ}
    (h : setCollectionRoyalty env creator collectionId recipients totalBps s = .ok s') :
    Effect self hub env s (.setCollectionRoyalty creator collectionId recipients totalBps) s' := by
  unfold setCollectionRoyalty at h
  obtain ⟨-, h⟩ := requireAuth_bind.mp h
  obtain ⟨-, h⟩ := panicIf_bind.mp h
  obtain ⟨-, h⟩ := panicIf_bind.mp h
  obtain ⟨coll, hfound, h⟩ := loadOwn_bind h
  obtain ⟨sum, -, h⟩ := bind_ok.mp h
  obtain ⟨-, h⟩ := panicIf_bind.mp h
  cases h
  exact .shared creator collectionId recipients totalBps coll hfound

theorem initContract_effect {admin : Address} (h : initContract env admin s = .ok s') :
    Effect self hub env s (.initContract admin) s' := by
  unfold initContract at h
  obtain ⟨-, h⟩ := panicIf_bind.mp h
  obtain ⟨-, h⟩ := requireAuth_bind.mp h
  cases h
  exact .initialized admin

theorem setExecutionHub_effect {op : Op} {admin executionHub : Address}
    (h : setExecutionHub env admin executionHub s = .ok s') : Effect self hub env s op s' := by
  unfold setExecutionHub at h
  obtain ⟨-, h⟩ := requireAuth_bind.mp h
  obtain ⟨-, -, h⟩ := bind_ok.mp h
  cases h
  exact .administered op ..

theorem setPlatformFee_effect {op : Op} {admin : Address} {feeBps : ℕ} {recipient : Address}
    (h : setPlatformFee env admin feeBps recipient s = .ok s') : Effect self hub env s op s' := by
  unfold setPlatformFee at h
  obtain ⟨-, h⟩ := requireAuth_bind.mp h
  obtain ⟨-, -, h⟩ := bind_ok.mp h
  obtain ⟨-, h⟩ := panicIf_bind.mp h
  obtain ⟨config, -, h⟩ := expect_bind.mp h
  cases h
  exact .administered op ..

theorem setRoyalty_effect {op : Op} {agentId : ℕ} {creator recipient : Address} {percentage : ℕ}
    (h : setRoyalty env agentId creator recipient percentage s = .ok s') :
    Effect self hub env s op s' := by
  unfold setRoyalty at h
  obtain ⟨-, h⟩ := requireAuth_bind.mp h
  obtain ⟨-, h⟩ := panicIf_bind.mp h
  obtain ⟨-, h⟩ := panicIf_bind.mp h
  obtain ⟨agent, -, h⟩ := loadAgent_bind.mp h
  obtain ⟨-, h⟩ := panicIf_bind.mp h
  cases h
  exact .administered op ..

theorem makeOffer_effect {op : Op} {listingId : ℕ} {offerer : Address} {amount : ℤ}
    {durationDays : Option ℕ} (h : makeOffer env listingId offerer amount durationDays s = .ok s') :
    Effect self hub env s op s' := by
  unfold makeOffer at h
  obtain ⟨-, h⟩ := requireAuth_bind.mp h
  obtain ⟨-, h⟩ := panicIf_bind.mp h
  obtain ⟨-, h⟩ := panicIf_bind.mp h
  obtain ⟨listing, -, h⟩ := loadListing_bind.mp h
  obtain ⟨-, h⟩ := panicIf_bind.mp h
  obtain ⟨-, h⟩ := panicIf_bind.mp h
  obtain ⟨-, h⟩ := nextId_bind.mp h
  obtain ⟨expiresAt, -, h⟩ := bind_ok.mp h
  cases h
  exact .administered op ..

theorem rejectOffer_effect {op : Op} {offerId : ℕ} {caller : Address}
    (h : rejectOffer env offerId caller s = .ok s') : Effect self hub env s op s' := by
  unfold rejectOffer at h
  obtain ⟨-, h⟩ := requireAuth_bind.mp h
  obtain ⟨offer, -, h⟩ := expect_bind.mp h
  obtain ⟨listing, -, h⟩ := loadListing_bind.mp h
  obtain ⟨-, h⟩ := panicIf_bind.mp h
  cases h
  split
  · exact .administered op ..
  · exact .administered op ..

theorem makeCounterOffer_effect {op : Op} {seller : Address} {offerId : ℕ} {amount : ℤ}
    {durationDays : Option ℕ}
    (h : makeCounterOffer env seller offerId amount durationDays s = .ok s') :
    Effect self hub env s op s' := by
  unfold makeCounterOffer at h
  obtain ⟨-, h⟩ := requireAuth_bind.mp h
  obtain ⟨-, h⟩ := panicIf_bind.mp h
  obtain ⟨-, h⟩ := panicIf_bind.mp h
  obtain ⟨offer, -, h⟩ := expect_bind.mp h
  obtain ⟨-, h⟩ := panicIf_bind.mp h
  obtain ⟨listing, -, h⟩ := loadListing_bind.mp h
  obtain ⟨-, h⟩ := panicIf_bind.mp h
  obtain ⟨-, h⟩ := panicIf_bind.mp h
  obtain ⟨-, h⟩ := nextId_bind.mp h
  obtain ⟨-, h⟩ := U64.checked_bind.mp h
  obtain ⟨-, h⟩ := U64.checked_bind.mp h
  cases h
  exact .administered op ..

theorem rejectCounterOffer_effect {op : Op} {caller : Address} {counterId : ℕ}
    (h : rejectCounterOffer env caller counterId s = .ok s') : Effect self hub env s op s' := by
  unfold rejectCounterOffer at h
  obtain ⟨-, h⟩ := requireAuth_bind.mp h
  obtain ⟨counter, -, h⟩ := expect_bind.mp h
  obtain ⟨offer, -, h⟩ := expect_bind.mp h
  obtain ⟨-, h⟩ := panicIf_bind.mp h
  cases h
  split
  · exact .administered op ..
  · exact .administered op ..

theorem createNftListing_effect {op : Op} {nftTokenRef : NftTokenRef} {seller : Address} {price : ℤ}
    {currencySymbol : String} {currencyTokenAddress : Option Address} {durationDays : Option ℕ}
    {metadataUri : String}
    (h : createNftListing env nftTokenRef seller price currencySymbol currencyTokenAddress
      durationDays metadataUri s = .ok s') :
    Effect self hub env s op s' := by
  unfold createNftListing at h
  obtain ⟨-, h⟩ := requireAuth_bind.mp h
  obtain ⟨-, h⟩ := panicIf_bind.mp h
  obtain ⟨-, h⟩ := panicIf_bind.mp h
  obtain ⟨-, h⟩ := nextId_bind.mp h
  obtain ⟨expiresAt, -, h⟩ := bind_ok.mp h
  cases h
  exact .administered op ..

theorem cancelNftListing_effect {op : Op} {nftListingId : ℕ} {seller : Address}
    (h : cancelNftListing env nftListingId seller s = .ok s') : Effect self hub env s op s' := by
  unfold cancelNftListing at h
  obtain ⟨-, h⟩ := requireAuth_bind.mp h
  obtain ⟨-, h⟩ := panicIf_bind.mp h
  obtain ⟨listing, -, h⟩ := expect_bind.mp h
  obtain ⟨-, h⟩ := panicIf_bind.mp h
  obtain ⟨-, h⟩ := panicIf_bind.mp h
  cases h
  exact .administered op ..

theorem buyNftListing_effect {op : Op} {nftListingId : ℕ} {buyer : Address} {paymentAmount : ℤ}
    (h : buyNftListing env nftListingId buyer paymentAmount s = .ok s') :
    Effect self hub env s op s' := by
  unfold buyNftListing at h
  obtain ⟨-, h⟩ := requireAuth_bind.mp h
  obtain ⟨-, h⟩ := panicIf_bind.mp h
  obtain ⟨-, h⟩ := panicIf_bind.mp h
  obtain ⟨listing, -, h⟩ := expect_bind.mp h
  obtain ⟨-, h⟩ := panicIf_bind.mp h
  obtain ⟨-, h⟩ := panicIf_bind.mp h
  obtain ⟨-, h⟩ := panicIf_bind.mp h
  obtain ⟨fees, -, h⟩ := bind_ok.mp h
  obtain ⟨-, h⟩ := I128.checked_bind.mp h
  obtain ⟨-, h⟩ := I128.checked_bind.mp h
  obtain ⟨hsmall, rfl⟩ := recordTransaction_ok h
  exact .nftSold op _ _ rfl hsmall

theorem invoke_call {op : Op} (h : invoke self hub env op s = .ok s') (hcall : op.call? ≠ none) :
    CallEffect s s' := by
  cases op with
  | verifySale encodedArgs =>
    rw [verifySale_same h]
    exact .kept
  | transferOwnership => exact transferOwnership_effect h
  | recordSale => exact recordSale_effect h
  | callback => exact runCall_effect h
  | _ => exact absurd rfl hcall

theorem invoke_effect {op : Op} (h : invoke self hub env op s = .ok s') :
    Effect self hub env s op s' := by
  cases op with
  | initContract => exact initContract_effect h
  | setExecutionHub => exact setExecutionHub_effect h
  | setPlatformFee => exact setPlatformFee_effect h
  | setRoyalty => exact setRoyalty_effect h
  | createListing =>
    obtain ⟨⟨listingId, s₁⟩, hcreate, hs⟩ := bind_ok.mp h
    cases hs
    exact createListing_effect hcreate
  | batchCreateListings => exact batchCreateListings_effect h
  | cancelListing => exact cancelListing_effect h
  | batchCancelListings => exact batchCancelListings_effect h
  | cleanupExpiredListings => exact .takenDown _ s' (cleanup_takenDown h)
  | buyAgent => exact absurd h buyAgent_traps
  | verifySale | transferOwnership | recordSale | callback =>
    exact .called _ _ (invoke_call h (Option.some_ne_none _))
  | makeOffer => exact makeOffer_effect h
  | acceptOffer => exact absurd h acceptOffer_traps
  | rejectOffer => exact rejectOffer_effect h
  | makeCounterOffer => exact makeCounterOffer_effect h
  | acceptCounterOffer => exact absurd h acceptCounterOffer_traps
  | rejectCounterOffer => exact rejectCounterOffer_effect h
  | createAuction => exact createAuction_effect h
  | createAuctionWithExtension => exact createAuctionWithExtension_effect h
  | placeBid => exact .bid _ _ (placeBid_bid h)
  | placeBidWithExtension => exact .bid _ _ (placeBidWithExtension_bid h)
  | finalizeAuction => exact finalizeAuction_effect h
  | createDutchAuction => exact createDutchAuction_effect h
  | dutchBuyNow => exact .bid _ _ (dutchBuyNow_bid h)
  | createSealedBidAuction => exact createSealedBidAuction_effect h
  | commitBid => exact commitBid_effect h
  | revealBid => exact .bid _ _ (revealBid_bid h)
  | finalizeSealedAuction => exact finalizeSealedAuction_effect h
  | createCollection => exact createCollection_effect h
  | addToCollection => exact addToCollection_effect h
  | removeFromCollection => exact removeFromCollection_effect h
  | setCollectionRoyalty => exact setCollectionRoyalty_effect h
  | createNftListing => exact createNftListing_effect h
  | buyNftListing => exact buyNftListing_effect h
  | cancelNftListing => exact cancelNftListing_effect h

/-- No purchase completes. -/
theorem invoke_purchase {op : Op} (h : invoke self hub env op s = .ok s') :
    op.purchase? s = none := by
  cases op with
  | buyAgent => exact absurd h buyAgent_traps
  | acceptOffer => exact absurd h acceptOffer_traps
  | acceptCounterOffer => exact absurd h acceptCounterOffer_traps
  | _ => rfl

theorem invoke_bid {op : Op} (h : invoke self hub env op s = .ok s') (hbid : op.bid? ≠ none) :
    Bid env s op s' := by
  cases op with
  | placeBid => exact placeBid_bid h
  | placeBidWithExtension => exact placeBidWithExtension_bid h
  | dutchBuyNow => exact dutchBuyNow_bid h
  | revealBid => exact revealBid_bid h
  | _ => exact absurd rfl hbid

end Effects

end Marketplace
