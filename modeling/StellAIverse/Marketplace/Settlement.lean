import StellAIverse.Marketplace.Runs

/-!
# Royalties and fees of a sale

Listings and tokens settle by one routine, auctions by another. The first knows the
royalties of collections and checks every product; the second knows the royalty of the
agent only, so the two agree where the collection asks for what the agent does.
-/

namespace Marketplace

open Soroban

/-- Fees and royalties are as they were. -/
structure SameFees (s s' : State) : Prop where
  platformFee : s'.platformFee = s.platformFee
  royalty : s'.royalty = s.royalty
  collection : s'.collection = s.collection
  collectionRoyalty : s'.collectionRoyalty = s.collectionRoyalty

/-- A call that leaves them so, whatever else it returns. -/
def KeepsFees {α : Type} (after : α → State) (s : State) (x : Result α) : Prop :=
  ∀ a, x = .ok a → SameFees s (after a)

section Keeps
variable {α β : Type} {after : α → State} {s s' : State}

theorem keepsFees_bind {x : Result β} {f : β → Result α}
    (h : ∀ b, x = .ok b → KeepsFees after s (f b)) : KeepsFees after s (x >>= f) := by
  intro a ha
  obtain ⟨b, hb, hf⟩ := bind_ok.mp ha
  exact h b hb a hf

theorem keepsFees_ok {a : α} (h : SameFees s (after a)) : KeepsFees after s (.ok a) := by
  intro b hb
  cases hb
  exact h

variable {self hub : Address} {env : Env}

/-- The entry points that write a fee or a royalty. -/
def Op.setsFees : Op → Bool
  | .initContract .. | .setPlatformFee .. | .setRoyalty .. | .createCollection ..
  | .addToCollection .. | .removeFromCollection .. | .setCollectionRoyalty .. => true
  | _ => false

theorem CallEffect.sameFees (h : CallEffect s s') : SameFees s s' := by
  cases h <;> exact ⟨rfl, rfl, rfl, rfl⟩

theorem Bid.sameFees {op : Op} (h : Bid env s op s') : SameFees s s' := by
  cases h <;> exact ⟨rfl, rfl, rfl, rfl⟩

theorem SameFees.refl (s : State) : SameFees s s := ⟨rfl, rfl, rfl, rfl⟩

theorem SameFees.trans {s'' : State} (h : SameFees s s') (h' : SameFees s' s'') : SameFees s s'' :=
  ⟨h'.1.trans h.1, h'.2.trans h.2, h'.3.trans h.3, h'.4.trans h.4⟩

theorem SameFees.chain {R : State → State → Prop} (hstep : ∀ s s', R s s' → SameFees s s')
    (h : Relation.ReflTransGen R s s') : SameFees s s' := by
  induction h with
  | refl => exact .refl s
  | tail _ hlast ih => exact ih.trans (hstep _ _ hlast)

theorem Listed.sameFees {now : ℕ} (h : Listed self now s s') : SameFees s s' := by
  cases h
  exact ⟨rfl, rfl, rfl, rfl⟩

theorem TakenDown.sameFees {now : ℕ} (h : TakenDown self now s s') : SameFees s s' := by
  cases h <;> exact ⟨rfl, rfl, rfl, rfl⟩

theorem createListing_keeps {agentId : ℕ} {seller : Address} {listingType : ℕ} {price : ℤ}
    {durationDays : Option ℕ} :
    KeepsFees Prod.snd s (createListing self env agentId seller listingType price durationDays s) := by
  unfold createListing
  repeat refine keepsFees_bind fun _ _ => ?_
  exact keepsFees_ok ⟨rfl, rfl, rfl, rfl⟩

theorem releaseHeld_keeps {now assetId : ℕ} {agent : Agent} :
    KeepsFees id s (releaseHeld self now assetId agent s) := by
  unfold releaseHeld
  split
  · exact keepsFees_bind fun _ _ => keepsFees_ok ⟨rfl, rfl, rfl, rfl⟩
  · exact keepsFees_ok ⟨rfl, rfl, rfl, rfl⟩

theorem processAuctionSale_keeps {auction : Auction} {buyer : Address} :
    KeepsFees id s (processAuctionSale env auction buyer s) := by
  intro s' h
  obtain ⟨agent, record, -, -, -, rfl⟩ := processAuctionSale_ok h
  exact ⟨rfl, rfl, rfl, rfl⟩

theorem sellToLeader_keeps {auction : Auction} : KeepsFees id s (sellToLeader env auction s) := by
  unfold sellToLeader
  split
  · exact processAuctionSale_keeps
  · exact keepsFees_ok ⟨rfl, rfl, rfl, rfl⟩

theorem cancelAuctionAssetReturn_keeps {auction : Auction} :
    KeepsFees id s (cancelAuctionAssetReturn self env auction s) := by
  intro s' h
  obtain ⟨agent, agents, -, -, rfl⟩ := cancelAuctionAssetReturn_ok h
  exact ⟨rfl, rfl, rfl, rfl⟩

theorem openEnglish_keeps {agentId : ℕ} {seller : Address} {startPrice reservePrice : ℤ}
    {durationDays : ℕ} {incrementBps : Option ℕ} :
    KeepsFees Prod.snd s
      (openEnglish self env agentId seller startPrice reservePrice durationDays incrementBps s) := by
  rintro ⟨auctionId, s'⟩ h
  obtain ⟨auction, agent, -, rfl⟩ := openEnglish_ok h
  exact ⟨rfl, rfl, rfl, rfl⟩

theorem finalizeAuction_keeps {auctionId : ℕ} :
    KeepsFees id s (finalizeAuction self env auctionId s) := by
  unfold finalizeAuction
  repeat refine keepsFees_bind fun _ _ => ?_
  split
  · exact keepsFees_bind fun s₁ h => keepsFees_ok ((sellToLeader_keeps s₁ h).trans ⟨rfl, rfl, rfl, rfl⟩)
  · exact keepsFees_bind fun s₁ h =>
      keepsFees_ok ((cancelAuctionAssetReturn_keeps s₁ h).trans ⟨rfl, rfl, rfl, rfl⟩)

/-- No other entry point writes a fee or a royalty. -/
theorem invoke_keeps {op : Op} (hop : op.setsFees = false) :
    KeepsFees id s (invoke self hub env op s) := by
  cases op with
  | initContract | setPlatformFee | setRoyalty | createCollection | addToCollection
  | removeFromCollection | setCollectionRoyalty => cases hop
  | verifySale | transferOwnership | recordSale | callback =>
    exact fun s' h => (invoke_call h (Option.some_ne_none _)).sameFees
  | buyAgent => exact fun s' h => absurd h buyAgent_traps
  | acceptOffer => exact fun s' h => absurd h acceptOffer_traps
  | acceptCounterOffer => exact fun s' h => absurd h acceptCounterOffer_traps
  | placeBid | placeBidWithExtension | dutchBuyNow | revealBid =>
    exact fun s' h => (invoke_bid h (by simp [Op.bid?])).sameFees
  | createListing => exact keepsFees_bind fun r h => keepsFees_ok (createListing_keeps r h)
  | batchCreateListings =>
    unfold invoke batchCreateListings
    repeat refine keepsFees_bind fun _ _ => ?_
    exact fun s' h => .chain (fun _ _ => Listed.sameFees) (listEach_listed h)
  | cancelListing =>
    unfold invoke cancelListing
    iterate 7 refine keepsFees_bind fun _ _ => ?_
    exact keepsFees_bind fun s₁ h => keepsFees_ok ((releaseHeld_keeps s₁ h).trans ⟨rfl, rfl, rfl, rfl⟩)
  | batchCancelListings =>
    unfold invoke batchCancelListings
    repeat refine keepsFees_bind fun _ _ => ?_
    exact fun s' h => .chain (fun _ _ => TakenDown.sameFees) (cancelEach_takenDown h)
  | cleanupExpiredListings =>
    exact fun s' h => .chain (fun _ _ => TakenDown.sameFees) (cleanup_takenDown h)
  | rejectOffer =>
    unfold invoke rejectOffer
    repeat refine keepsFees_bind fun _ _ => ?_
    refine keepsFees_ok ?_
    split <;> exact ⟨rfl, rfl, rfl, rfl⟩
  | rejectCounterOffer =>
    unfold invoke rejectCounterOffer
    repeat refine keepsFees_bind fun _ _ => ?_
    refine keepsFees_ok ?_
    split <;> exact ⟨rfl, rfl, rfl, rfl⟩
  | createAuction =>
    exact keepsFees_bind fun r h => keepsFees_ok (openEnglish_keeps r h)
  | createAuctionWithExtension =>
    unfold invoke createAuctionWithExtension
    refine keepsFees_bind fun r h => keepsFees_bind fun _ _ => keepsFees_ok ?_
    exact (openEnglish_keeps r h).trans ⟨rfl, rfl, rfl, rfl⟩
  | finalizeAuction => exact finalizeAuction_keeps
  | finalizeSealedAuction =>
    unfold invoke finalizeSealedAuction
    repeat refine keepsFees_bind fun _ _ => ?_
    split
    · refine keepsFees_bind fun winner _ => keepsFees_bind fun s₁ h => keepsFees_ok ?_
      exact (processAuctionSale_keeps s₁ h).trans ⟨rfl, rfl, rfl, rfl⟩
    · exact keepsFees_bind fun s₁ h =>
        keepsFees_ok ((cancelAuctionAssetReturn_keeps s₁ h).trans ⟨rfl, rfl, rfl, rfl⟩)
  | setExecutionHub | makeOffer | makeCounterOffer | createDutchAuction | createSealedBidAuction
  | commitBid | createNftListing | buyNftListing | cancelNftListing =>
    simp only [invoke, setExecutionHub, makeOffer, makeCounterOffer, createDutchAuction,
      createSealedBidAuction, commitBid, createNftListing, buyNftListing, recordTransaction,
      cancelNftListing]
    repeat refine keepsFees_bind fun _ _ => ?_
    exact keepsFees_ok ⟨rfl, rfl, rfl, rfl⟩

theorem hub_sameFees {host : ExecutionHub.Host} {op : ExecutionHub.Op}
    (h : next self hub (.hub host op) s = .ok s') : SameFees s s' :=
  hub_preserves (P := SameFees s) h (fun _ => ⟨rfl, rfl, rfl, rfl⟩)
    fun _ _ heffect hs => hs.trans heffect.sameFees

end Keeps

/-- The shares of a royalty are within its total, and the total within the whole. -/
def Capped (config : RoyaltyConfig) : Prop :=
  (config.recipients.map (·.shareBps)).sum ≤ config.totalBps ∧ config.totalBps ≤ maxRoyaltyPercentage

structure FeesCapped (s : State) : Prop where
  platformFee : ∀ config, s.platformFee = some config → config.feeBps ≤ 1000
  royalty : ∀ agentId info, s.royalty.get? agentId = some info → info.fee ≤ maxRoyaltyPercentage
  collection : ∀ id coll, s.collection.get? id = some coll → Capped coll.royaltyConfig
  copies : ∀ agentId config, s.collectionRoyalty.get? agentId = some config → Capped config

theorem feesCapped_deployed (agents : Store ℕ Agent) : FeesCapped (deployed agents) where
  platformFee _ h := by cases h
  royalty _ _ h := by cases h
  collection _ _ h := by cases h
  copies _ _ h := by cases h

theorem FeesCapped.same {s s' : State} (h : FeesCapped s) (hsame : SameFees s s') : FeesCapped s' := by
  obtain ⟨hplatform, hroyalty, hcollection, hcopies⟩ := h
  refine ⟨?_, ?_, ?_, ?_⟩
  · rw [hsame.platformFee]
    exact hplatform
  · rw [hsame.royalty]
    exact hroyalty
  · rw [hsame.collection]
    exact hcollection
  · rw [hsame.collectionRoyalty]
    exact hcopies

/-- Copies that are all capped stay so when agents join a capped collection. -/
theorem addEach_capped {config : RoyaltyConfig} (hconfig : Capped config) {agentIds members : List ℕ}
    {royalties : Store ℕ RoyaltyConfig} {r : List ℕ × Store ℕ RoyaltyConfig}
    (h : addEach config agentIds (members, royalties) = .ok r)
    (hcopies : ∀ m c, royalties.get? m = some c → Capped c) :
    ∀ m c, r.2.get? m = some c → Capped c := by
  induction agentIds generalizing members royalties with
  | nil =>
    cases h
    exact hcopies
  | cons agentId rest ih =>
    unfold addEach at h
    obtain ⟨-, h⟩ := panicIf_bind.mp h
    split at h
    · exact ih h hcopies
    · exact ih h (Store.forall_set hcopies hconfig)

theorem removeEach_capped (agentIds : List ℕ) {members : List ℕ} {royalties : Store ℕ RoyaltyConfig}
    (hcopies : ∀ m c, royalties.get? m = some c → Capped c) :
    ∀ m c, (removeEach agentIds (members, royalties)).2.get? m = some c → Capped c := by
  induction agentIds generalizing members royalties with
  | nil => exact hcopies
  | cons agentId rest ih =>
    unfold removeEach
    split
    · refine ih fun m c hm => ?_
      rw [Store.get?_remove] at hm
      split at hm
      · cases hm
      · exact hcopies m c hm
    · exact ih hcopies

theorem sumShares_ok {recipients : List RoyaltyRecipient} {sum total : ℕ}
    (h : sumShares recipients sum = .ok total) :
    total = sum + (recipients.map (·.shareBps)).sum := by
  induction recipients generalizing sum with
  | nil =>
    cases h
    rfl
  | cons recipient rest ih =>
    unfold sumShares at h
    obtain ⟨-, h⟩ := U32.checked_bind.mp h
    rw [ih h, List.map_cons, List.sum_cons]
    omega

section Steps

variable {self hub : Address} {env : Env} {s s' : State}

theorem feesCapped_call {op : Op} (h : FeesCapped s) (hcall : invoke self hub env op s = .ok s') :
    FeesCapped s' := by
  by_cases hop : op.setsFees = false
  · exact h.same (invoke_keeps hop s' hcall)
  cases op with
  | initContract admin =>
    simp only [invoke, initContract] at hcall
    obtain ⟨-, hcall⟩ := panicIf_bind.mp hcall
    obtain ⟨-, hcall⟩ := requireAuth_bind.mp hcall
    cases hcall
    refine ⟨fun config hconfig => ?_, h.royalty, h.collection, h.copies⟩
    cases hconfig
    exact Nat.le_of_ble_eq_true rfl
  | setPlatformFee admin feeBps recipient =>
    simp only [invoke, setPlatformFee] at hcall
    obtain ⟨-, hcall⟩ := requireAuth_bind.mp hcall
    obtain ⟨-, -, hcall⟩ := bind_ok.mp hcall
    obtain ⟨hcap, hcall⟩ := panicIf_bind.mp hcall
    obtain ⟨-, -, hcall⟩ := expect_bind.mp hcall
    cases hcall
    refine ⟨fun config hconfig => ?_, h.royalty, h.collection, h.copies⟩
    cases hconfig
    exact not_lt.mp hcap
  | setRoyalty agentId creator recipient percentage =>
    simp only [invoke, setRoyalty] at hcall
    obtain ⟨-, hcall⟩ := requireAuth_bind.mp hcall
    obtain ⟨-, hcall⟩ := panicIf_bind.mp hcall
    obtain ⟨hcap, hcall⟩ := panicIf_bind.mp hcall
    obtain ⟨agent, -, hcall⟩ := loadAgent_bind.mp hcall
    obtain ⟨-, hcall⟩ := panicIf_bind.mp hcall
    cases hcall
    exact ⟨h.platformFee, Store.forall_set h.royalty (not_lt.mp hcap), h.collection, h.copies⟩
  | createCollection creator name royaltyBps =>
    simp only [invoke, createCollection] at hcall
    obtain ⟨-, hcall⟩ := requireAuth_bind.mp hcall
    obtain ⟨-, hcall⟩ := panicIf_bind.mp hcall
    obtain ⟨hcap, hcall⟩ := panicIf_bind.mp hcall
    obtain ⟨-, hcall⟩ := nextId_bind.mp hcall
    cases hcall
    exact ⟨h.platformFee, h.royalty,
      Store.forall_set h.collection ⟨Nat.zero_le _, not_lt.mp hcap⟩, h.copies⟩
  | addToCollection creator collectionId agentIds =>
    simp only [invoke, addToCollection] at hcall
    obtain ⟨-, hcall⟩ := requireAuth_bind.mp hcall
    obtain ⟨-, hcall⟩ := panicIf_bind.mp hcall
    obtain ⟨coll, hfound, hcall⟩ := loadOwn_bind hcall
    obtain ⟨-, hcall⟩ := panicIf_bind.mp hcall
    obtain ⟨joined, hjoined, hcall⟩ := bind_ok.mp hcall
    cases hcall
    have hconfig := h.collection collectionId coll hfound
    exact ⟨h.platformFee, h.royalty, Store.forall_set h.collection hconfig,
      addEach_capped hconfig hjoined h.copies⟩
  | removeFromCollection creator collectionId agentIds =>
    simp only [invoke, removeFromCollection] at hcall
    obtain ⟨-, hcall⟩ := requireAuth_bind.mp hcall
    obtain ⟨-, hcall⟩ := panicIf_bind.mp hcall
    obtain ⟨coll, hfound, hcall⟩ := loadOwn_bind hcall
    obtain ⟨-, hcall⟩ := panicIf_bind.mp hcall
    cases hcall
    exact ⟨h.platformFee, h.royalty,
      Store.forall_set h.collection (h.collection collectionId coll hfound),
      removeEach_capped agentIds h.copies⟩
  | setCollectionRoyalty creator collectionId recipients totalBps =>
    simp only [invoke, setCollectionRoyalty] at hcall
    obtain ⟨-, hcall⟩ := requireAuth_bind.mp hcall
    obtain ⟨-, hcall⟩ := panicIf_bind.mp hcall
    obtain ⟨hcap, hcall⟩ := panicIf_bind.mp hcall
    obtain ⟨coll, hfound, hcall⟩ := loadOwn_bind hcall
    obtain ⟨sum, hsum, hcall⟩ := bind_ok.mp hcall
    obtain ⟨htotal, hcall⟩ := panicIf_bind.mp hcall
    cases hcall
    have hconfig : Capped ⟨recipients, totalBps, 0, none⟩ := by
      have := sumShares_ok hsum
      rw [zero_add] at this
      exact ⟨by rw [← this, not_not.mp htotal], not_lt.mp hcap⟩
    refine ⟨h.platformFee, h.royalty, Store.forall_set h.collection hconfig, fun m c hm => ?_⟩
    change (coll.members.foldl (fun royalties member =>
      royalties.set member ⟨recipients, totalBps, 0, none⟩) s.collectionRoyalty).get? m = some c at hm
    rw [Store.get?_foldl_set] at hm
    split at hm
    · cases hm
      exact hconfig
    · exact h.copies m c hm
  | _ => exact absurd rfl hop

theorem feesCapped_run {agents : Store ℕ Agent}
    (hrun : Steps (next self hub) (fun _ _ => True) (deployed agents) s) : FeesCapped s := by
  refine hrun.preserves (fun s a s' _ hn h => ?_) (feesCapped_deployed agents)
  cases a with
  | call env op => exact feesCapped_call h hn
  | hub env op => exact h.same (hub_sameFees hn)

end Steps

/-- What a rate takes from an amount. -/
def cutOf (amount : ℤ) (bps : ℕ) : ℤ := (amount * bps).tdiv 10000

/-- What the recipients of a collection get. -/
def cutsOf (amount : ℤ) (recipients : List RoyaltyRecipient) : ℤ :=
  (recipients.map fun recipient => cutOf amount recipient.shareBps).sum

section Cuts

variable {amount : ℤ} (ha : 0 ≤ amount)

include ha

theorem cutOf_nonneg (bps : ℕ) : 0 ≤ cutOf amount bps :=
  Int.tdiv_nonneg (mul_nonneg ha (Int.natCast_nonneg bps)) (by decide)

theorem cutOf_le {bps : ℕ} (hbps : bps ≤ maxRoyaltyPercentage) : cutOf amount bps ≤ amount := by
  have hproduct : amount * bps ≤ amount * 10000 :=
    mul_le_mul_of_nonneg_left (by exact_mod_cast hbps) ha
  have hfloor := I128.tdiv_mul_le (mul_nonneg ha (Int.natCast_nonneg bps)) (b := 10000) (by decide)
  unfold cutOf
  linarith

theorem cutOf_mono {bps bps' : ℕ} (h : bps ≤ bps') : cutOf amount bps ≤ cutOf amount bps' := by
  refine I128.tdiv_le_tdiv_of_cross (by decide) (by decide) ?_
  have : amount * bps ≤ amount * bps' := mul_le_mul_of_nonneg_left (by exact_mod_cast h) ha
  linarith

theorem cutsOf_nonneg (recipients : List RoyaltyRecipient) : 0 ≤ cutsOf amount recipients := by
  refine List.sum_nonneg fun cut hcut => ?_
  obtain ⟨recipient, -, rfl⟩ := List.mem_map.mp hcut
  exact cutOf_nonneg ha _

/-- What is rounded off recipient by recipient is not rounded off the whole. -/
theorem cutsOf_le (recipients : List RoyaltyRecipient) :
    cutsOf amount recipients ≤ cutOf amount (recipients.map (·.shareBps)).sum := by
  induction recipients with
  | nil => exact cutOf_nonneg ha 0
  | cons recipient rest ih =>
    let shares := (rest.map (·.shareBps)).sum
    calc cutsOf amount (recipient :: rest)
      _ = cutOf amount recipient.shareBps + cutsOf amount rest := by
        rw [cutsOf, List.map_cons, List.sum_cons, cutsOf]
      _ ≤ cutOf amount recipient.shareBps + cutOf amount shares := by linarith
      _ ≤ (amount * recipient.shareBps + amount * shares).tdiv 10000 :=
        I128.tdiv_add_le (mul_nonneg ha (Int.natCast_nonneg _))
          (mul_nonneg ha (Int.natCast_nonneg _)) (by decide)
      _ = cutOf amount ((recipient :: rest).map (·.shareBps)).sum := by
        rw [List.map_cons, List.sum_cons, cutOf, Nat.cast_add, mul_add]

end Cuts

/-- The royalty and the platform fee of an auction sale, as `processAuctionSale` computes
them. -/
def auctionFees (s : State) (agentId : ℕ) (amount : ℤ) : Result (ℤ × ℤ) := do
  let config ← expect s.platformFee "Platform fee not configured"
  let royaltyAmount ← auctionRoyalty s agentId amount
  let product ← I128.mul amount config.feeBps
  let platformFee ← I128.div product 10000
  let afterRoyalty ← I128.sub amount royaltyAmount
  let _ ← I128.sub afterRoyalty platformFee
  .ok (royaltyAmount, platformFee)

/-- The rate of the royalty that a sale owes: the collection's, or else the agent's. -/
def effectiveBps (s : State) (agentId : ℕ) : ℕ :=
  match s.collectionRoyalty.get? agentId with
  | some config => config.totalBps
  | none =>
    match s.royalty.get? agentId with
    | some info => info.fee
    | none => 0

/-- Both routines compute one royalty and one fee, within their bounds, and the seller
gets the rest. -/
def SettlesAlike (s : State) (agentId : ℕ) (amount : ℤ) : Prop :=
  ∃ royaltyAmount platformFee sellerAmount,
    computeSettlementFees s agentId amount = .ok (royaltyAmount, platformFee) ∧
    auctionFees s agentId amount = .ok (royaltyAmount, platformFee) ∧
    0 ≤ royaltyAmount ∧ 0 ≤ platformFee ∧
    royaltyAmount ≤ cutOf amount (effectiveBps s agentId) ∧
    sellerAmount + royaltyAmount + platformFee = amount ∧ 0 ≤ sellerAmount

/-- The royalty of the agent itself. -/
def agentCut (s : State) (agentId : ℕ) (amount : ℤ) : ℤ :=
  match s.royalty.get? agentId with
  | some info => cutOf amount info.fee
  | none => 0

/-- The products of the amount and the rates fit. -/
structure CutsFit (s : State) (agentId : ℕ) (amount : ℤ) (config : PlatformFeeConfig) : Prop where
  platformFee : I128.InRange (amount * config.feeBps)
  agent : ∀ info ∈ s.royalty.get? agentId, I128.InRange (amount * info.fee)
  collection : ∀ c ∈ s.collectionRoyalty.get? agentId, ∀ recipient ∈ c.recipients,
    I128.InRange (amount * recipient.shareBps)

theorem partOf_ok {amount r : ℤ} {bps : ℕ} {message : String} :
    partOf amount bps message = .ok r ↔ I128.InRange (amount * bps) ∧ cutOf amount bps = r := by
  unfold partOf cutOf
  rw [I128.checked_bind, Except.ok.injEq]

section Fees

variable {s : State} {agentId : ℕ} {amount r : ℤ}

theorem sumRoyalties_ok {recipients : List RoyaltyRecipient} {total : ℤ} (ha : 0 ≤ amount)
    (hshares : ∀ recipient ∈ recipients, recipient.shareBps ≤ maxRoyaltyPercentage)
    (htotal : 0 ≤ total) (hmax : total + cutsOf amount recipients ≤ I128.max) :
    sumRoyalties amount recipients total = .ok r ↔
      (∀ recipient ∈ recipients, I128.InRange (amount * recipient.shareBps)) ∧
      total + cutsOf amount recipients = r := by
  induction recipients generalizing total with
  | nil => simp [sumRoyalties, cutsOf]
  | cons recipient rest ih =>
    have hcuts : cutsOf amount (recipient :: rest) =
        cutOf amount recipient.shareBps + cutsOf amount rest := by
      simp [cutsOf]
    have hcut := cutOf_nonneg ha recipient.shareBps
    have hrest := cutsOf_nonneg ha rest
    have hfits : I128.InRange (total + cutOf amount recipient.shareBps) :=
      ⟨I128.inRange_zero.1.trans (by omega), by omega⟩
    rw [sumRoyalties, panicIf_bind, hcuts, ← add_assoc, List.forall_mem_cons, bind_ok]
    simp only [partOf_ok, I128.checked_bind]
    constructor
    · rintro ⟨-, _, ⟨hproduct, rfl⟩, -, h⟩
      obtain ⟨hproducts, hsum⟩ := (ih (fun r hr => hshares r (List.mem_cons_of_mem _ hr))
        (by omega) (by omega)).mp h
      exact ⟨⟨hproduct, hproducts⟩, hsum⟩
    · rintro ⟨⟨hproduct, hproducts⟩, hsum⟩
      refine ⟨not_lt.mpr (hshares recipient List.mem_cons_self), _, ⟨hproduct, rfl⟩, hfits, ?_⟩
      exact (ih (fun r hr => hshares r (List.mem_cons_of_mem _ hr)) (by omega) (by omega)).mpr
        ⟨hproducts, hsum⟩

theorem auctionRoyalty_ok (h : FeesCapped s) :
    auctionRoyalty s agentId amount = .ok r ↔
      (∀ info ∈ s.royalty.get? agentId, I128.InRange (amount * info.fee)) ∧
      agentCut s agentId amount = r := by
  unfold auctionRoyalty agentCut
  cases hroyalty : s.royalty.get? agentId with
  | none => simp
  | some info =>
    have hproduct : I128.InRange (amount * info.fee) →
        I128.InRange ((amount * info.fee).tdiv 10000) :=
      fun hfits => I128.inRange_tdiv hfits (by decide)
    simp only [if_pos (h.royalty agentId info hroyalty), I128.mul_bind, I128.div_ok, cutOf]
    simp
    tauto

/-- The royalty that listings and tokens settle with. -/
def statedRoyalty (s : State) (agentId : ℕ) (amount : ℤ) : ℤ :=
  match s.collectionRoyalty.get? agentId with
  | some config => cutsOf amount config.recipients
  | none => agentCut s agentId amount

/-- The products that it takes. -/
def RoyaltyFits (s : State) (agentId : ℕ) (amount : ℤ) : Prop :=
  match s.collectionRoyalty.get? agentId with
  | some config => ∀ recipient ∈ config.recipients, I128.InRange (amount * recipient.shareBps)
  | none => ∀ info ∈ s.royalty.get? agentId, I128.InRange (amount * info.fee)

theorem Capped.cutsOf_le {config : RoyaltyConfig} (h : Capped config) (ha : 0 ≤ amount) :
    cutsOf amount config.recipients ≤ cutOf amount config.totalBps :=
  (Marketplace.cutsOf_le ha config.recipients).trans (cutOf_mono ha h.1)

theorem royaltyOf_ok (h : FeesCapped s) (ha : 0 ≤ amount) (hmax : amount ≤ I128.max) :
    royaltyOf s agentId amount = .ok r ↔
      RoyaltyFits s agentId amount ∧ statedRoyalty s agentId amount = r := by
  unfold royaltyOf RoyaltyFits statedRoyalty
  cases hconfig : s.collectionRoyalty.get? agentId with
  | some config =>
    have hcapped := h.copies agentId config hconfig
    have hshares : ∀ recipient ∈ config.recipients,
        recipient.shareBps ≤ maxRoyaltyPercentage := fun recipient hmem =>
      (List.single_le_sum (fun _ _ => Nat.zero_le _) _ (List.mem_map.mpr ⟨recipient, hmem, rfl⟩)).trans
        (hcapped.1.trans hcapped.2)
    have htotal := (hcapped.cutsOf_le ha).trans (cutOf_le ha hcapped.2)
    simp only [panicIf_bind, not_lt.mpr hcapped.2, not_false_eq_true, true_and]
    rw [sumRoyalties_ok ha hshares le_rfl (by omega), zero_add]
  | none =>
    unfold agentCut
    cases hroyalty : s.royalty.get? agentId with
    | none => simp
    | some info => simp [if_pos (h.royalty agentId info hroyalty), partOf_ok]

variable {platformFee : ℤ}

theorem computeSettlementFees_ok (h : FeesCapped s) (ha : 0 ≤ amount) (hmax : amount ≤ I128.max) :
    computeSettlementFees s agentId amount = .ok (r, platformFee) ↔
      ∃ config, s.platformFee = some config ∧ RoyaltyFits s agentId amount ∧
        I128.InRange (amount * config.feeBps) ∧ statedRoyalty s agentId amount = r ∧
        cutOf amount config.feeBps = platformFee := by
  have hcap : ∀ config, s.platformFee = some config → ¬ config.feeBps > maxRoyaltyPercentage := by
    intro config hconfig
    have := h.platformFee config hconfig
    unfold maxRoyaltyPercentage
    omega
  unfold computeSettlementFees
  constructor
  · intro hfees
    obtain ⟨royaltyAmount, hroyalty, hfees⟩ := bind_ok.mp hfees
    obtain ⟨hfits, rfl⟩ := (royaltyOf_ok h ha hmax).mp hroyalty
    obtain ⟨config, hconfig, hfees⟩ := expect_bind.mp hfees
    rw [if_neg (hcap config hconfig)] at hfees
    obtain ⟨fee, hfee, hfees⟩ := bind_ok.mp hfees
    obtain ⟨hproduct, rfl⟩ := partOf_ok.mp hfee
    cases hfees
    exact ⟨config, hconfig, hfits, hproduct, rfl, rfl⟩
  · rintro ⟨config, hconfig, hfits, hproduct, rfl, rfl⟩
    refine bind_ok.mpr ⟨_, (royaltyOf_ok h ha hmax).mpr ⟨hfits, rfl⟩,
      expect_bind.mpr ⟨config, hconfig, ?_⟩⟩
    rw [if_neg (hcap config hconfig)]
    exact bind_ok.mpr ⟨_, partOf_ok.mpr ⟨hproduct, rfl⟩, rfl⟩

theorem agentCut_bounds (h : FeesCapped s) (ha : 0 ≤ amount) :
    0 ≤ agentCut s agentId amount ∧ agentCut s agentId amount ≤ amount := by
  unfold agentCut
  cases hroyalty : s.royalty.get? agentId with
  | none => exact ⟨le_rfl, ha⟩
  | some info => exact ⟨cutOf_nonneg ha _, cutOf_le ha (h.royalty agentId info hroyalty)⟩

theorem auctionFees_ok (h : FeesCapped s) (ha : 0 ≤ amount) (hmax : amount ≤ I128.max) :
    auctionFees s agentId amount = .ok (r, platformFee) ↔
      ∃ config, s.platformFee = some config ∧
        (∀ info ∈ s.royalty.get? agentId, I128.InRange (amount * info.fee)) ∧
        I128.InRange (amount * config.feeBps) ∧ agentCut s agentId amount = r ∧
        cutOf amount config.feeBps = platformFee := by
  obtain ⟨hagent, hagentLe⟩ : 0 ≤ agentCut s agentId amount ∧ agentCut s agentId amount ≤ amount :=
    agentCut_bounds h ha
  unfold auctionFees
  constructor
  · intro hfees
    obtain ⟨config, hconfig, hfees⟩ := expect_bind.mp hfees
    obtain ⟨royaltyAmount, hroyalty, hfees⟩ := bind_ok.mp hfees
    obtain ⟨hfits, rfl⟩ := (auctionRoyalty_ok h).mp hroyalty
    obtain ⟨hproduct, hfees⟩ := I128.mul_bind.mp hfees
    obtain ⟨-, -, hfees⟩ := I128.div_bind.mp hfees
    obtain ⟨-, hfees⟩ := I128.sub_bind.mp hfees
    obtain ⟨-, hfees⟩ := I128.sub_bind.mp hfees
    cases hfees
    exact ⟨config, hconfig, hfits, hproduct, rfl, rfl⟩
  · rintro ⟨config, hconfig, hfits, hproduct, rfl, rfl⟩
    have hfee := cutOf_nonneg ha config.feeBps
    have hfeeLe : cutOf amount config.feeBps ≤ amount := by
      refine cutOf_le ha ?_
      have := h.platformFee config hconfig
      unfold maxRoyaltyPercentage
      omega
    have hzero := I128.inRange_zero
    have hneg : I128.min ≤ -I128.max := by decide
    refine expect_bind.mpr ⟨config, hconfig, bind_ok.mpr ⟨_, (auctionRoyalty_ok h).mpr ⟨hfits, rfl⟩,
      I128.mul_bind.mpr ⟨hproduct, I128.div_bind.mpr ⟨by decide,
      I128.inRange_tdiv hproduct (by decide), I128.sub_bind.mpr ⟨?_, I128.sub_bind.mpr ⟨?_, rfl⟩⟩⟩⟩⟩⟩
    · exact ⟨hzero.1.trans (by omega), by omega⟩
    · change I128.InRange (_ - cutOf amount config.feeBps)
      exact ⟨hneg.trans (by omega), by omega⟩

/-- The fees of an auction sale are those that it records. -/
theorem processAuctionSale_fees {env : Env} {auction : Auction} {buyer : Address} {s' : State}
    (h : processAuctionSale env auction buyer s = .ok s') :
    ∃ record, s'.transaction.get? (s.transactionCounter.getD 0 + 1) = some record ∧
      auctionFees s auction.agentId auction.highestBid =
        .ok (record.royaltyAmount, record.platformFee) := by
  unfold processAuctionSale at h
  obtain ⟨agent, -, h⟩ := loadAgent_bind.mp h
  obtain ⟨-, h⟩ := U64.checked_bind.mp h
  obtain ⟨config, hconfig, h⟩ := expect_bind.mp h
  obtain ⟨royaltyAmount, hroyalty, h⟩ := bind_ok.mp h
  obtain ⟨product, hproduct, h⟩ := bind_ok.mp h
  obtain ⟨platformFee, hfee, h⟩ := bind_ok.mp h
  obtain ⟨afterRoyalty, hafter, h⟩ := bind_ok.mp h
  obtain ⟨sellerAmount, hseller, h⟩ := bind_ok.mp h
  obtain ⟨-, rfl⟩ := recordTransaction_ok h
  refine ⟨_, Store.get?_set_self _ _ _, expect_bind.mpr ⟨config, hconfig, bind_ok.mpr ⟨_, hroyalty,
    bind_ok.mpr ⟨_, hproduct, bind_ok.mpr ⟨_, hfee, bind_ok.mpr ⟨_, hafter,
    bind_ok.mpr ⟨_, hseller, rfl⟩⟩⟩⟩⟩⟩⟩

end Fees

/-- In every reachable state auctions settle as listings and tokens do exactly if a
platform fee is configured, no product overflows, the royalty of the agent's collection,
where it has one, comes to the agent's own, and royalty and fee are within the amount. -/
theorem sales_settle_alike_iff {self hub : Address} {agents : Store ℕ Agent} {s : State}
    (hrun : Steps (next self hub) (fun _ _ => True) (deployed agents) s) {agentId : ℕ} {amount : ℤ}
    (hpositive : 0 < amount) (hbound : amount ≤ priceUpperBound) :
    (∀ env auction buyer s', auction.agentId = agentId → auction.highestBid = amount →
      processAuctionSale env auction buyer s = .ok s' →
      ∃ record, s'.transaction.get? (s.transactionCounter.getD 0 + 1) = some record ∧
        auctionFees s agentId amount = .ok (record.royaltyAmount, record.platformFee)) ∧
    (SettlesAlike s agentId amount ↔ ∃ config, s.platformFee = some config ∧
      CutsFit s agentId amount config ∧
      (∀ c ∈ s.collectionRoyalty.get? agentId,
        cutsOf amount c.recipients = agentCut s agentId amount) ∧
      agentCut s agentId amount + cutOf amount config.feeBps ≤ amount) := by
  have h := feesCapped_run hrun
  have ha := hpositive.le
  have hmax : amount ≤ I128.max := hbound.trans (by decide)
  refine ⟨?_, ?_⟩
  · rintro env auction buyer s' rfl rfl hsale
    exact processAuctionSale_fees hsale
  unfold SettlesAlike
  simp only [computeSettlementFees_ok h ha hmax, auctionFees_ok h ha hmax]
  constructor
  · rintro ⟨_, _, sellerAmount, ⟨config, hconfig, hfits, hproduct, hstated, rfl⟩,
      ⟨_, hconfig', hagent, -, rfl, -⟩, -, -, -, hsum, hseller⟩
    refine ⟨config, hconfig, ⟨hproduct, hagent, fun c hc => ?_⟩, fun c hc => ?_, by omega⟩
    · rw [RoyaltyFits, hc] at hfits
      exact hfits
    · rw [statedRoyalty, hc] at hstated
      exact hstated
  · rintro ⟨config, hconfig, hfits, hequal, hwithin⟩
    have hagent : 0 ≤ agentCut s agentId amount := (agentCut_bounds h ha).1
    have hstated : statedRoyalty s agentId amount = agentCut s agentId amount := by
      unfold statedRoyalty
      split
      · exact hequal _ ‹_›
      · rfl
    have hroyaltyFits : RoyaltyFits s agentId amount := by
      unfold RoyaltyFits
      split
      · exact hfits.collection _ ‹_›
      · exact hfits.agent
    have hbps : agentCut s agentId amount ≤ cutOf amount (effectiveBps s agentId) := by
      unfold effectiveBps
      cases hc : s.collectionRoyalty.get? agentId with
      | some c => exact (hequal c hc).ge.trans ((h.copies agentId c hc).cutsOf_le ha)
      | none =>
        unfold agentCut
        cases s.royalty.get? agentId with
        | some info => exact le_rfl
        | none => exact cutOf_nonneg ha 0
    exact ⟨_, _, amount - agentCut s agentId amount - cutOf amount config.feeBps,
      ⟨config, hconfig, hroyaltyFits, hfits.platformFee, hstated, rfl⟩,
      ⟨config, hconfig, hfits.agent, hfits.platformFee, rfl, rfl⟩, hagent,
      cutOf_nonneg ha _, hbps, by ring, by omega⟩

section Runs

open Sample

/-- Alice's agent owes Bob a twentieth. -/
theorem sales_settle_alike_iff_twentieth :
    ∃ s, Steps (next market hubContract) (fun _ _ => True) start s ∧
      (∃ info ∈ s.royalty.get? 1, info.fee = 500) ∧ (0 : ℤ) < 10000 ∧
      (10000 : ℤ) ≤ priceUpperBound ∧ SettlesAlike s 1 10000 := by
  have h : After (fun s => (∃ config ∈ s.platformFee, config.feeBps = 250) ∧
        (∃ info ∈ s.royalty.get? 1, info.fee = 500) ∧ (s.collectionRoyalty.get? 1).isNone = true)
      (execute (next market hubContract)
        (calls [(0, .initContract admin), (1, .setRoyalty 1 alice bob 500)]) start) := by
    decide +kernel
  obtain ⟨s, hs, ⟨config, hconfig, hbps⟩, ⟨info, hinfo, hfee⟩, hnone⟩ := h.exists_ok
  have hrun : Steps (next market hubContract) (fun _ _ => True) start s :=
    execute_steps _ (fun _ _ _ => trivial) hs
  have halone : s.collectionRoyalty.get? 1 = none := Option.isNone_iff_eq_none.mp hnone
  have hroyalty : s.royalty.get? 1 = some info := hinfo
  have hcut : agentCut s 1 10000 = 500 := by
    rw [agentCut, hroyalty]
    simp only [hfee]
    rfl
  refine ⟨s, hrun, ⟨info, hinfo, hfee⟩, by decide, by decide,
    ((sales_settle_alike_iff hrun (by decide) (by decide)).2.mpr ⟨config, hconfig, ?_, ?_, ?_⟩)⟩
  · constructor
    · rw [hbps]
      decide
    · rw [hroyalty]
      rintro info ⟨⟩
      rw [hfee]
      decide
    · rw [halone]
      rintro c ⟨⟩
  · rw [halone]
    rintro c ⟨⟩
  · rw [hcut, hbps]
    decide

/-- The royalty of a collection is owed by a listing and not by an auction. -/
theorem auction_ignores_collection :
    ¬ ∀ s, Steps (next market hubContract) (fun _ _ => True) start s →
      ∀ agentId amount, 0 < amount → amount ≤ priceUpperBound → SettlesAlike s agentId amount := by
  intro hall
  have h : After (fun s => computeSettlementFees s 1 10000 = .ok (500, 250) ∧
        auctionFees s 1 10000 = .ok (0, 250))
      (execute (next market hubContract)
        (calls [(0, .initContract admin), (1, .createCollection alice "first" 0),
          (2, .addToCollection alice 1 [1]), (3, .setCollectionRoyalty alice 1 [⟨bob, 500, "artist"⟩] 500)])
        start) := by
    decide +kernel
  obtain ⟨s, hs, hlisting, hauction⟩ := h.exists_ok
  have hrun : Steps (next market hubContract) (fun _ _ => True) start s :=
    execute_steps _ (fun _ _ _ => trivial) hs
  obtain ⟨royaltyAmount, platformFee, -, hlisting', hauction', -⟩ :=
    hall s hrun 1 10000 (by decide) (by decide)
  rw [hlisting] at hlisting'
  rw [hauction] at hauction'
  cases hlisting'
  cases hauction'

end Runs

end Marketplace
