import StellAIverse.Marketplace.Runs

/-!
# Bids

An auction is opened once, and a call does one of few things to it: a bid takes the
lead, or the auction is settled. The bids of the three kinds of auctions have entry
points of their own, but the ascending bids do not ask for the kind.
-/

namespace Marketplace

open Soroban

/-- The auction afterwards; where the agent is sold, the agents afterwards have it at the buyer. -/
inductive AuctionStep (now : ℕ) (agents : Store ℕ Agent) (op : Op) (id : ℕ) (auction : Auction) :
    Auction → Prop
  | same : AuctionStep now agents op id auction auction
  | raised (bidder : Address) (amount least : ℤ) (endTime : ℕ)
      (is : op.raises? = some (id, bidder, amount)) (positive : 0 < amount)
      (active : auction.status = .active) (enough : minBid auction = .ok least)
      (above : least ≤ amount) (later : auction.endTime ≤ endTime) :
      AuctionStep now agents op id auction (led bidder amount { auction with endTime })
  | won (buyer : Address) (is : op.finalizes? = some id) (active : auction.status = .active)
      (past : auction.endTime < now ∨ ∃ revealEnd,
        auction.sealedRevealEnd = some revealEnd ∧ revealEnd < now)
      (leader : auction.highestBidder = some buyer)
      (met : auction.reservePrice ≤ auction.highestBid)
      (paid : ∃ agent, agents.get? auction.agentId = some agent ∧ agent.owner = buyer) :
      AuctionStep now agents op id auction { auction with status := .won }
  | unsold (is : op = .finalizeAuction id) (active : auction.status = .active)
      (leaderless : auction.highestBidder = none)
      (met : auction.reservePrice ≤ auction.highestBid) :
      AuctionStep now agents op id auction { auction with status := .won }
  | ended (is : op.finalizes? = some id) (active : auction.status = .active) :
      AuctionStep now agents op id auction { auction with status := .ended }
  | boughtNow (buyer : Address) (amount : ℤ) (is : op = .dutchBuyNow id buyer amount)
      (positive : 0 < amount) (dutch : auction.auctionType = .dutch)
      (active : auction.status = .active) (met : auction.reservePrice ≤ amount)
      (paid : ∃ agent, agents.get? auction.agentId = some agent ∧ agent.owner = buyer) :
      AuctionStep now agents op id auction { led buyer amount auction with status := .won }
  | outbid (bidder : Address) (amount : ℤ) (nonce : String) (commitEnd revealEnd : ℕ)
      (is : op = .revealBid id bidder amount nonce) (positive : 0 < amount)
      (kind : auction.auctionType = .sealed)
      (phases : auction.sealedCommitEnd = some commitEnd ∧
        auction.sealedRevealEnd = some revealEnd)
      (between : commitEnd < now ∧ now ≤ revealEnd) (higher : auction.highestBid < amount) :
      AuctionStep now agents op id auction (led bidder amount auction)

/-- Numbers are given out once. -/
def Numbered (s : State) : Prop :=
  ∀ id auction, s.auction.get? id = some auction → id ≤ s.auctionCounter.getD 0

/-- The initialisation comes before the first auction. -/
def Op.Starts (s : State) : Op → Prop
  | .initContract _ => s.auctionCounter.getD 0 = 0
  | _ => True

section Steps

variable {self hub : Address} {env : Env} {op : Op} {s s' : State} {id : ℕ}

theorem Numbered.aside (h : Numbered s) (ha : Aside s s') : Numbered s' := by
  unfold Numbered
  rw [ha.auction, ha.auctionCounter]
  exact h

theorem Numbered.write (h : Numbered s) {id : ℕ} {old : Auction} (auction : Auction)
    (hfound : s.auction.get? id = some old) :
    ∀ id' auction', (s.auction.set id auction).get? id' = some auction' →
      id' ≤ s.auctionCounter.getD 0 :=
  Store.forall_set h (h id old hfound)

theorem numbered_effect (h : Numbered s) (hstarts : op.Starts s)
    (heffect : Effect self hub env s op s') : Numbered s' := by
  cases heffect with
  | initialized =>
    intro id auction hfound
    exact (h id auction hfound).trans_eq hstarts
  | listed _ _ chain => exact h.aside (.chain (fun _ _ => Listed.aside) chain)
  | takenDown _ _ chain => exact h.aside (.chain (fun _ _ => TakenDown.aside) chain)
  | called _ _ effect => exact h.aside effect.aside
  | opened _ auction agent extensionConfig opens =>
    refine Store.forall_set (fun id old hfound => ?_) le_rfl
    have := h id old hfound
    change id ≤ auction.auctionId
    rw [opens.numbered]
    omega
  | bid _ _ effect =>
    cases effect with
    | raised _ auctionId _ _ _ auction _ _ _ _ found => exact h.write _ found
    | boughtNow auctionId _ _ auction _ _ _ found => exact h.write _ found
    | revealed auctionId _ _ _ auction _ _ _ _ found =>
      intro id' auction' hfound'
      change (if _ then _ else s.auction).get? id' = _ at hfound'
      split at hfound'
      · exact h.write _ found id' auction' hfound'
      · exact h id' auction' hfound'
  | won _ auctionId _ auction _ _ _ found => exact h.write _ found
  | unsold auctionId auction found => exact h.write _ found
  | ended _ auctionId auction _ _ _ found => exact h.write _ found
  | administered | committed | grouped | added | removed | shared | nftSold => exact h

/-- An auction that was there is there after a call, and has made a step. -/
theorem auction_effect (h : Numbered s) (heffect : Effect self hub env s op s')
    {auction : Auction} (hfound : s.auction.get? id = some auction) :
    ∃ auction', s'.auction.get? id = some auction' ∧
      AuctionStep env.timestamp s'.agent op id auction auction' := by
  have hsame : Aside s s' → ∃ auction', s'.auction.get? id = some auction' ∧
      AuctionStep env.timestamp s'.agent op id auction auction' := by
    intro ha
    rw [ha.auction]
    exact ⟨auction, hfound, .same⟩
  -- A write moves the auction it is about, and no other one.
  have hwrite : ∀ {auctionId : ℕ} {old new : Auction}, s.auction.get? auctionId = some old →
      (id = auctionId → AuctionStep env.timestamp s'.agent op id old new) →
      ∃ auction', (s.auction.set auctionId new).get? id = some auction' ∧
        AuctionStep env.timestamp s'.agent op id auction auction' := by
    intro auctionId old new hold hstep
    by_cases hid : id = auctionId
    · subst hid
      cases hold.symm.trans hfound
      exact ⟨new, Store.get?_set_self .., hstep rfl⟩
    · exact ⟨auction, (Store.get?_set_ne s.auction new hid).trans hfound, .same⟩
  cases heffect with
  | listed _ _ chain => exact hsame (.chain (fun _ _ => Listed.aside) chain)
  | takenDown _ _ chain => exact hsame (.chain (fun _ _ => TakenDown.aside) chain)
  | called _ _ effect => exact hsame effect.aside
  | opened _ new agent extensionConfig opens =>
    have hid : id ≠ new.auctionId := by
      have := h id auction hfound
      rw [opens.numbered]
      omega
    exact ⟨auction, (Store.get?_set_ne s.auction new hid).trans hfound, .same⟩
  | bid _ _ effect =>
    cases effect with
    | raised _ auctionId bidder amount least _ endTime _ is positive found active enough above
        later =>
      refine hwrite found ?_
      rintro rfl
      exact .raised bidder amount least endTime is positive active enough above later
    | boughtNow auctionId buyer amount _ agent record positive found dutch active met =>
      refine hwrite found ?_
      rintro rfl
      exact .boughtNow buyer amount rfl positive dutch active met
        ⟨_, Store.get?_set_self .., rfl⟩
    | revealed auctionId bidder amount nonce old commitEnd revealEnd commit positive found kind
        phases between =>
      change ∃ auction', (if amount > old.highestBid then _ else s.auction).get? id = _ ∧ _
      by_cases hhigher : amount > old.highestBid
      · rw [if_pos hhigher]
        refine hwrite found ?_
        rintro rfl
        exact .outbid bidder amount nonce commitEnd revealEnd rfl positive kind phases between
          hhigher
      · rw [if_neg hhigher]
        exact ⟨auction, hfound, .same⟩
  | won _ auctionId buyer _ agent record is found active past leader met =>
    refine hwrite found ?_
    rintro rfl
    exact .won buyer is active past leader met ⟨_, Store.get?_set_self .., rfl⟩
  | unsold auctionId _ found active past leaderless met =>
    refine hwrite found ?_
    rintro rfl
    exact .unsold rfl active leaderless met
  | ended _ auctionId _ agent agents is found active =>
    refine hwrite found ?_
    rintro rfl
    exact .ended is active
  | administered | initialized | committed | grouped | added | removed | shared
  | nftSold => exact ⟨auction, hfound, .same⟩

/-- An auction that was not there has just been opened. -/
theorem opened_effect (heffect : Effect self hub env s op s') {auction : Auction}
    (hnone : s.auction.get? id = none) (hfound : s'.auction.get? id = some auction) :
    ∃ agent, Opens s env.timestamp auction agent ∧ id = auction.auctionId := by
  have hsame : ∀ {t : State}, Aside s t → t.auction.get? id ≠ some auction := by
    intro t ha hsome
    rw [ha.auction, hnone] at hsome
    cases hsome
  have hwrite : ∀ {auctionId : ℕ} {old new : Auction}, s.auction.get? auctionId = some old →
      (s.auction.set auctionId new).get? id ≠ some auction := by
    intro auctionId old new hold hsome
    by_cases hid : id = auctionId
    · subst hid
      cases hnone.symm.trans hold
    · rw [Store.get?_set_ne s.auction new hid, hnone] at hsome
      cases hsome
  cases heffect with
  | listed _ _ chain => exact absurd hfound (hsame (.chain (fun _ _ => Listed.aside) chain))
  | takenDown _ _ chain => exact absurd hfound (hsame (.chain (fun _ _ => TakenDown.aside) chain))
  | called _ _ effect => exact absurd hfound (hsame effect.aside)
  | opened _ new agent extensionConfig opens =>
    change (s.auction.set new.auctionId new).get? id = some auction at hfound
    rw [Store.get?_set] at hfound
    split at hfound
    · rename_i hid
      cases hfound
      exact ⟨agent, opens, hid⟩
    · cases hnone.symm.trans hfound
  | bid _ _ effect =>
    cases effect with
    | raised _ _ _ _ _ _ _ _ _ _ found => exact absurd hfound (hwrite found)
    | boughtNow _ _ _ _ _ _ _ found => exact absurd hfound (hwrite found)
    | revealed _ _ _ _ _ _ _ _ _ found =>
      change (if _ then _ else s.auction).get? id = some auction at hfound
      split at hfound
      · exact absurd hfound (hwrite found)
      · cases hnone.symm.trans hfound
  | won _ _ _ _ _ _ _ found => exact absurd hfound (hwrite found)
  | unsold _ _ found => exact absurd hfound (hwrite found)
  | ended _ _ _ _ _ _ found => exact absurd hfound (hwrite found)
  | administered | initialized | committed | grouped | added | removed | shared
  | nftSold => cases hnone.symm.trans hfound

/-- A bid that was accepted is not above the lead. -/
theorem bid_lands {kind : AuctionType} {amount : ℤ} (hbid : op.bid? = some (id, kind, amount))
    (h : invoke self hub env op s = .ok s') :
    (∃ auction, s.auction.get? id = some auction) ∧
      ∀ auction, s'.auction.get? id = some auction → amount ≤ auction.highestBid := by
  have heffect := invoke_bid h (by rw [hbid]; exact Option.some_ne_none _)
  cases heffect with
  | raised op auctionId bidder amount' least old endTime bids is positive found =>
    have hid : auctionId = id ∧ amount' = amount := by
      cases op <;> cases hbid <;> cases is <;> exact ⟨rfl, rfl⟩
    obtain ⟨rfl, rfl⟩ := hid
    refine ⟨⟨old, found⟩, ?_⟩
    intro auction hfound
    cases (Store.get?_set_self ..).symm.trans hfound
    exact le_rfl
  | boughtNow auctionId buyer amount' old agent record positive found =>
    cases hbid
    refine ⟨⟨old, found⟩, ?_⟩
    intro auction hfound
    cases (Store.get?_set_self ..).symm.trans hfound
    exact le_rfl
  | revealed auctionId bidder amount' nonce old commitEnd revealEnd commit positive found =>
    cases hbid
    refine ⟨⟨old, found⟩, ?_⟩
    intro auction hfound
    change (if amount > old.highestBid then _ else s.auction).get? _ = _ at hfound
    split at hfound
    · cases (Store.get?_set_self ..).symm.trans hfound
      exact le_rfl
    · rename_i hlow
      cases found.symm.trans hfound
      exact not_lt.mp hlow

/-- A bid that raises was enough. -/
theorem raise_lands {bidder : Address} {amount : ℤ}
    (hraises : op.raises? = some (id, bidder, amount)) (h : invoke self hub env op s = .ok s') :
    ∃ auction least, s.auction.get? id = some auction ∧ minBid auction = .ok least ∧
      least ≤ amount := by
  have heffect : Bid env s op s' := by
    refine invoke_bid h ?_
    cases op <;> simp_all [Op.raises?, Op.bid?]
  cases heffect with
  | raised op auctionId bidder' amount' least auction endTime bids is positive found active
      enough above =>
    cases hraises.symm.trans is
    exact ⟨auction, least, found, enough, above⟩
  | boughtNow => cases hraises
  | revealed => cases hraises

end Steps

end Marketplace
