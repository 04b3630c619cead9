import StellAIverse.Marketplace.Bidding

/-!
# Auctions follow their rules

The lead is the highest accepted bid, English bids ascend, and an auction is won once,
by its leader, at the reserve or above. What the entry points leave open is the kind of
an auction that an ascending bid is made on, a bid that equals the lead where the
increment is rounded away, and a Dutch auction without a reserve that nobody bought.
-/

namespace Marketplace

open Soroban

def Action.bid? : Action → Option (ℕ × AuctionType × ℤ)
  | .call _ op => op.bid?
  | .hub _ _ => none

def Action.raises? : Action → Option (ℕ × Address × ℤ)
  | .call _ op => op.raises?
  | .hub _ _ => none

/-- The amount of a bid on an auction. -/
def Action.bidOn (id : ℕ) (a : Action) : Option ℤ :=
  a.bid?.bind fun bid => if bid.1 = id then some bid.2.2 else none

/-- The accepted bids on an auction, the latest first. -/
def accepted (log : List (State × Action)) (id : ℕ) : List ℤ :=
  log.filterMap fun e => e.2.bidOn id

theorem bidOn_some {id : ℕ} {a : Action} {amount : ℤ} :
    a.bidOn id = some amount ↔ ∃ kind, a.bid? = some (id, kind, amount) := by
  unfold Action.bidOn
  constructor
  · intro h
    obtain ⟨⟨id', kind, x⟩, hbid, h⟩ := Option.bind_eq_some_iff.mp h
    split at h
    · rename_i hid
      cases h
      exact ⟨kind, by rw [hbid, ← hid]⟩
    · cases h
  · rintro ⟨kind, hbid⟩
    simp [hbid]

theorem mem_accepted_cons {s : State} {a : Action} {log : List (State × Action)} {id : ℕ} {x : ℤ} :
    x ∈ accepted ((s, a) :: log) id ↔ a.bidOn id = some x ∨ x ∈ accepted log id := by
  unfold accepted
  cases h : a.bidOn id with
  | none => simp [h]
  | some y =>
    rw [List.filterMap_cons_some (by exact h), List.mem_cons, Option.some.injEq, eq_comm]

/-- Ascending bids are made on English auctions, and not at the lead where the increment is
rounded away; an auction without a bid is not finalized at a reserve of zero. -/
def Op.Fair (s : State) : Op → Prop
  | .initContract _ => s.auctionCounter.getD 0 = 0
  | .placeBid auctionId _ bidAmount | .placeBidWithExtension auctionId _ bidAmount =>
    ∀ auction ∈ s.auction.get? auctionId, auction.auctionType = .english ∧
      (auction.highestBid * auction.minBidIncrementBps < 10000 → bidAmount ≠ auction.highestBid)
  | .finalizeAuction auctionId => ∀ auction ∈ s.auction.get? auctionId,
      auction.highestBidder = none → auction.highestBid < auction.reservePrice
  | _ => True

instance (s : State) : (op : Op) → Decidable (op.Fair s)
  | .initContract _ => inferInstanceAs (Decidable (s.auctionCounter.getD 0 = 0))
  | .placeBid .. => inferInstanceAs (Decidable (∀ _ ∈ _, _))
  | .placeBidWithExtension .. => inferInstanceAs (Decidable (∀ _ ∈ _, _))
  | .finalizeAuction .. => inferInstanceAs (Decidable (∀ _ ∈ _, _))
  | .setExecutionHub .. | .setPlatformFee .. | .setRoyalty .. | .createListing ..
  | .batchCreateListings .. | .cancelListing .. | .batchCancelListings ..
  | .cleanupExpiredListings .. | .buyAgent .. | .verifySale .. | .transferOwnership ..
  | .recordSale .. | .callback .. | .makeOffer .. | .acceptOffer .. | .rejectOffer ..
  | .makeCounterOffer .. | .acceptCounterOffer .. | .rejectCounterOffer .. | .createAuction ..
  | .createAuctionWithExtension .. | .createDutchAuction .. | .dutchBuyNow ..
  | .createSealedBidAuction .. | .commitBid .. | .revealBid .. | .finalizeSealedAuction ..
  | .createCollection .. | .addToCollection .. | .removeFromCollection ..
  | .setCollectionRoyalty .. | .createNftListing .. | .buyNftListing .. | .cancelNftListing .. =>
    .isTrue trivial

def Action.Fair (s : State) : Action → Prop
  | .call _ op => op.Fair s
  | .hub _ _ => True

instance (s : State) : (a : Action) → Decidable (a.Fair s)
  | .call _ op => inferInstanceAs (Decidable (op.Fair s))
  | .hub _ _ => .isTrue trivial

theorem Op.Fair.starts {s : State} {op : Op} (h : op.Fair s) : op.Starts s := by
  cases op with
  | initContract => exact h
  | _ => trivial

theorem Op.Fair.raises {s : State} {op : Op} {id : ℕ} {bidder : Address} {amount : ℤ}
    {auction : Auction} (h : op.Fair s) (hraises : op.raises? = some (id, bidder, amount))
    (hfound : s.auction.get? id = some auction) :
    auction.auctionType = .english ∧
      (auction.highestBid * auction.minBidIncrementBps < 10000 → amount ≠ auction.highestBid) := by
  cases op with
  | placeBid | placeBidWithExtension =>
    cases hraises
    exact h auction hfound
  | _ => cases hraises

structure Ruled (log : List (State × Action)) (id : ℕ) (auction : Auction) : Prop where
  priced : 0 < auction.startPrice
  reserved : auction.auctionType ≠ .dutch → 0 < auction.reservePrice
  nonneg : 0 ≤ auction.highestBid
  leader : auction.highestBidder = none ↔ auction.highestBid = 0
  top : ∀ x ∈ accepted log id, x ≤ auction.highestBid
  attained : auction.highestBid = 0 ∨ auction.highestBid ∈ accepted log id
  floor : auction.auctionType = .english →
    auction.highestBid = 0 ∨ auction.startPrice ≤ auction.highestBid
  unbought : auction.auctionType = .dutch → auction.status = .active → auction.highestBid = 0
  ends : auction.auctionType = .sealed → auction.sealedRevealEnd = some auction.endTime
  sold : auction.status = .won → auction.highestBidder ≠ none ∧
    auction.reservePrice ≤ auction.highestBid ∧
      (auction.auctionType = .sealed → auction.endTime < clock Action.time log)

/-- A bid of at least the minimum is above the lead, unless the increment is rounded away. -/
theorem minBid_le {auction : Auction} {least amount : ℤ} (h : minBid auction = .ok least)
    (habove : least ≤ amount) (hpriced : 0 < auction.startPrice) (hnonneg : 0 ≤ auction.highestBid)
    (hne : auction.highestBid * auction.minBidIncrementBps < 10000 → amount ≠ auction.highestBid) :
    auction.highestBid < amount ∧ (auction.highestBid = 0 → auction.startPrice ≤ amount) := by
  unfold minBid at h
  split at h
  · rename_i hzero
    cases h
    exact ⟨by omega, fun _ => habove⟩
  · rename_i hlead
    obtain ⟨-, h⟩ := I128.mul_bind.mp h
    obtain ⟨-, -, h⟩ := I128.div_bind.mp h
    unfold I128.add at h
    obtain ⟨-, rfl⟩ := I128.fit_ok.mp h
    refine ⟨?_, fun hzero => absurd hzero hlead⟩
    have hproduct : 0 ≤ auction.highestBid * (auction.minBidIncrementBps : ℤ) :=
      mul_nonneg hnonneg (Int.natCast_nonneg _)
    have hincrement := I128.lt_tdiv_add_one_mul hproduct (by decide : (0 : ℤ) < 10000)
    have hround := Int.tdiv_nonneg hproduct (by decide : (0 : ℤ) ≤ 10000)
    by_cases hsmall : auction.highestBid * (auction.minBidIncrementBps : ℤ) < 10000
    · have := hne hsmall
      omega
    · omega

section Steps

variable {self hub : Address} {env : Env} {op : Op} {s s' : State} {id : ℕ} {auction auction' : Auction}
  {log : List (State × Action)} {agents : Store ℕ Agent}

/-- The lead goes up, and only to a bid. -/
theorem Ruled.rises (h : Ruled log id auction) (hfair : op.Fair s)
    (hfound : s.auction.get? id = some auction)
    (hstep : AuctionStep env.timestamp agents op id auction auction') :
    auction.highestBid ≤ auction'.highestBid ∧ (auction'.highestBid = auction.highestBid ∨
      op.bid? = some (id, auction.auctionType, auction'.highestBid)) := by
  cases hstep with
  | same | won | unsold | ended => exact ⟨le_rfl, .inl rfl⟩
  | raised bidder amount least endTime is positive active enough above later =>
    obtain ⟨hkind, hne⟩ := hfair.raises is hfound
    have hlead := (minBid_le enough above h.priced h.nonneg hne).1
    refine ⟨hlead.le, .inr ?_⟩
    rw [hkind]
    cases op <;> cases is <;> rfl
  | boughtNow buyer amount is positive dutch active =>
    refine ⟨(h.unbought dutch active).trans_le positive.le, .inr ?_⟩
    rw [is, dutch]
    rfl
  | outbid bidder amount nonce commitEnd revealEnd is positive kind phases between higher =>
    refine ⟨higher.le, .inr ?_⟩
    rw [is, kind]
    rfl

/-- An auction that is won stays as it is. -/
theorem Ruled.won_stays (h : Ruled log id auction) (hwon : auction.status = .won)
    (hontime : clock Action.time log ≤ env.timestamp)
    (hstep : AuctionStep env.timestamp agents op id auction auction') : auction' = auction := by
  have hclosed : ∀ {status}, auction.status = status → status ≠ .won → False :=
    fun hstatus hne => hne (hstatus.symm.trans hwon)
  cases hstep with
  | same => rfl
  | raised _ _ _ _ _ _ active => exact (hclosed active nofun).elim
  | won _ _ active => exact (hclosed active nofun).elim
  | unsold _ active => exact (hclosed active nofun).elim
  | ended _ active => exact (hclosed active nofun).elim
  | boughtNow _ _ _ _ _ active => exact (hclosed active nofun).elim
  | outbid _ _ _ commitEnd revealEnd _ _ kind phases between =>
    cases phases.2.symm.trans (h.ends kind)
    have := (h.sold hwon).2.2 kind
    omega

theorem Ruled.step (h : Ruled log id auction) (hfair : op.Fair s)
    (hontime : OnTime Action.time log (.call env op)) (hfound : s.auction.get? id = some auction)
    (hstep : AuctionStep env.timestamp agents op id auction auction')
    (htop : ∀ x, (Action.call env op).bidOn id = some x → x ≤ auction'.highestBid) :
    Ruled ((s, .call env op) :: log) id auction' := by
  obtain ⟨hrises, hlead⟩ := h.rises hfair hfound hstep
  have htop' : ∀ x ∈ accepted ((s, .call env op) :: log) id, x ≤ auction'.highestBid := by
    intro x hx
    rcases mem_accepted_cons.mp hx with hbid | hold
    · exact htop x hbid
    · exact (h.top x hold).trans hrises
  have hattained : auction'.highestBid = 0 ∨
      auction'.highestBid ∈ accepted ((s, .call env op) :: log) id := by
    rcases hlead with heq | hbid
    · rw [heq]
      exact h.attained.imp_right fun hold => mem_accepted_cons.mpr (.inr hold)
    · exact .inr (mem_accepted_cons.mpr (.inl (bidOn_some.mpr ⟨_, hbid⟩)))
  have hnow : clock Action.time log ≤ env.timestamp := hontime env.timestamp rfl
  cases hstep with
  | same =>
    refine ⟨h.priced, h.reserved, h.nonneg, h.leader, htop', hattained, h.floor, h.unbought, h.ends,
      ?_⟩
    intro hwon
    obtain ⟨hleader, hmet, hclosed⟩ := h.sold hwon
    exact ⟨hleader, hmet, fun hkind => (hclosed hkind).trans_le hnow⟩
  | raised bidder amount least endTime is positive active enough above later =>
    obtain ⟨hkind, hne⟩ := hfair.raises is hfound
    have hfloor := (minBid_le enough above h.priced h.nonneg hne).2
    have hother : ∀ {kind}, auction.auctionType = kind → kind ≠ .english → False :=
      fun hk hne => hne (hk.symm.trans hkind)
    refine ⟨h.priced, h.reserved, positive.le, ?_, htop', hattained, fun _ => .inr ?_,
      fun hk => (hother hk nofun).elim, fun hk => (hother hk nofun).elim, ?_⟩
    · exact ⟨nofun, fun hzero => absurd hzero positive.ne'⟩
    · rcases h.floor hkind with hzero | hstart
      · exact hfloor hzero
      · exact hstart.trans hrises
    · intro hwon
      cases active.symm.trans hwon
  | won buyer is active past leader met =>
    refine ⟨h.priced, h.reserved, h.nonneg, h.leader, htop', hattained, h.floor, ?_, h.ends, ?_⟩
    · intro _ hactive
      cases hactive
    · intro _
      refine ⟨by rw [leader]; exact Option.some_ne_none buyer, met, ?_⟩
      intro hkind
      rcases past with hover | ⟨revealEnd, hend, hover⟩
      · exact hover
      · cases (h.ends hkind).symm.trans hend
        exact hover
  | unsold is active leaderless met =>
    subst is
    exact absurd met (not_le.mpr (hfair auction hfound leaderless))
  | ended is active =>
    refine ⟨h.priced, h.reserved, h.nonneg, h.leader, htop', hattained, h.floor, ?_, h.ends, ?_⟩
    · intro _ hactive
      cases hactive
    · intro hwon
      cases hwon
  | boughtNow buyer amount is positive dutch active met =>
    have hother : ∀ {kind}, auction.auctionType = kind → kind ≠ .dutch → False :=
      fun hk hne => hne (hk.symm.trans dutch)
    refine ⟨h.priced, h.reserved, positive.le, ?_, htop', hattained,
      fun hk => (hother hk nofun).elim, ?_, fun hk => (hother hk nofun).elim, ?_⟩
    · exact ⟨nofun, fun hzero => absurd hzero positive.ne'⟩
    · intro _ hactive
      cases hactive
    · intro _
      exact ⟨Option.some_ne_none buyer, met, fun hk => (hother hk nofun).elim⟩
  | outbid bidder amount nonce commitEnd revealEnd is positive kind phases between higher =>
    have hother : ∀ {k}, auction.auctionType = k → k ≠ .sealed → False :=
      fun hk hne => hne (hk.symm.trans kind)
    refine ⟨h.priced, h.reserved, positive.le, ?_, htop', hattained,
      fun hk => (hother hk nofun).elim, fun hk => (hother hk nofun).elim, h.ends, ?_⟩
    · exact ⟨nofun, fun hzero => absurd hzero positive.ne'⟩
    · intro hwon
      cases phases.2.symm.trans (h.ends kind)
      have := (h.sold hwon).2.2 kind
      omega

/-- Nothing that is no call on the marketplace changes the standing of an auction. -/
theorem Ruled.later (h : Ruled log id auction) {a : Action} (hbid : a.bid? = none)
    (hontime : OnTime Action.time log a) : Ruled ((s, a) :: log) id auction := by
  have hnone : a.bidOn id = none := by
    unfold Action.bidOn
    rw [hbid]
    rfl
  refine ⟨h.priced, h.reserved, h.nonneg, h.leader, ?_, ?_, h.floor, h.unbought, h.ends, ?_⟩
  · intro x hx
    rcases mem_accepted_cons.mp hx with hx | hold
    · rw [hnone] at hx
      cases hx
    · exact h.top x hold
  · exact h.attained.imp_right fun hold => mem_accepted_cons.mpr (.inr hold)
  · intro hwon
    obtain ⟨hleader, hmet, hclosed⟩ := h.sold hwon
    exact ⟨hleader, hmet, fun hkind => (hclosed hkind).trans_le (hontime.clock_le s)⟩

theorem Opens.ruled {agent : Agent} {now : ℕ} (h : Opens s now auction agent)
    (hunheard : accepted log id = []) : Ruled log id auction where
  priced := h.priced
  reserved := h.reserved
  nonneg := h.unbid.1.ge
  leader := ⟨fun _ => h.unbid.1, fun _ => h.unbid.2⟩
  top x hx := by
    rw [hunheard] at hx
    cases hx
  attained := .inl h.unbid.1
  floor _ := .inl h.unbid.1
  unbought _ _ := h.unbid.1
  ends hkind := (h.phases hkind).1
  sold hwon := by cases h.active.symm.trans hwon

def WonIn (s : State) (id : ℕ) : Prop :=
  ∃ auction, s.auction.get? id = some auction ∧ auction.status = .won

/-- The invocation makes the auction a won one. -/
def Settles (self hub : Address) (id : ℕ) (e : State × Action) : Prop :=
  ¬ WonIn e.1 id ∧ After (WonIn · id) (next self hub e.2 e.1)

/-- One invocation settled the auction, and after it the agent is the leader's. -/
def WonOnce (self hub : Address) (log : List (State × Action)) (id : ℕ) (auction : Auction) : Prop :=
  ∃ recent e old, log = recent ++ e :: old ∧ Settles self hub id e ∧
    After (fun s => ∃ agent, s.agent.get? auction.agentId = some agent ∧
      auction.highestBidder = some agent.owner) (next self hub e.2 e.1) ∧
    ∀ r ∈ recent ++ old, ¬ Settles self hub id r

/-- The end moves up only, the lead moves to bids of the auction's kind, and English bids ascend
from the start price. -/
structure Continues (a : Action) (id : ℕ) (auction auction' : Auction) : Prop where
  later : auction.endTime ≤ auction'.endTime
  own : auction'.highestBid ≠ auction.highestBid →
    a.bid? = some (id, auction.auctionType, auction'.highestBid)
  ascending : auction.auctionType = .english → ∀ bidder amount,
    a.raises? = some (id, bidder, amount) →
      auction.highestBid < amount ∧ auction.startPrice ≤ amount

structure Rules (market hub : Address) (log : List (State × Action)) (s : State) : Prop where
  numbered : Numbered s
  ruled : ∀ id auction, s.auction.get? id = some auction → Ruled log id auction
  unheard : ∀ id, s.auction.get? id = none → accepted log id = []
  unsettled : ∀ id, ¬ WonIn s id → ∀ e ∈ log, ¬ Settles market hub id e
  settled : ∀ id auction, s.auction.get? id = some auction → auction.status = .won →
    WonOnce market hub log id auction
  continues : ∀ e ∈ log, ∀ s', next market hub e.2 e.1 = .ok s' → ∀ id auction,
    e.1.auction.get? id = some auction →
      ∃ auction', s'.auction.get? id = some auction' ∧ Continues e.2 id auction auction'

/-- An auction is as it was, or a call on the marketplace made a step of it. -/
theorem auction_next {a : Action} (hnumbered : Numbered s) (h : next self hub a s = .ok s')
    (hfound : s.auction.get? id = some auction) :
    ∃ auction', s'.auction.get? id = some auction' ∧ ((a.bid? = none ∧ a.raises? = none ∧
      auction' = auction) ∨ ∃ env op, a = .call env op ∧
        AuctionStep env.timestamp s'.agent op id auction auction') := by
  cases a with
  | call env op =>
    obtain ⟨auction', hfound', hstep⟩ := auction_effect hnumbered (invoke_effect h) hfound
    exact ⟨auction', hfound', .inr ⟨env, op, rfl, hstep⟩⟩
  | hub env op =>
    exact ⟨auction, by rw [(hub_aside h).auction, hfound], .inl ⟨rfl, rfl, rfl⟩⟩

theorem Numbered.next {a : Action} (hnumbered : Numbered s) (hfair : a.Fair s)
    (h : next self hub a s = .ok s') : Numbered s' := by
  cases a with
  | call env op => exact numbered_effect hnumbered (Op.Fair.starts hfair) (invoke_effect h)
  | hub env op => exact hnumbered.aside (hub_aside h)

/-- A bid is on an auction that is there, and not above the lead afterwards. -/
theorem bidOn_lands {a : Action} {amount : ℤ} (h : next self hub a s = .ok s')
    (hbid : a.bidOn id = some amount) :
    (∃ auction, s.auction.get? id = some auction) ∧
      ∀ auction, s'.auction.get? id = some auction → amount ≤ auction.highestBid := by
  obtain ⟨kind, hbid⟩ := bidOn_some.mp hbid
  cases a with
  | call env op => exact bid_lands hbid h
  | hub env op => cases hbid

theorem Rules.continues_next {a : Action} (hrules : Rules self hub log s) (hfair : a.Fair s)
    (h : next self hub a s = .ok s') (hfound : s.auction.get? id = some auction) :
    ∃ auction', s'.auction.get? id = some auction' ∧ Continues a id auction auction' := by
  have hruled := hrules.ruled id auction hfound
  obtain ⟨auction', hfound', hnext⟩ := auction_next hrules.numbered h hfound
  refine ⟨auction', hfound', ?_⟩
  rcases hnext with ⟨-, hraises, rfl⟩ | ⟨env, op, rfl, hstep⟩
  · refine ⟨le_rfl, fun hne => absurd rfl hne, ?_⟩
    intro _ bidder amount hbid
    rw [hraises] at hbid
    cases hbid
  · refine ⟨?_, ?_, ?_⟩
    · cases hstep with
      | raised _ _ _ _ _ _ _ _ _ later => exact later
      | same | won | unsold | ended | boughtNow | outbid => exact le_rfl
    · intro hne
      exact (hruled.rises hfair hfound hstep).2.resolve_left hne
    · intro _ bidder amount hraises
      obtain ⟨there, least, hthere, hleast, habove⟩ := raise_lands hraises h
      cases hfound.symm.trans hthere
      have hne := (Op.Fair.raises hfair hraises hfound).2
      obtain ⟨hlead, hfirst⟩ := minBid_le hleast habove hruled.priced hruled.nonneg hne
      refine ⟨hlead, ?_⟩
      rcases hruled.floor (Op.Fair.raises hfair hraises hfound).1 with hzero | hstart
      · exact hfirst hzero
      · omega

/-- Whoever settles an auction leaves the agent with its leader. -/
theorem settles_owner {a : Action} (hnumbered : Numbered s) (hfair : a.Fair s)
    (h : next self hub a s = .ok s') (hopen : ¬ WonIn s id)
    (hfound : s.auction.get? id = some auction) (hfound' : s'.auction.get? id = some auction')
    (hwon : auction'.status = .won) :
    ∃ agent, s'.agent.get? auction'.agentId = some agent ∧
      auction'.highestBidder = some agent.owner := by
  have hbefore : auction.status ≠ .won := fun hw => hopen ⟨auction, hfound, hw⟩
  obtain ⟨found, hthere, hnext⟩ := auction_next hnumbered h hfound
  cases hfound'.symm.trans hthere
  rcases hnext with ⟨-, -, rfl⟩ | ⟨env, op, rfl, hstep⟩
  · exact absurd hwon hbefore
  · cases hstep with
    | same => exact absurd hwon hbefore
    | raised => exact absurd hwon hbefore
    | outbid => exact absurd hwon hbefore
    | ended => cases hwon
    | won buyer is active past leader met paid =>
      obtain ⟨agent, hagent, howner⟩ := paid
      exact ⟨agent, hagent, by rw [howner]; exact leader⟩
    | boughtNow buyer amount is positive dutch active met paid =>
      obtain ⟨agent, hagent, howner⟩ := paid
      exact ⟨agent, hagent, by rw [howner]; rfl⟩
    | unsold is active leaderless met =>
      subst is
      exact absurd met (not_le.mpr (hfair auction hfound leaderless))

theorem after_ok {P : State → Prop} {a : Action} (h : next self hub a s = .ok s') (hs : P s') :
    After P (next self hub a s) := by
  rw [h]
  exact hs

theorem WonOnce.later {a : Action} (h : WonOnce self hub log id auction)
    (hnot : ¬ Settles self hub id (s, a)) : WonOnce self hub ((s, a) :: log) id auction := by
  obtain ⟨recent, e, old, rfl, hsettles, howner, honly⟩ := h
  refine ⟨(s, a) :: recent, e, old, rfl, hsettles, howner, ?_⟩
  intro r hr
  rcases List.mem_cons.mp hr with rfl | hr
  · exact hnot
  · exact honly r hr

theorem Rules.won_next {a : Action} (hrules : Rules self hub log s)
    (hontime : OnTime Action.time log a) (h : next self hub a s = .ok s')
    (hfound : s.auction.get? id = some auction) (hwon : auction.status = .won) :
    s'.auction.get? id = some auction := by
  obtain ⟨auction', hfound', hnext⟩ := auction_next hrules.numbered h hfound
  rcases hnext with ⟨-, -, rfl⟩ | ⟨env, op, rfl, hstep⟩
  · exact hfound'
  · rw [hfound', (hrules.ruled id auction hfound).won_stays hwon (hontime _ rfl) hstep]

theorem Rules.unbid {a : Action} (hrules : Rules self hub log s) (h : next self hub a s = .ok s')
    (hnone : s.auction.get? id = none) : accepted ((s, a) :: log) id = [] := by
  rw [List.eq_nil_iff_forall_not_mem]
  intro x hx
  rcases mem_accepted_cons.mp hx with hbid | hold
  · obtain ⟨⟨auction, hfound⟩, -⟩ := bidOn_lands h hbid
    cases hnone.symm.trans hfound
  · rw [hrules.unheard id hnone] at hold
    cases hold

theorem Rules.ruled_next {a : Action} (hrules : Rules self hub log s)
    (hontime : OnTime Action.time log a) (hfair : a.Fair s) (h : next self hub a s = .ok s')
    (hfound' : s'.auction.get? id = some auction') : Ruled ((s, a) :: log) id auction' := by
  cases hfound : s.auction.get? id with
  | none =>
    have hunbid := hrules.unbid h hfound
    cases a with
    | call env op =>
      obtain ⟨agent, hopens, -⟩ := opened_effect (invoke_effect h) hfound hfound'
      exact hopens.ruled hunbid
    | hub env op =>
      rw [(hub_aside h).auction, hfound] at hfound'
      cases hfound'
  | some auction =>
    have hruled := hrules.ruled id auction hfound
    obtain ⟨found, hthere, hnext⟩ := auction_next hrules.numbered h hfound
    cases hfound'.symm.trans hthere
    rcases hnext with ⟨hbid, -, rfl⟩ | ⟨env, op, rfl, hstep⟩
    · exact hruled.later hbid hontime
    · exact hruled.step hfair hontime hfound hstep fun x hx =>
        (bidOn_lands h hx).2 auction' hfound'

theorem Rules.next {a : Action} (hrules : Rules self hub log s)
    (hontime : OnTime Action.time log a) (hfair : a.Fair s) (h : next self hub a s = .ok s') :
    Rules self hub ((s, a) :: log) s' := by
  have hkept : ∀ id, WonIn s id → WonIn s' id := by
    rintro id ⟨auction, hfound, hwon⟩
    exact ⟨auction, hrules.won_next hontime h hfound hwon, hwon⟩
  refine ⟨hrules.numbered.next hfair h, ?_, ?_, ?_, ?_, ?_⟩
  · exact fun id auction hfound => hrules.ruled_next hontime hfair h hfound
  · intro id hnone
    refine hrules.unbid h ?_
    by_contra hsome
    obtain ⟨auction, hfound⟩ := Option.ne_none_iff_exists'.mp hsome
    obtain ⟨auction', hfound', -⟩ := auction_next hrules.numbered h hfound
    cases hnone.symm.trans hfound'
  · intro id hopen e he
    rcases List.mem_cons.mp he with rfl | he
    · rintro ⟨-, hsettled⟩
      rw [h] at hsettled
      exact hopen hsettled
    · exact hrules.unsettled id (fun hwon => hopen (hkept id hwon)) e he
  · intro id auction' hfound' hwon
    by_cases hbefore : WonIn s id
    · obtain ⟨auction, hfound, hwonbefore⟩ := hbefore
      cases hfound'.symm.trans (hrules.won_next hontime h hfound hwonbefore)
      exact (hrules.settled id _ hfound hwonbefore).later fun hsettles =>
        hsettles.1 ⟨_, hfound, hwonbefore⟩
    · have hsettles : Settles self hub id (s, a) :=
        ⟨hbefore, after_ok h ⟨auction', hfound', hwon⟩⟩
      have howner : ∃ agent, s'.agent.get? auction'.agentId = some agent ∧
          auction'.highestBidder = some agent.owner := by
        cases hfound : s.auction.get? id with
        | none =>
          -- An auction that has just been opened is active.
          cases a with
          | call env op =>
            obtain ⟨agent, hopens, -⟩ := opened_effect (invoke_effect h) hfound hfound'
            cases hopens.active.symm.trans hwon
          | hub env op =>
            rw [(hub_aside h).auction, hfound] at hfound'
            cases hfound'
        | some auction =>
          exact settles_owner hrules.numbered hfair h hbefore hfound hfound' hwon
      exact ⟨[], (s, a), log, rfl, hsettles, after_ok h howner, hrules.unsettled id hbefore⟩
  · intro e he t ht id auction hfound
    rcases List.mem_cons.mp he with rfl | he
    · cases h.symm.trans ht
      exact hrules.continues_next hfair h hfound
    · exact hrules.continues e he t ht id auction hfound

theorem rules_deployed (agents : Store ℕ Agent) : Rules self hub [] (deployed agents) where
  numbered _ _ h := by cases h
  ruled _ _ h := by cases h
  unheard _ _ := rfl
  unsettled _ _ _ he := by cases he
  settled _ _ h := by cases h
  continues _ he := by cases he

/-- In every run in which ascending bids are made on English auctions, not at a lead whose
increment is rounded away, and no auction without a bid is finalized at a reserve of zero: the
lead of an auction moves to bids of its own kind, English bids ascend from the start price, the
end only moves up, and an auction is won once, by the highest of its bids, at the reserve or
above. -/
theorem auctions_follow_rules {agents : Store ℕ Agent}
    (hrun : History (next self hub) (fun log s a => OnTime Action.time log a ∧ a.Fair s)
      (deployed agents) log s) :
    (∀ e ∈ log, ∀ s', next self hub e.2 e.1 = .ok s' → ∀ id auction,
      e.1.auction.get? id = some auction →
        ∃ auction', s'.auction.get? id = some auction' ∧ Continues e.2 id auction auction') ∧
    ∀ id auction, s.auction.get? id = some auction → auction.status = .won →
      auction.reservePrice ≤ auction.highestBid ∧
      auction.highestBid ∈ accepted log id ∧ (∀ x ∈ accepted log id, x ≤ auction.highestBid) ∧
      WonOnce self hub log id auction := by
  have hrules : Rules self hub log s := by
    refine hrun.preserves (P := fun log s => Rules self hub log s) (rules_deployed agents) ?_
    rintro log s a s' ⟨hontime, hfair⟩ hn hrules
    exact hrules.next hontime hfair hn
  refine ⟨hrules.continues, ?_⟩
  intro id auction hfound hwon
  have hruled := hrules.ruled id auction hfound
  obtain ⟨hleader, hmet, -⟩ := hruled.sold hwon
  refine ⟨hmet, ?_, hruled.top, hrules.settled id auction hfound hwon⟩
  exact hruled.attained.resolve_left fun hzero => hleader (hruled.leader.mpr hzero)

end Steps

section Runs

open Sample

/-- An English auction is extended and won, a Dutch one is bought, and the winner of the first
sells by sealed bids. -/
def threeKinds : List (ℕ × Op) := [
  (0, .initContract admin),
  (1, .createAuctionWithExtension 1 alice 100 50 1 none none none),
  (2, .createDutchAuction 2 alice 1000 0 1),
  (3, .placeBid 1 bob 100),
  (43202, .dutchBuyNow 2 carol 500),
  (86400, .placeBidWithExtension 1 carol 101),
  (86500, .placeBid 1 bob 150),
  (86702, .finalizeAuction 1),
  (86703, .createSealedBidAuction 1 bob 100 50 10 20),
  (86710, .commitBid 3 alice [1] 90),
  (86711, .commitBid 3 carol [2] 90),
  (86714, .revealBid 3 alice 60 "a"),
  (86715, .revealBid 3 carol 55 "c"),
  (86734, .finalizeSealedAuction 3)]

theorem auctions_follow_rules_threeKinds :
    ∃ s log, History (next market hubContract)
        (fun log s a => OnTime Action.time log a ∧ a.Fair s) start log s ∧
      accepted log 1 = [150, 101, 100] ∧ accepted log 2 = [500] ∧ accepted log 3 = [55, 60] ∧
      ∀ id ∈ [1, 2, 3], ∃ auction, s.auction.get? id = some auction ∧
        auction.reservePrice ≤ auction.highestBid ∧
        WonOnce market hubContract log id auction := by
  have h : After (fun h => accepted h.1 1 = [150, 101, 100] ∧ accepted h.1 2 = [500] ∧
        accepted h.1 3 = [55, 60] ∧
        ∀ id ∈ [1, 2, 3], ∃ auction ∈ h.2.auction.get? id, auction.status = .won)
      (record (next market hubContract) (fun log s a => OnTime Action.time log a ∧ a.Fair s)
        (calls threeKinds) ([], start)) := by
    decide +kernel
  obtain ⟨⟨log, s⟩, hrec, hfirst, hsecond, hthird, hwon⟩ := h.exists_ok
  have hrun : History (next market hubContract)
      (fun log s a => OnTime Action.time log a ∧ a.Fair s) start log s :=
    record_map_history hrec fun _ _ _ _ hok => hok
  refine ⟨s, log, hrun, hfirst, hsecond, hthird, ?_⟩
  intro id hid
  obtain ⟨auction, hfound, hstatus⟩ := hwon id hid
  obtain ⟨hmet, -, -, honce⟩ := (auctions_follow_rules hrun).2 id auction hfound hstatus
  exact ⟨auction, hfound, hmet, honce⟩

/-- One percent of ten is rounded down to nothing. -/
def tie : List (ℕ × Op) := [
  (0, .initContract admin),
  (1, .createAuction 1 alice 10 10 1 none),
  (2, .placeBid 1 bob 10),
  (3, .placeBid 1 carol 10)]

theorem tie_is_accepted :
    ¬ ∀ log s, History (next market hubContract) (fun log _ a => OnTime Action.time log a)
        start log s →
      ∀ e ∈ log, ∀ id auction bidder amount, e.1.auction.get? id = some auction →
        auction.auctionType = .english → e.2.raises? = some (id, bidder, amount) →
          auction.highestBid < amount := by
  intro hall
  have h : After (fun h => ∃ e ∈ h.1, ∃ auction ∈ e.1.auction.get? 1,
        auction.auctionType = .english ∧ auction.highestBid = 10 ∧
        e.2.raises? = some (1, carol, 10))
      (record (next market hubContract) (fun log _ a => OnTime Action.time log a)
        (calls tie) ([], start)) := by
    decide +kernel
  obtain ⟨⟨log, s⟩, hrec, e, he, auction, hfound, hkind, hlead, hraises⟩ := h.exists_ok
  have hrun : History (next market hubContract) (fun log _ a => OnTime Action.time log a)
      start log s :=
    record_map_history hrec fun _ _ _ _ hok => hok
  have hlt := hall log s hrun e he 1 auction carol 10 hfound hkind hraises
  omega

end Runs

end Marketplace
