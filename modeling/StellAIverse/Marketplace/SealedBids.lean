import StellAIverse.Marketplace.AuctionRules

/-!
# Sealed bids

A commitment stands once the commit phase is over, and the lead of a sealed auction
moves in the reveal phase only, as long as nobody raises it by an ascending bid. What
a reveal says is not compared with the commitment or the deposit, so it is bound by
them in the runs in which bidders reveal what they committed to.
-/

namespace Marketplace

open Soroban

/-- What a commitment of a bidder in an auction opens to: an amount and a nonce. -/
abbrev Opening : Type := ℕ → Address → Bytes → ℤ × String

/-- A reveal opens the stored commitment, within the deposit. -/
def OpensCommit (opening : Opening) (s : State) (id : ℕ) (bidder : Address) (amount : ℤ)
    (nonce : String) : Prop :=
  ∀ commit ∈ s.sealedCommit.get? (id, bidder),
    opening id bidder commit.commitment = (amount, nonce) ∧ amount ≤ commit.deposit

instance (opening : Opening) (s : State) (id : ℕ) (bidder : Address) (amount : ℤ)
    (nonce : String) : Decidable (OpensCommit opening s id bidder amount nonce) :=
  inferInstanceAs (Decidable (∀ _ ∈ _, _ ∧ _))

/-- Reveals open their commitments, and nobody raises a sealed auction. -/
def Op.Binding (opening : Opening) (s : State) : Op → Prop
  | .initContract _ => s.auctionCounter.getD 0 = 0
  | .placeBid auctionId _ _ | .placeBidWithExtension auctionId _ _ =>
    ∀ auction ∈ s.auction.get? auctionId, auction.auctionType ≠ .sealed
  | .revealBid auctionId bidder amount nonce => OpensCommit opening s auctionId bidder amount nonce
  | _ => True

instance (opening : Opening) (s : State) : (op : Op) → Decidable (op.Binding opening s)
  | .initContract _ => inferInstanceAs (Decidable (s.auctionCounter.getD 0 = 0))
  | .placeBid .. => inferInstanceAs (Decidable (∀ _ ∈ _, _))
  | .placeBidWithExtension .. => inferInstanceAs (Decidable (∀ _ ∈ _, _))
  | .revealBid .. => inferInstanceAs (Decidable (OpensCommit ..))
  | .setExecutionHub .. | .setPlatformFee .. | .setRoyalty .. | .createListing ..
  | .batchCreateListings .. | .cancelListing .. | .batchCancelListings ..
  | .cleanupExpiredListings .. | .buyAgent .. | .verifySale .. | .transferOwnership ..
  | .recordSale .. | .callback .. | .makeOffer .. | .acceptOffer .. | .rejectOffer ..
  | .makeCounterOffer .. | .acceptCounterOffer .. | .rejectCounterOffer .. | .createAuction ..
  | .createAuctionWithExtension .. | .finalizeAuction .. | .createDutchAuction ..
  | .dutchBuyNow .. | .createSealedBidAuction .. | .commitBid .. | .finalizeSealedAuction ..
  | .createCollection .. | .addToCollection .. | .removeFromCollection ..
  | .setCollectionRoyalty .. | .createNftListing .. | .buyNftListing .. | .cancelNftListing .. =>
    .isTrue trivial

def Action.Binding (opening : Opening) (s : State) : Action → Prop
  | .call _ op => op.Binding opening s
  | .hub _ _ => True

instance (opening : Opening) (s : State) : (a : Action) → Decidable (a.Binding opening s)
  | .call _ op => inferInstanceAs (Decidable (op.Binding opening s))
  | .hub _ _ => .isTrue trivial

/-- The auction, the bidder, and the amount and the nonce that a reveal states. -/
def Action.reveal? : Action → Option (ℕ × Address × ℤ × String)
  | .call _ (.revealBid auctionId bidder amount nonce) => some (auctionId, bidder, amount, nonce)
  | _ => none

/-- The auction, the bidder, and the commitment and the deposit. -/
def Action.commit? : Action → Option (ℕ × Address × Bytes × ℤ)
  | .call _ (.commitBid auctionId bidder commitment deposit) =>
    some (auctionId, bidder, commitment, deposit)
  | _ => none

/-- The commit phase of an auction ends at this time. -/
def CommitEnd (s : State) (id commitEnd : ℕ) : Prop :=
  ∃ auction, s.auction.get? id = some auction ∧ auction.sealedCommitEnd = some commitEnd

/-- A commitment was made in the commit phase. -/
def CommittedIn (log : List (State × Action)) (s : State) (id : ℕ) (bidder : Address)
    (commitment : Bytes) (deposit : ℤ) : Prop :=
  ∃ e ∈ log, e.2.commit? = some (id, bidder, commitment, deposit) ∧
    ∃ t commitEnd, e.2.time = some t ∧ CommitEnd s id commitEnd ∧ t ≤ commitEnd

structure Bound (opening : Opening) (log : List (State × Action)) (s : State) : Prop where
  numbered : Numbered s
  committed : ∀ id bidder commit, s.sealedCommit.get? (id, bidder) = some commit →
    CommittedIn log s id bidder commit.commitment commit.deposit
  revealed : ∀ e ∈ log, ∀ id bidder amount nonce, e.2.reveal? = some (id, bidder, amount, nonce) →
    ∃ commit commitEnd, s.sealedCommit.get? (id, bidder) = some commit ∧
      opening id bidder commit.commitment = (amount, nonce) ∧ amount ≤ commit.deposit ∧
      CommitEnd s id commitEnd ∧ commitEnd < clock Action.time log

section Steps

variable {self hub : Address} {env : Env} {op : Op} {a : Action} {s s' : State} {id : ℕ}
  {auction auction' : Auction} {log : List (State × Action)} {opening : Opening}

theorem Op.Binding.starts (h : op.Binding opening s) : op.Starts s := by
  cases op with
  | initContract => exact h
  | _ => trivial

theorem Op.Binding.raises {bidder : Address} {amount : ℤ} (h : op.Binding opening s)
    (hraises : op.raises? = some (id, bidder, amount)) (hfound : s.auction.get? id = some auction) :
    auction.auctionType ≠ .sealed := by
  cases op with
  | placeBid | placeBidWithExtension =>
    cases hraises
    exact h auction hfound
  | _ => cases hraises

/-- What can be seen of the bids on an auction is as it was. -/
structure Undisclosed (s s' : State) (id : ℕ) (auction auction' : Auction) : Prop where
  bid : auction'.highestBid = auction.highestBid
  bidder : auction'.highestBidder = auction.highestBidder
  price : auction'.currentPrice = auction.currentPrice
  reveals : ∀ b, s'.sealedReveal.get? (id, b) = s.sealedReveal.get? (id, b)
  records : s'.bidRecord.get? id = s.bidRecord.get? id

/-- The invocation is a reveal in the auction, in its reveal phase. -/
def RevealsIn (a : Action) (id : ℕ) (auction : Auction) : Prop :=
  ∃ bidder amount nonce t commitEnd revealEnd, a.reveal? = some (id, bidder, amount, nonce) ∧
    a.time = some t ∧ auction.sealedCommitEnd = some commitEnd ∧
    auction.sealedRevealEnd = some revealEnd ∧ commitEnd < t ∧ t ≤ revealEnd

theorem bid_discloses (heffect : Bid env s op s') (hbinding : op.Binding opening s)
    (hfound : s.auction.get? id = some auction) (hkind : auction.auctionType = .sealed) :
    ∃ auction', s'.auction.get? id = some auction' ∧
      (Undisclosed s s' id auction auction' ∨ RevealsIn (.call env op) id auction) := by
  cases heffect with
  | raised _ auctionId _ _ _ old _ bids is _ found =>
    have hid : id ≠ auctionId := by
      rintro rfl
      exact hbinding.raises is hfound hkind
    exact ⟨auction, (Store.get?_set_ne s.auction _ hid).trans hfound,
      .inl ⟨rfl, rfl, rfl, fun _ => rfl, Store.get?_set_ne s.bidRecord bids hid⟩⟩
  | boughtNow auctionId _ _ old _ _ _ found dutch =>
    have hid : id ≠ auctionId := by
      rintro rfl
      cases found.symm.trans hfound
      cases dutch.symm.trans hkind
    exact ⟨auction, (Store.get?_set_ne s.auction _ hid).trans hfound,
      .inl ⟨rfl, rfl, rfl, fun _ => rfl, rfl⟩⟩
  | revealed auctionId bidder amount nonce old commitEnd revealEnd commit positive found kind phases
      between =>
    change ∃ auction', (if amount > old.highestBid then _ else s.auction).get? id = _ ∧ _
    by_cases hid : id = auctionId
    · subst hid
      cases hfound.symm.trans found
      have hreveals : RevealsIn (.call env (.revealBid id bidder amount nonce)) id auction :=
        ⟨bidder, amount, nonce, env.timestamp, commitEnd, revealEnd, rfl, rfl, phases.1, phases.2,
          between.1, between.2⟩
      split
      · exact ⟨_, Store.get?_set_self .., .inr hreveals⟩
      · exact ⟨auction, hfound, .inr hreveals⟩
    · have hsame : ∀ b, (s.sealedReveal.set (auctionId, bidder)
          ⟨bidder, amount, nonce, commit.deposit, env.timestamp⟩).get? (id, b) =
            s.sealedReveal.get? (id, b) := by
        intro b
        exact Store.get?_set_ne s.sealedReveal _ fun he => hid (Prod.mk.inj he).1
      refine ⟨auction, ?_, .inl ⟨rfl, rfl, rfl, hsame, rfl⟩⟩
      split
      · exact (Store.get?_set_ne s.auction _ hid).trans hfound
      · exact hfound

theorem effect_discloses (hnumbered : Numbered s) (heffect : Effect self hub env s op s')
    (hbinding : op.Binding opening s) (hfound : s.auction.get? id = some auction)
    (hkind : auction.auctionType = .sealed) :
    ∃ auction', s'.auction.get? id = some auction' ∧
      (Undisclosed s s' id auction auction' ∨ RevealsIn (.call env op) id auction) := by
  have haside : Aside s s' → ∃ auction', s'.auction.get? id = some auction' ∧
      (Undisclosed s s' id auction auction' ∨ RevealsIn (.call env op) id auction) := by
    intro ha
    refine ⟨auction, by rw [ha.auction, hfound], .inl ⟨rfl, rfl, rfl, ?_, by rw [ha.bidRecord]⟩⟩
    intro b
    rw [ha.sealedReveal]
  -- An auction that is settled keeps its bids.
  have hstatus : ∀ {auctionId : ℕ} {old : Auction} (status : AuctionStatus),
      s.auction.get? auctionId = some old →
      ∃ auction', (s.auction.set auctionId { old with status }).get? id = some auction' ∧
        auction'.highestBid = auction.highestBid ∧
        auction'.highestBidder = auction.highestBidder ∧
        auction'.currentPrice = auction.currentPrice := by
    intro auctionId old status hold
    by_cases hid : id = auctionId
    · subst hid
      cases hold.symm.trans hfound
      exact ⟨_, Store.get?_set_self .., rfl, rfl, rfl⟩
    · exact ⟨auction, (Store.get?_set_ne s.auction _ hid).trans hfound, rfl, rfl, rfl⟩
  cases heffect with
  | listed _ _ chain => exact haside (.chain (fun _ _ => Listed.aside) chain)
  | takenDown _ _ chain => exact haside (.chain (fun _ _ => TakenDown.aside) chain)
  | called _ _ effect => exact haside effect.aside
  | bid _ _ effect => exact bid_discloses effect hbinding hfound hkind
  | opened _ new agent extensionConfig opens =>
    have hid : id ≠ new.auctionId := by
      have := hnumbered id auction hfound
      rw [opens.numbered]
      omega
    exact ⟨auction, (Store.get?_set_ne s.auction new hid).trans hfound,
      .inl ⟨rfl, rfl, rfl, fun _ => rfl, rfl⟩⟩
  | won _ auctionId _ old _ _ _ found =>
    obtain ⟨auction', hfound', hbid, hbidder, hprice⟩ := hstatus .won found
    exact ⟨auction', hfound', .inl ⟨hbid, hbidder, hprice, fun _ => rfl, rfl⟩⟩
  | unsold auctionId old found =>
    obtain ⟨auction', hfound', hbid, hbidder, hprice⟩ := hstatus .won found
    exact ⟨auction', hfound', .inl ⟨hbid, hbidder, hprice, fun _ => rfl, rfl⟩⟩
  | ended _ auctionId old _ _ _ found =>
    obtain ⟨auction', hfound', hbid, hbidder, hprice⟩ := hstatus .ended found
    exact ⟨auction', hfound', .inl ⟨hbid, hbidder, hprice, fun _ => rfl, rfl⟩⟩
  | administered | initialized | committed | grouped | added | removed | shared
  | nftSold => exact ⟨auction, hfound, .inl ⟨rfl, rfl, rfl, fun _ => rfl, rfl⟩⟩

theorem next_discloses (hnumbered : Numbered s) (h : next self hub a s = .ok s')
    (hbinding : a.Binding opening s) (hfound : s.auction.get? id = some auction)
    (hkind : auction.auctionType = .sealed) :
    ∃ auction', s'.auction.get? id = some auction' ∧
      (Undisclosed s s' id auction auction' ∨ RevealsIn a id auction) := by
  cases a with
  | call env op => exact effect_discloses hnumbered (invoke_effect h) hbinding hfound hkind
  | hub env op =>
    have ha := hub_aside h
    refine ⟨auction, by rw [ha.auction, hfound], .inl ⟨rfl, rfl, rfl, ?_, by rw [ha.bidRecord]⟩⟩
    intro b
    rw [ha.sealedReveal]

theorem CommitEnd.next {commitEnd : ℕ} (h : CommitEnd s id commitEnd) (hnumbered : Numbered s)
    (hn : next self hub a s = .ok s') : CommitEnd s' id commitEnd := by
  obtain ⟨auction, hfound, hend⟩ := h
  obtain ⟨auction', hfound', hnext⟩ := auction_next hnumbered hn hfound
  refine ⟨auction', hfound', ?_⟩
  rcases hnext with ⟨-, -, rfl⟩ | ⟨env, op, -, hstep⟩
  · exact hend
  · cases hstep with
    | same | raised | won | unsold | ended | boughtNow | outbid => exact hend

theorem CommitEnd.unique {commitEnd commitEnd' : ℕ} (h : CommitEnd s id commitEnd)
    (h' : CommitEnd s id commitEnd') : commitEnd = commitEnd' := by
  obtain ⟨auction, hfound, hend⟩ := h
  obtain ⟨auction', hfound', hend'⟩ := h'
  cases hfound.symm.trans hfound'
  exact Option.some.inj (hend.symm.trans hend')

/-- The invocation stores a commitment, in the commit phase. -/
def Commits (s s' : State) (a : Action) (id : ℕ) (bidder : Address) : Prop :=
  ∃ commit t commitEnd, s'.sealedCommit.get? (id, bidder) = some commit ∧
    a.commit? = some (id, bidder, commit.commitment, commit.deposit) ∧ a.time = some t ∧
    CommitEnd s id commitEnd ∧ t ≤ commitEnd

/-- A commitment is as it was, or has just been made. -/
theorem commits_next (h : next self hub a s = .ok s') (id : ℕ) (bidder : Address) :
    s'.sealedCommit.get? (id, bidder) = s.sealedCommit.get? (id, bidder) ∨
      Commits s s' a id bidder := by
  cases a with
  | hub env op => exact .inl (by rw [(hub_aside h).sealedCommit])
  | call env op =>
    have heffect := invoke_effect h
    cases heffect with
    | listed _ _ chain =>
      have ha : Aside s s' := .chain (fun _ _ => Listed.aside) chain
      exact .inl (by rw [ha.sealedCommit])
    | takenDown _ _ chain =>
      have ha : Aside s s' := .chain (fun _ _ => TakenDown.aside) chain
      exact .inl (by rw [ha.sealedCommit])
    | called _ _ effect => exact .inl (by rw [effect.aside.sealedCommit])
      | bid _ _ effect => cases effect <;> exact .inl rfl
    | committed auctionId bidder' commitment deposit auction commitEnd found kind phase early =>
      by_cases hkey : (id, bidder) = (auctionId, bidder')
      · cases hkey
        exact .inr ⟨_, env.timestamp, commitEnd, Store.get?_set_self .., rfl, rfl,
          ⟨auction, found, phase⟩, early⟩
      · exact .inl (Store.get?_set_ne s.sealedCommit _ hkey)
    | administered | initialized | opened | won | unsold | ended | grouped | added | removed
    | shared | nftSold => exact .inl rfl

/-- A reveal finds the commitment of the bidder, after the commit phase. -/
theorem reveal_finds {bidder : Address} {amount : ℤ} {nonce : String}
    (h : next self hub a s = .ok s') (hreveal : a.reveal? = some (id, bidder, amount, nonce)) :
    ∃ commit commitEnd t, s.sealedCommit.get? (id, bidder) = some commit ∧
      CommitEnd s id commitEnd ∧ a.time = some t ∧ commitEnd < t := by
  cases a with
  | hub env op => cases hreveal
  | call env op =>
    cases op with
    | revealBid auctionId bidder' amount' nonce' =>
      cases hreveal
      have hbid : Bid env s _ s' := revealBid_bid h
      cases hbid with
      | raised _ _ _ _ _ _ _ _ is => cases is
      | revealed _ _ _ _ auction commitEnd revealEnd commit _ found _ phases between committed =>
        exact ⟨commit, commitEnd, env.timestamp, committed, ⟨auction, found, phases.1⟩, rfl,
          between.1⟩
    | _ => cases hreveal

theorem Bound.next (hbound : Bound opening log s) (hontime : OnTime Action.time log a)
    (hbinding : a.Binding opening s) (h : next self hub a s = .ok s') :
    Bound opening ((s, a) :: log) s' := by
  have hstarts : Numbered s' := by
    cases a with
    | call env op =>
      exact numbered_effect hbound.numbered (Op.Binding.starts hbinding) (invoke_effect h)
    | hub env op => exact hbound.numbered.aside (hub_aside h)
  refine ⟨hstarts, ?_, ?_⟩
  · intro id bidder commit hcommit
    rcases commits_next h id bidder with hsame | ⟨new, t, commitEnd, hnew, hmade, ht, hend, hearly⟩
    · rw [hsame] at hcommit
      obtain ⟨e, he, hmade, t, commitEnd, ht, hend, hearly⟩ :=
        hbound.committed id bidder commit hcommit
      exact ⟨e, List.mem_cons_of_mem _ he, hmade, t, commitEnd, ht, hend.next hbound.numbered h,
        hearly⟩
    · cases hcommit.symm.trans hnew
      exact ⟨(s, a), List.mem_cons_self, hmade, t, commitEnd, ht, hend.next hbound.numbered h,
        hearly⟩
  · intro e he id bidder amount nonce hreveal
    rcases List.mem_cons.mp he with rfl | he
    · obtain ⟨commit, commitEnd, t, hcommit, hend, ht, hafter⟩ := reveal_finds h hreveal
      have hopens : OpensCommit opening s id bidder amount nonce := by
        cases a with
        | hub env op => cases hreveal
        | call env op =>
          cases op with
          | revealBid =>
            cases hreveal
            exact hbinding
          | _ => cases hreveal
      obtain ⟨hopening, hdeposit⟩ := hopens commit hcommit
      have hkept : s'.sealedCommit.get? (id, bidder) = s.sealedCommit.get? (id, bidder) := by
        rcases commits_next h id bidder with hsame | ⟨_, _, _, _, hmade, _⟩
        · exact hsame
        · cases a with
          | hub env op => cases hreveal
          | call env op => cases op <;> first | cases hreveal; cases hmade | cases hreveal
      refine ⟨commit, commitEnd, hkept.trans hcommit, hopening, hdeposit,
        hend.next hbound.numbered h, ?_⟩
      rw [clock_cons, ht]
      exact hafter
    · obtain ⟨commit, commitEnd, hcommit, hopening, hdeposit, hend, hover⟩ :=
        hbound.revealed e he id bidder amount nonce hreveal
      have hkept : s'.sealedCommit.get? (id, bidder) = s.sealedCommit.get? (id, bidder) := by
        rcases commits_next h id bidder with hsame | ⟨_, t, end', _, _, ht, hend', hearly⟩
        · exact hsame
        · -- The commit phase is over.
          have := hend.unique hend'
          have := hontime t ht
          omega
      exact ⟨commit, commitEnd, hkept.trans hcommit, hopening, hdeposit,
        hend.next hbound.numbered h, hover.trans_le (hontime.clock_le s)⟩

theorem bound_deployed (agents : Store ℕ Agent) : Bound opening [] (deployed agents) where
  numbered _ _ h := by cases h
  committed _ _ _ h := by cases h
  revealed _ he := by cases he

/-- A bidder reveals one amount and one nonce in an auction. -/
def RevealsAgree (log : List (State × Action)) : Prop :=
  ∀ e ∈ log, ∀ e' ∈ log, ∀ id bidder amount nonce amount' nonce',
    e.2.reveal? = some (id, bidder, amount, nonce) →
    e'.2.reveal? = some (id, bidder, amount', nonce') → amount = amount' ∧ nonce = nonce'

/-- A reveal is within the deposit of a commitment of the commit phase that meets a condition. -/
def RevealsCovered (log : List (State × Action)) (s : State)
    (ok : ℕ → Address → Bytes → ℤ → String → Prop) : Prop :=
  ∀ e ∈ log, ∀ id bidder amount nonce, e.2.reveal? = some (id, bidder, amount, nonce) →
    ∃ commitment deposit, CommittedIn log s id bidder commitment deposit ∧
      ok id bidder commitment amount nonce ∧ amount ≤ deposit

/-- What can be seen of the bids on a sealed auction changes by reveals in its reveal phase only. -/
def LeadsInPhase (self hub : Address) (log : List (State × Action)) : Prop :=
  ∀ e ∈ log, ∀ s', next self hub e.2 e.1 = .ok s' → ∀ id auction,
    e.1.auction.get? id = some auction → auction.auctionType = .sealed →
      ∃ auction', s'.auction.get? id = some auction' ∧
        (Undisclosed e.1 s' id auction auction' ∨ RevealsIn e.2 id auction)

/-- In every run in which reveals open the stored commitment within its deposit, and nobody raises
a sealed auction, what a bidder reveals is what a commitment of the commit phase opens to, within
its deposit, and the lead of a sealed auction moves by reveals in its reveal phase only. -/
theorem sealed_bids_bind (opening : Opening) {agents : Store ℕ Agent}
    (hrun : History (next self hub)
      (fun log s a => OnTime Action.time log a ∧ a.Binding opening s) (deployed agents) log s) :
    RevealsAgree log ∧
    RevealsCovered log s (fun id bidder commitment amount nonce =>
      opening id bidder commitment = (amount, nonce)) ∧
    LeadsInPhase self hub log := by
  have hall : Bound opening log s ∧ LeadsInPhase self hub log := by
    refine hrun.preserves (P := fun log s => Bound opening log s ∧ LeadsInPhase self hub log)
      ⟨bound_deployed agents, fun e he => by cases he⟩ ?_
    rintro log s a s' ⟨hontime, hbinding⟩ hn ⟨hbound, hleads⟩
    refine ⟨hbound.next hontime hbinding hn, ?_⟩
    intro e he t ht id auction hfound hkind
    rcases List.mem_cons.mp he with rfl | he
    · exact next_discloses hbound.numbered ht hbinding hfound hkind
    · exact hleads e he t ht id auction hfound hkind
  obtain ⟨hbound, hleads⟩ := hall
  refine ⟨?_, ?_, hleads⟩
  · intro e he e' he' id bidder amount nonce amount' nonce' hreveal hreveal'
    obtain ⟨commit, -, hcommit, hopens, -⟩ := hbound.revealed e he id bidder amount nonce hreveal
    obtain ⟨commit', -, hcommit', hopens', -⟩ :=
      hbound.revealed e' he' id bidder amount' nonce' hreveal'
    cases hcommit.symm.trans hcommit'
    cases hopens.symm.trans hopens'
    exact ⟨rfl, rfl⟩
  · intro e he id bidder amount nonce hreveal
    obtain ⟨commit, -, hcommit, hopens, hdeposit, -⟩ :=
      hbound.revealed e he id bidder amount nonce hreveal
    exact ⟨commit.commitment, commit.deposit, hbound.committed id bidder commit hcommit, hopens,
      hdeposit⟩

end Steps

section Runs

open Sample

/-- A commitment is the amount that it opens to, followed by a nonce of two kinds. -/
def plainly : Opening
  | _, _, amount :: [0] => (amount.toNat, "even")
  | _, _, amount :: _ => (amount.toNat, "odd")
  | _, _, [] => (0, "")

/-- Two bidders commit, one of them twice, and reveal, one of them twice. -/
def secondThoughts : List (ℕ × Op) := [
  (0, .initContract admin),
  (1, .createSealedBidAuction 1 alice 100 50 10 20),
  (2, .commitBid 1 bob [40, 0] 60),
  (3, .commitBid 1 carol [55, 1] 70),
  (11, .commitBid 1 bob [60, 0] 60),
  (12, .revealBid 1 bob 60 "even"),
  (13, .revealBid 1 carol 55 "odd"),
  (14, .revealBid 1 bob 60 "even"),
  (32, .finalizeSealedAuction 1)]

theorem sealed_bids_bind_secondThoughts :
    ∃ s log, History (next market hubContract)
        (fun log s a => OnTime Action.time log a ∧ a.Binding plainly s) start log s ∧
      (∃ agent, s.agent.get? 1 = some agent ∧ agent.owner = bob) ∧ RevealsAgree log ∧
      LeadsInPhase market hubContract log := by
  have h : After (fun h => ∃ agent ∈ h.2.agent.get? 1, agent.owner = bob)
      (record (next market hubContract)
        (fun log s a => OnTime Action.time log a ∧ a.Binding plainly s) (calls secondThoughts)
        ([], start)) := by
    decide +kernel
  obtain ⟨⟨log, s⟩, hrec, agent, hagent, howner⟩ := h.exists_ok
  have hrun : History (next market hubContract)
      (fun log s a => OnTime Action.time log a ∧ a.Binding plainly s) start log s :=
    record_map_history hrec fun _ _ _ _ hok => hok
  obtain ⟨hagree, -, hleads⟩ := sealed_bids_bind plainly hrun
  exact ⟨s, log, hrun, ⟨agent, hagent, howner⟩, hagree, hleads⟩

/-- A bidder reveals twice, first above the deposit. -/
def twoReveals : List (ℕ × Op) := [
  (0, .initContract admin),
  (1, .createSealedBidAuction 1 alice 100 50 10 20),
  (2, .commitBid 1 bob [7] 10),
  (12, .revealBid 1 bob 60 "x"),
  (13, .revealBid 1 bob 55 "y")]

theorem reveals_unbound :
    ¬ ∀ log s, History (next market hubContract) (fun log _ a => OnTime Action.time log a)
        start log s →
      RevealsAgree log ∧ RevealsCovered log s (fun _ _ _ _ _ => True) ∧
        LeadsInPhase market hubContract log := by
  intro hall
  have h : After (fun h => h.1.filterMap (fun e => e.2.reveal?) =
        [(1, bob, 55, "y"), (1, bob, 60, "x")])
      (record (next market hubContract) (fun log _ a => OnTime Action.time log a)
        (calls twoReveals) ([], start)) := by
    decide +kernel
  obtain ⟨⟨log, s⟩, hrec, hreveals⟩ := h.exists_ok
  have hrun : History (next market hubContract) (fun log _ a => OnTime Action.time log a)
      start log s :=
    record_map_history hrec fun _ _ _ _ hok => hok
  have hlogged : ∀ reveal ∈ [(1, bob, (55 : ℤ), "y"), (1, bob, 60, "x")],
      ∃ e ∈ log, e.2.reveal? = some reveal := by
    intro reveal hmem
    rw [← hreveals] at hmem
    exact List.mem_filterMap.mp hmem
  obtain ⟨e, he, hfirst⟩ := hlogged (1, bob, 60, "x") (by simp)
  obtain ⟨e', he', hsecond⟩ := hlogged (1, bob, 55, "y") (by simp)
  have hsame := ((hall log s hrun).1 e he e' he' 1 bob 60 "x" 55 "y" hfirst hsecond).1
  omega

end Runs

end Marketplace
