import StellAIverse.Marketplace.AuctionRules
import StellAIverse.Soroban.Exclusion

/-!
# Escrow is exclusive

An active listing or auction holds its agent, and the lock of an agent says that it is
held. Some operations clear locks and set listings active by themselves, but those of a
sale do nothing without a pending one. What breaks the lock is an auction without a bid
that is finalized at a reserve of zero: it is won by nobody, and the agent stays locked.
-/

namespace Marketplace

open Soroban

/-- What can hold an agent. -/
inductive Hold where
  | listing (listingId : ℕ)
  | auction (auctionId : ℕ)
  deriving DecidableEq

/-- An active listing or auction of an agent, by a seller. -/
def HoldsFor (listings : Store ℕ Listing) (auctions : Store ℕ Auction) (agentId : ℕ) :
    Hold → Address → Prop
  | .listing id, seller => ∃ listing, listings.get? id = some listing ∧ listing.active = true ∧
      listing.assetId = agentId ∧ listing.seller = seller
  | .auction id, seller => ∃ auction, auctions.get? id = some auction ∧ auction.status = .active ∧
      auction.agentId = agentId ∧ auction.seller = seller

def Holds (listings : Store ℕ Listing) (auctions : Store ℕ Auction) (agentId : ℕ) (x : Hold) :
    Prop :=
  ∃ seller, HoldsFor listings auctions agentId x seller

def Locked (agents : Store ℕ Agent) (agentId : ℕ) : Prop :=
  ∃ agent, agents.get? agentId = some agent ∧ agent.escrowLocked = true

section Writes

variable {listings : Store ℕ Listing} {auctions : Store ℕ Auction} {agents : Store ℕ Agent}
  {agentId : ℕ} {x : Hold} {seller : Address}

theorem holds_unique {agentId' : ℕ} (h : Holds listings auctions agentId x)
    (h' : Holds listings auctions agentId' x) : agentId' = agentId := by
  obtain ⟨seller, h⟩ := h
  obtain ⟨seller', h'⟩ := h'
  cases x with
  | listing id =>
    obtain ⟨listing, hfound, -, rfl, -⟩ := h
    obtain ⟨listing', hfound', -, rfl, -⟩ := h'
    cases hfound.symm.trans hfound'
    rfl
  | auction id =>
    obtain ⟨auction, hfound, -, rfl, -⟩ := h
    obtain ⟨auction', hfound', -, rfl, -⟩ := h'
    cases hfound.symm.trans hfound'
    rfl

/-- A listing is written: the others hold what they held. -/
theorem holdsFor_setListing (id : ℕ) (new : Listing) :
    HoldsFor (listings.set id new) auctions agentId x seller ↔
      if x = .listing id then new.active = true ∧ new.assetId = agentId ∧ new.seller = seller
      else HoldsFor listings auctions agentId x seller := by
  cases x with
  | auction id' => simp [HoldsFor]
  | listing id' =>
    simp only [HoldsFor, Hold.listing.injEq, Store.get?_set]
    by_cases hid : id' = id <;> simp [hid]

theorem holdsFor_setAuction (id : ℕ) (new : Auction) :
    HoldsFor listings (auctions.set id new) agentId x seller ↔
      if x = .auction id then new.status = .active ∧ new.agentId = agentId ∧ new.seller = seller
      else HoldsFor listings auctions agentId x seller := by
  cases x with
  | listing id' => simp [HoldsFor]
  | auction id' =>
    simp only [HoldsFor, Hold.auction.injEq, Store.get?_set]
    by_cases hid : id' = id <;> simp [hid]

theorem holdsFor_openListing {id : ℕ} (new : Listing) (hnone : listings.get? id = none)
    (hactive : new.active = true) :
    HoldsFor (listings.set id new) auctions agentId x seller ↔
      HoldsFor listings auctions agentId x seller ∨
        (agentId = new.assetId ∧ x = .listing id ∧ new.seller = seller) := by
  rw [holdsFor_setListing]
  split
  · rename_i hx
    subst hx
    simp [HoldsFor, hnone, hactive, @eq_comm _ agentId]
  · rename_i hx
    simp [hx]

theorem holdsFor_openAuction {id : ℕ} (new : Auction) (hnone : auctions.get? id = none)
    (hactive : new.status = .active) :
    HoldsFor listings (auctions.set id new) agentId x seller ↔
      HoldsFor listings auctions agentId x seller ∨
        (agentId = new.agentId ∧ x = .auction id ∧ new.seller = seller) := by
  rw [holdsFor_setAuction]
  split
  · rename_i hx
    subst hx
    simp [HoldsFor, hnone, hactive, @eq_comm _ agentId]
  · rename_i hx
    simp [hx]

theorem holdsFor_closeListing {id : ℕ} (new : Listing) (hclosed : new.active = false) :
    HoldsFor (listings.set id new) auctions agentId x seller ↔
      HoldsFor listings auctions agentId x seller ∧ x ≠ .listing id := by
  rw [holdsFor_setListing]
  split
  · rename_i hx
    simp [hx, hclosed]
  · rename_i hx
    simp [hx]

theorem holdsFor_closeAuction {id : ℕ} (new : Auction) (hclosed : new.status ≠ .active) :
    HoldsFor listings (auctions.set id new) agentId x seller ↔
      HoldsFor listings auctions agentId x seller ∧ x ≠ .auction id := by
  rw [holdsFor_setAuction]
  split
  · rename_i hx
    simp [hx, hclosed]
  · rename_i hx
    simp [hx]

/-- An auction that stays as active as it was, of the same agent by the same seller. -/
theorem holdsFor_keepAuction {id : ℕ} {old : Auction} (new : Auction)
    (hfound : auctions.get? id = some old) (hstatus : new.status = old.status)
    (hagent : new.agentId = old.agentId) (hseller : new.seller = old.seller) :
    HoldsFor listings (auctions.set id new) agentId x seller ↔
      HoldsFor listings auctions agentId x seller := by
  rw [holdsFor_setAuction]
  split
  · rename_i hx
    simp [hx, HoldsFor, hfound, hstatus, hagent, hseller]
  · rfl

theorem locked_set {agentId' : ℕ} (agent : Agent) :
    Locked (agents.set agentId agent) agentId' ↔
      if agentId' = agentId then agent.escrowLocked = true else Locked agents agentId' := by
  unfold Locked
  rw [Store.get?_set]
  by_cases hid : agentId' = agentId <;> simp [hid]

end Writes

/-- Locks are right, the marketplace has them, and sellers own what they sell. -/
structure Escrowed (holder : Address) (agents : Store ℕ Agent) (listings : Store ℕ Listing)
    (auctions : Store ℕ Auction) : Prop where
  exclusion : Exclusion (Holds listings auctions) (Locked agents)
  held : ∀ a x agent, Holds listings auctions a x → agents.get? a = some agent →
    agent.escrowHolder = some holder
  owned : ∀ a x seller agent, HoldsFor listings auctions a x seller →
    agents.get? a = some agent → agent.owner = seller

namespace Escrowed

variable {holder : Address} {agents : Store ℕ Agent} {listings listings' : Store ℕ Listing}
  {auctions auctions' : Store ℕ Auction} {a now : ℕ} {agent new : Agent} {x : Hold}
  {seller : Address}

/-- What holds an agent that is there has it locked. -/
theorem locked_of (h : Escrowed holder agents listings auctions)
    (hheld : Holds listings auctions a x) (hfound : agents.get? a = some agent) :
    agent.escrowLocked = true := by
  obtain ⟨other, hother, hl⟩ := h.exclusion.locks a x hheld
  cases hfound.symm.trans hother
  exact hl

/-- Agents stay as they are, and so does what is held. -/
theorem keep (h : Escrowed holder agents listings auctions)
    (hholds : ∀ b y seller, HoldsFor listings' auctions' b y seller ↔
      HoldsFor listings auctions b y seller) :
    Escrowed holder agents listings' auctions' where
  exclusion := h.exclusion.congr (fun b y => exists_congr (hholds b y)) fun _ => Iff.rfl
  held b y agent hy := h.held b y agent ((exists_congr (hholds b y)).mp hy)
  owned b y seller agent hy := h.owned b y seller agent ((hholds b y seller).mp hy)

/-- A free agent is taken by its owner. -/
theorem take (h : Escrowed holder agents listings auctions)
    (hfound : agents.get? a = some agent) (hfree : agent.escrowLocked = false)
    (hholds : ∀ b y seller, HoldsFor listings' auctions' b y seller ↔
      HoldsFor listings auctions b y seller ∨ (b = a ∧ y = x ∧ agent.owner = seller)) :
    Escrowed holder (agents.set a (locked holder now agent)) listings' auctions' where
  exclusion := by
    have hunlocked : ¬ Locked agents a := by
      rintro ⟨other, hother, hlocked⟩
      cases hfound.symm.trans hother
      rw [hfree] at hlocked
      cases hlocked
    refine h.exclusion.take (a := a) (h := x) hunlocked ?_ ?_
    · intro b y
      constructor
      · rintro ⟨seller, hy⟩
        rcases (hholds b y seller).mp hy with hy | ⟨hb, hx, -⟩
        · exact .inl ⟨seller, hy⟩
        · exact .inr ⟨hb, hx⟩
      · rintro (⟨seller, hy⟩ | ⟨hb, hx⟩)
        · exact ⟨seller, (hholds b y seller).mpr (.inl hy)⟩
        · exact ⟨agent.owner, (hholds b y _).mpr (.inr ⟨hb, hx, rfl⟩)⟩
    · intro b
      rw [locked_set]
      split
      · rename_i hb
        exact ⟨fun _ => .inr hb, fun _ => rfl⟩
      · rename_i hb
        exact ⟨.inl, fun hor => hor.resolve_right hb⟩
  held b y other hy hother := by
    rw [Store.get?_set] at hother
    split at hother
    · cases hother
      rfl
    · rename_i hb
      obtain ⟨seller, hy⟩ := hy
      rcases (hholds b y seller).mp hy with hy | ⟨rfl, -, -⟩
      · exact h.held b y other ⟨seller, hy⟩ hother
      · exact absurd rfl hb
  owned b y seller other hy hother := by
    rw [Store.get?_set] at hother
    rcases (hholds b y seller).mp hy with hy | ⟨rfl, -, howner⟩
    · split at hother
      · rename_i hb
        cases hother
        exact h.owned b y seller agent hy (hb ▸ hfound)
      · exact h.owned b y seller other hy hother
    · rw [if_pos rfl] at hother
      cases hother
      exact howner

/-- What holds an agent gives it up. -/
theorem release (h : Escrowed holder agents listings auctions)
    (hheld : Holds listings auctions a x) (hfree : new.escrowLocked = false)
    (hholds : ∀ b y seller, HoldsFor listings' auctions' b y seller ↔
      HoldsFor listings auctions b y seller ∧ y ≠ x) :
    Escrowed holder (agents.set a new) listings' auctions' where
  exclusion := by
    refine h.exclusion.release hheld ?_ ?_ fun b hb => holds_unique hheld hb
    · intro b y
      constructor
      · rintro ⟨seller, hy⟩
        exact ⟨⟨seller, ((hholds b y seller).mp hy).1⟩, ((hholds b y seller).mp hy).2⟩
      · rintro ⟨⟨seller, hy⟩, hne⟩
        exact ⟨seller, (hholds b y seller).mpr ⟨hy, hne⟩⟩
    · intro b
      rw [locked_set]
      split
      · rename_i hb
        rw [hfree]
        exact ⟨nofun, fun hl => absurd hb hl.2⟩
      · rename_i hb
        exact ⟨fun hl => ⟨hl, hb⟩, And.left⟩
  held b y other hy hother := by
    obtain ⟨seller, hy⟩ := hy
    obtain ⟨hy, hne⟩ := (hholds b y seller).mp hy
    rw [Store.get?_set] at hother
    split at hother
    · rename_i hb
      subst hb
      exact absurd (h.exclusion.one b y x ⟨seller, hy⟩ hheld) hne
    · exact h.held b y other ⟨seller, hy⟩ hother
  owned b y seller other hy hother := by
    obtain ⟨hy, hne⟩ := (hholds b y seller).mp hy
    rw [Store.get?_set] at hother
    split at hother
    · rename_i hb
      subst hb
      exact absurd (h.exclusion.one b y x ⟨seller, hy⟩ hheld) hne
    · exact h.owned b y seller other hy hother

end Escrowed

structure Exclusive (holder : Address) (s : State) : Prop where
  noSale : NoSale s
  listed : ∀ id listing, s.listing.get? id = some listing → id ≤ s.listingCounter.getD 0
  numbered : Numbered s
  escrowed : Escrowed holder s.agent s.listing s.auction

def Op.initializes : Op → Bool
  | .initContract _ => true
  | _ => false

/-- The initialisation comes before the first listing and the first auction. -/
def Op.Begins (s : State) (op : Op) : Prop :=
  op.initializes = true → s.listingCounter.getD 0 = 0 ∧ s.auctionCounter.getD 0 = 0

instance (s : State) (op : Op) : Decidable (op.Begins s) :=
  inferInstanceAs (Decidable (_ → _ ∧ _))

/-- The auction that a call finalizes whatever its kind. -/
def Op.closes? : Op → Option ℕ
  | .finalizeAuction auctionId => some auctionId
  | _ => none

/-- An auction without a bid is not finalized at a reserve of zero. -/
def Op.Clears (s : State) (op : Op) : Prop :=
  ∀ auctionId ∈ op.closes?, ∀ auction ∈ s.auction.get? auctionId,
    auction.highestBidder = none → auction.highestBid < auction.reservePrice

instance (s : State) (op : Op) : Decidable (op.Clears s) :=
  inferInstanceAs (Decidable (∀ _ ∈ _, ∀ _ ∈ _, _))

theorem Op.Begins.starts {s : State} {op : Op} (h : op.Begins s) : op.Starts s := by
  cases op with
  | initContract => exact (h rfl).2
  | _ => trivial

section Steps

variable {self hub : Address} {env : Env} {now : ℕ} {op : Op} {s s' : State}

theorem Exclusive.list (h : Exclusive self s) (hlist : Listed self now s s') :
    Exclusive self s' := by
  cases hlist with
  | mk agentId seller price kind expiresAt agent found owned free small =>
    have hnone : s.listing.get? (s.listingCounter.getD 0 + 1) = none := by
      by_contra hsome
      obtain ⟨listing, hfound⟩ := Option.ne_none_iff_exists'.mp hsome
      have := h.listed _ listing hfound
      omega
    refine ⟨⟨h.noSale.1, h.noSale.2⟩, ?_, h.numbered, ?_⟩
    · exact Store.forall_set (fun id listing hfound => (h.listed id listing hfound).trans
        (Nat.le_succ _)) le_rfl
    · refine h.escrowed.take (x := .listing (s.listingCounter.getD 0 + 1)) found free fun b y by' => ?_
      rw [owned]
      exact holdsFor_openListing _ hnone rfl

/-- An agent whose listing is active is held by the marketplace. -/
theorem Exclusive.heldBy (h : Exclusive self s) {listingId : ℕ} {listing : Listing}
    (hfound : s.listing.get? listingId = some listing) (hactive : listing.active = true) :
    ∃ agent, s.agent.get? listing.assetId = some agent ∧ HeldBy self agent := by
  have hheld : Holds s.listing s.auction listing.assetId (.listing listingId) :=
    ⟨listing.seller, listing, hfound, hactive, rfl, rfl⟩
  obtain ⟨agent, hthere, hlocked⟩ := h.escrowed.exclusion.locks _ _ hheld
  exact ⟨agent, hthere, hlocked, h.escrowed.held _ _ agent hheld hthere⟩

theorem Exclusive.takeDown (h : Exclusive self s) (hdown : TakenDown self now s s') :
    Exclusive self s' := by
  cases hdown with
  | released listingId listing agent found active there held =>
    refine ⟨⟨h.noSale.1, h.noSale.2⟩, Store.forall_set h.listed (h.listed listingId listing found),
      h.numbered, ?_⟩
    have hheld : Holds s.listing s.auction listing.assetId (.listing listingId) :=
      ⟨listing.seller, listing, found, active, rfl, rfl⟩
    exact h.escrowed.release hheld rfl fun b y by' => holdsFor_closeListing _ rfl
  | unheld listingId listing found active free =>
    obtain ⟨agent, hthere, hheld⟩ := h.heldBy found active
    exact absurd hheld (free agent hthere)

theorem Exclusive.effect (h : Exclusive self s) (hbegins : op.Begins s) (hclears : op.Clears s)
    (heffect : Effect self hub env s op s') : Exclusive self s' := by
  have hnoSale := h.noSale.effect heffect
  have hnumbered := numbered_effect h.numbered hbegins.starts heffect
  have hwon : AuctionStatus.won ≠ .active := by decide
  have hended : AuctionStatus.ended ≠ .active := by decide
  have hauction : ∀ {auctionId : ℕ} {auction : Auction},
      s.auction.get? auctionId = some auction → auction.status = .active →
        Holds s.listing s.auction auction.agentId (.auction auctionId) :=
    fun {_ auction} hfound hactive => ⟨auction.seller, auction, hfound, hactive, rfl, rfl⟩
  cases heffect with
  | initialized admin =>
    refine ⟨hnoSale, ?_, hnumbered, h.escrowed⟩
    exact fun id listing hfound => (h.listed id listing hfound).trans_eq (hbegins rfl).1
  | listed _ _ chain =>
    clear hnumbered hnoSale
    induction chain with
    | refl => exact h
    | tail _ hlast ih => exact ih.list hlast
  | takenDown _ _ chain =>
    clear hnumbered hnoSale
    induction chain with
    | refl => exact h
    | tail _ hlast ih => exact ih.takeDown hlast
  | called _ _ effect =>
    rw [h.noSale.call effect]
    exact h
  | opened _ auction agent extensionConfig opens =>
    have hnone : s.auction.get? auction.auctionId = none := by
      by_contra hsome
      obtain ⟨old, hfound⟩ := Option.ne_none_iff_exists'.mp hsome
      have := h.numbered _ old hfound
      rw [opens.numbered] at this
      omega
    refine ⟨hnoSale, h.listed, hnumbered, ?_⟩
    refine h.escrowed.take (x := .auction auction.auctionId) opens.there opens.free
      fun b y by' => ?_
    rw [opens.owned]
    exact holdsFor_openAuction _ hnone opens.active
  | bid _ _ effect =>
    cases effect with
    | raised _ auctionId bidder amount least auction endTime bids _ _ found =>
      refine ⟨hnoSale, h.listed, hnumbered, h.escrowed.keep fun b y by' => ?_⟩
      exact holdsFor_keepAuction _ found rfl rfl rfl
    | boughtNow auctionId buyer amount auction agent record _ found _ active =>
      refine ⟨hnoSale, h.listed, hnumbered, ?_⟩
      exact h.escrowed.release (hauction found active) rfl
        fun b y by' => holdsFor_closeAuction _ hwon
    | revealed auctionId bidder amount nonce auction commitEnd revealEnd commit _ found =>
      refine ⟨hnoSale, h.listed, hnumbered, h.escrowed.keep fun b y by' => ?_⟩
      split
      · exact holdsFor_keepAuction _ found rfl rfl rfl
      · rfl
  | won _ auctionId buyer auction agent record _ found active =>
    refine ⟨hnoSale, h.listed, hnumbered, ?_⟩
    exact h.escrowed.release (hauction found active) rfl
      fun b y by' => holdsFor_closeAuction _ hwon
  | unsold auctionId auction found active past leaderless met =>
    exact absurd met (not_le.mpr (hclears auctionId rfl auction found leaderless))
  | ended _ auctionId auction agent agents _ found active there freed =>
    rw [if_pos (h.escrowed.locked_of (hauction found active) there)] at freed
    obtain ⟨-, rfl⟩ := freed
    refine ⟨hnoSale, h.listed, hnumbered, ?_⟩
    exact h.escrowed.release (hauction found active) rfl
      fun b y by' => holdsFor_closeAuction _ hended
  | administered | committed | grouped | added | removed | shared | nftSold =>
    exact ⟨hnoSale, h.listed, hnumbered, h.escrowed⟩

/-- The marketplace is initialised in time, and no auction without a bid is finalized at a reserve
of zero. -/
def Action.Safe (s : State) : Action → Prop
  | .call _ op => op.Begins s ∧ op.Clears s
  | .hub _ _ => True

instance (s : State) : (a : Action) → Decidable (a.Safe s)
  | .call .. => inferInstanceAs (Decidable (_ ∧ _))
  | .hub .. => .isTrue trivial

theorem Exclusive.next {a : Action} (h : Exclusive self s) (hsafe : a.Safe s)
    (hn : next self hub a s = .ok s') : Exclusive self s' := by
  cases a with
  | call env op => exact h.effect hsafe.1 hsafe.2 (invoke_effect hn)
  | hub host op =>
    obtain ⟨after, rfl⟩ := h.noSale.onHub hn
    exact ⟨⟨h.noSale.1, h.noSale.2⟩, h.listed, h.numbered, h.escrowed⟩

theorem exclusive_deployed {agents : Store ℕ Agent}
    (hfree : ∀ id agent, agents.get? id = some agent → agent.escrowLocked = false) :
    Exclusive self (deployed agents) := by
  have hnothing : ∀ a x seller, ¬ HoldsFor (deployed agents).listing (deployed agents).auction a x
      seller := by
    intro a x seller hx
    cases x with
    | listing id =>
      obtain ⟨listing, hfound, -⟩ := hx
      cases hfound
    | auction id =>
      obtain ⟨auction, hfound, -⟩ := hx
      cases hfound
  refine ⟨noSale_deployed agents, ?_, ?_, ⟨?_, ?_, ?_⟩, ?_, ?_⟩
  · intro id listing hfound
    cases hfound
  · intro id listing hfound
    cases hfound
  · rintro a x _ ⟨seller, hx⟩
    exact absurd hx (hnothing a x seller)
  · rintro a x ⟨seller, hx⟩
    exact absurd hx (hnothing a x seller)
  · rintro a ⟨agent, hfound, hlocked⟩
    rw [hfree a agent hfound] at hlocked
    cases hlocked
  · rintro a x - ⟨seller, hx⟩
    exact absurd hx (hnothing a x seller)
  · intro a x seller _ hx
    exact absurd hx (hnothing a x seller)

/-- In every run in which the marketplace is initialised in time and no auction without a bid is
finalized at a reserve of zero, from agents that are not locked: an agent has at most one active
listing or auction, it is locked by the marketplace exactly if there is one, and then the seller
owns it. No sale is ever in the middle. -/
theorem escrow_exclusive {agents : Store ℕ Agent}
    (hfree : ∀ id agent, agents.get? id = some agent → agent.escrowLocked = false)
    (hrun : Steps (next self hub) (fun s a => a.Safe s) (deployed agents) s) (agentId : ℕ) :
    (∀ x y, Holds s.listing s.auction agentId x → Holds s.listing s.auction agentId y → x = y) ∧
    ((∃ agent, s.agent.get? agentId = some agent ∧ HeldBy self agent) ↔
      ∃ x, Holds s.listing s.auction agentId x) ∧
    ∀ x seller, HoldsFor s.listing s.auction agentId x seller →
      ∀ agent, s.agent.get? agentId = some agent → agent.owner = seller := by
  have h : Exclusive self s :=
    hrun.preserves (fun _ _ _ hsafe hn hs => hs.next hsafe hn) (exclusive_deployed hfree)
  refine ⟨h.escrowed.exclusion.one agentId, ⟨?_, ?_⟩, ?_⟩
  · rintro ⟨agent, hfound, hheld⟩
    exact h.escrowed.exclusion.held agentId ⟨agent, hfound, hheld.1⟩
  · rintro ⟨x, hx⟩
    obtain ⟨agent, hfound, hlocked⟩ := h.escrowed.exclusion.locks agentId x hx
    exact ⟨agent, hfound, hlocked, h.escrowed.held agentId x agent hx hfound⟩
  · exact fun x seller hx agent hfound => h.escrowed.owned agentId x seller agent hx hfound

end Steps

section Runs

open Sample

/-- Agent 1 is listed and taken down, while steps of a sale that nobody bought come in. Then it is
auctioned to Bob, who lists it. Agent 2 is listed and taken down, auctioned in vain, listed until
the listing expires, and auctioned again. -/
def relisted : List Action :=
  calls [
    (0, .initContract admin),
    (0, .setExecutionHub admin hubContract),
    (1, .batchCreateListings alice 0 100 [1, 2]),
    (2, .cancelListing 2 alice),
    (3, .createDutchAuction 2 alice 100 10 1),
    (4, .callback (.wfDone 1 4)),
    (5, .callback (.rollback (encodeU64 1)))] ++
  [.hub ⟨env 6, fun _ => true⟩ (.initializeHub admin)] ++
  calls [
    (7, .cancelListing 1 alice),
    (8, .createAuction 1 alice 10 10 1 none),
    (9, .placeBid 2 bob 10),
    (86404, .finalizeAuction 1),
    (86405, .createListing 2 alice 0 100 (some 1)),
    (86409, .finalizeAuction 2),
    (172806, .cleanupExpiredListings [3]),
    (172807, .createListing 1 bob 0 200 none),
    (172808, .createAuction 2 alice 10 10 1 none)]

theorem escrow_exclusive_relisted :
    ∃ s, Steps (next market hubContract) (fun s a => a.Safe s) start s ∧
      HoldsFor s.listing s.auction 1 (.listing 4) bob ∧
      HoldsFor s.listing s.auction 2 (.auction 3) alice ∧
      ∀ id ∈ [1, 2], ∃ agent, s.agent.get? id = some agent ∧ HeldBy market agent := by
  obtain ⟨⟨log, s⟩, hrec, ⟨listing, hlisting, hlisted⟩, auction, hauction, hauctioned⟩ :=
    After.exists_ok
    (r := record (next market hubContract) (fun _ s a => a.Safe s) relisted ([], start))
    (P := fun h => (∃ listing ∈ h.2.listing.get? 4,
        listing.active = true ∧ listing.assetId = 1 ∧ listing.seller = bob) ∧
      ∃ auction ∈ h.2.auction.get? 3,
        auction.status = .active ∧ auction.agentId = 2 ∧ auction.seller = alice)
    (by decide +kernel)
  have hrun : Steps (next market hubContract) (fun s a => a.Safe s) start s :=
    (record_history relisted (fun _ _ _ _ hok => hok) .nil hrec).steps fun _ _ _ hok => hok
  have hfree : ∀ id agent, start.agent.get? id = some agent → agent.escrowLocked = false :=
    Store.forall_set (Store.forall_set nofun rfl) rfl
  have hfirst : HoldsFor s.listing s.auction 1 (.listing 4) bob := ⟨listing, hlisting, hlisted⟩
  have hsecond : HoldsFor s.listing s.auction 2 (.auction 3) alice :=
    ⟨auction, hauction, hauctioned⟩
  refine ⟨s, hrun, hfirst, hsecond, ?_⟩
  intro id hid
  rcases List.mem_pair.mp hid with rfl | rfl
  · exact (escrow_exclusive hfree hrun 1).2.1.mpr ⟨_, _, hfirst⟩
  · exact (escrow_exclusive hfree hrun 2).2.1.mpr ⟨_, _, hsecond⟩

/-- A Dutch auction without a reserve finds no buyer. -/
def unbought : List Action :=
  calls [
    (0, .initContract admin),
    (1, .createDutchAuction 1 alice 100 0 1),
    (86402, .finalizeAuction 1)]

theorem agent_left_locked :
    ¬ ∀ s, Steps (next market hubContract) (fun _ _ => True) start s →
      ∀ agentId, (∃ agent, s.agent.get? agentId = some agent ∧ HeldBy market agent) ↔
        ∃ x, Holds s.listing s.auction agentId x := by
  intro hall
  obtain ⟨s, hexec, hheld, hlistings, hauctions⟩ :=
    After.exists_ok (r := execute (next market hubContract) unbought start)
    (P := fun s => (∃ agent ∈ s.agent.get? 1, HeldBy market agent) ∧
      (∀ e ∈ s.listing.list, e.2.active = false) ∧ ∀ e ∈ s.auction.list, e.2.status ≠ .active)
    (by decide +kernel)
  have hrun : Steps (next market hubContract) (fun _ _ => True) start s :=
    execute_steps unbought (fun _ _ _ => trivial) hexec
  obtain ⟨x, seller, hx⟩ := (hall s hrun 1).mp hheld
  cases x with
  | listing id =>
    obtain ⟨listing, hfound, hactive, -⟩ := hx
    rw [hlistings _ (Store.mem_list.mpr hfound)] at hactive
    cases hactive
  | auction id =>
    obtain ⟨auction, hfound, hactive, -⟩ := hx
    exact hauctions _ (Store.mem_list.mpr hfound) hactive

end Runs

end Marketplace
