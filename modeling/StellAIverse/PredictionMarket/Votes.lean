import StellAIverse.PredictionMarket.Disputes
import StellAIverse.PredictionMarket.SupplyCap

/-!
# Votes on a dispute

A vote weighs what the voter holds when voting, and an address votes once. A
token that moves from an address that has voted to one that has not can vote
again, so the votes are bounded by the tokens in circulation only as long as
none does and the market is not created anew.
-/

namespace PredictionMarket

open Soroban

variable {τ : Type} {tok : Token τ} {self : Address} {s s' : State τ} {a : Action τ}

/-- All outcome tokens of market `m` that users hold. -/
def circulating (s : State τ) (m : ℕ) : ℤ := s.outcomeBalance.sumOver fun k => k.1 = m

/-- Those held by addresses that have not voted on dispute `d`. -/
def unvoted (s : State τ) (m d : ℕ) : ℤ :=
  s.outcomeBalance.sumOver fun k => k.1 = m ∧ s.disputeVote.get? (m, d, k.2.2) = none

/-- The loop of `vote_dispute` adds up the voter's balances. -/
theorem voteWeight_ok {m n : ℕ} {voter : Address} {weight : ℤ}
    (h : voteWeight s m voter n = .ok weight) :
    weight = s.outcomeBalance.sumOver fun k => (k.1 = m ∧ k.2.2 = voter) ∧ k.2.1 < n := by
  induction n generalizing weight with
  | zero =>
    cases h
    exact (Store.sumOver_eq_zero fun k v _ hk => absurd hk.2 (Nat.not_lt_zero _)).symm
  | succ n ih =>
    obtain ⟨w, hw, h⟩ := bind_ok.mp h
    simp only [I128.add, I128.fit_ok] at h
    have hsplit := Store.sumOver_split
      (fun k : ℕ × ℕ × Address => (k.1 = m ∧ k.2.2 = voter) ∧ k.2.1 < n + 1)
      (fun k => k.2.1 < n) s.outcomeBalance
    have hbelow : s.outcomeBalance.sumOver (fun k =>
        ((k.1 = m ∧ k.2.2 = voter) ∧ k.2.1 < n + 1) ∧ k.2.1 < n) = w := by
      rw [ih hw]
      exact Store.sumOver_congr fun k _ _ => ⟨fun hk => ⟨hk.1.1, hk.2⟩, fun hk => ⟨⟨hk.1, by omega⟩, hk.2⟩⟩
    have hlast : s.outcomeBalance.sumOver (fun k =>
        ((k.1 = m ∧ k.2.2 = voter) ∧ k.2.1 < n + 1) ∧ ¬ k.2.1 < n) =
        getOutcomeBalance s m n voter := by
      rw [getOutcomeBalance, ← Store.sumOver_eq_amount]
      refine Store.sumOver_congr fun k _ _ => ?_
      obtain ⟨k₁, k₂, k₃⟩ := k
      simp only [Prod.mk.injEq]
      constructor
      · rintro ⟨⟨⟨h1, h2⟩, h3⟩, h4⟩
        exact ⟨h1, by omega, h2⟩
      · rintro ⟨h1, h2, h3⟩
        exact ⟨⟨⟨h1, h3⟩, by omega⟩, by omega⟩
    rw [hsplit, hbelow, hlast]
    exact h.2.symm

/-- The invocations during a live dispute that move no token from an address
that has voted on it, nor a new one, to an address that has not, and do not reopen
the market by overwriting it; judged before they run. -/
def Action.KeepsVotes (s : State τ) (m d : ℕ) : Action τ → Prop
  | .call _ (.createMarket ..) =>
      s.marketCounter = m → ¬ ∃ dispute, s.dispute.get? (m, d) = some dispute ∧ dispute.Live
  | .call _ (.removeLiquidity provider m' i x) =>
      m' = m → (∃ dispute, s.dispute.get? (m, d) = some dispute ∧ dispute.Live) →
      s.disputeVote.get? (m, d, provider) ≠ none ∨
        ∀ pool, s.outcomePool.get? (m, i) = some pool → x * pool.outcomeReserve < pool.lpTotalSupply
  | .call _ (.matchSellOrder seller m' oid) =>
      m' = m → (∃ dispute, s.dispute.get? (m, d) = some dispute ∧ dispute.Live) →
      ∀ sell, s.order.get? (m, oid) = some sell →
      (s.disputeVote.get? (m, d, seller) = none ∧
        fillable s m sell ≤ s.outcomeBalance.amount (m, sell.outcomeIndex, seller)) ∨
      ∀ oid' buy, s.order.get? (m, oid') = some buy → Matches seller sell buy →
        s.disputeVote.get? (m, d, buy.owner) ≠ none
  | _ => True

/-- The votes cast are within the bound, and while the dispute is live they are
with those that can still be cast, and the market is closed. -/
structure Tallied (bound : ℤ) (s : State τ) (m d : ℕ) (dispute : Dispute) : Prop where
  stored : s.dispute.get? (m, d) = some dispute
  cast : dispute.votesFor + dispute.votesAgainst ≤ bound
  live : dispute.Live → dispute.votesFor + dispute.votesAgainst + unvoted s m d ≤ bound
  inactive : dispute.Live → ∀ market, s.market.get? m = some market → market.status ≠ .active

/-- Writing one balance moves the tokens that can still vote by that much, if
its owner has not voted. -/
theorem unvoted_put {m d m' i' : ℕ} {user : Address} {v : ℤ}
    (hb : s'.outcomeBalance = s.outcomeBalance.put (m', i', user) v)
    (hv : s'.disputeVote = s.disputeVote) :
    unvoted s' m d =
      unvoted s m d + if m' = m ∧ s.disputeVote.get? (m, d, user) = none then
        max v 0 - s.outcomeBalance.amount (m', i', user) else 0 := by
  simp only [unvoted, hb, hv]
  exact Store.sumOver_put _ _ _ _

/-- A vote takes the voter's tokens out of those that can still vote. -/
theorem unvoted_vote (hb : s.outcomeBalance.Positive) {m d n : ℕ} {voter : Address} {weight : ℤ}
    (hfree : s.disputeVote.get? (m, d, voter) = none) (hw : voteWeight s m voter n = .ok weight) :
    s.outcomeBalance.sumOver (fun k => k.1 = m ∧
        (s.disputeVote.set (m, d, voter) weight).get? (m, d, k.2.2) = none) ≤
      unvoted s m d - weight := by
  have hsplit := Store.sumOver_split
    (fun k : ℕ × ℕ × Address => k.1 = m ∧ s.disputeVote.get? (m, d, k.2.2) = none)
    (fun k => k.2.2 = voter) s.outcomeBalance
  have hmine : weight ≤ s.outcomeBalance.sumOver (fun k =>
      (k.1 = m ∧ s.disputeVote.get? (m, d, k.2.2) = none) ∧ k.2.2 = voter) := by
    rw [voteWeight_ok hw]
    apply hb.sumOver_le
    rintro ⟨k₁, k₂, k₃⟩ ⟨⟨rfl, rfl⟩, -⟩
    exact ⟨⟨rfl, hfree⟩, rfl⟩
  have hothers : s.outcomeBalance.sumOver (fun k => k.1 = m ∧
      (s.disputeVote.set (m, d, voter) weight).get? (m, d, k.2.2) = none) =
      s.outcomeBalance.sumOver (fun k =>
        (k.1 = m ∧ s.disputeVote.get? (m, d, k.2.2) = none) ∧ ¬ k.2.2 = voter) := by
    refine Store.sumOver_congr fun k _ _ => ?_
    rw [Store.get?_set]
    by_cases hv : k.2.2 = voter
    · simp [hv]
    · simp [hv]
  unfold unvoted
  omega

/-- A match credits addresses that have not voted only with tokens of an
address that has not voted. -/
theorem unvoted_match (hs : Reachable tok self s) {m d m' oid : ℕ} {sell : LimitOrder}
    {book : Book} (stored : s.order.get? (m', oid) = some sell)
    (scanned : scanOrders m' sell.owner sell (List.range (getOrderCounter s m'))
      (Book.on ⟨s.order, s.outcomeBalance, sell.quantity - sell.filledQuantity, 0⟩ s) =
        .ok (book.on s))
    (fills : Fills m' sell.owner sell
      ⟨s.order, s.outcomeBalance, sell.quantity - sell.filledQuantity, 0⟩ book)
    (hcond : m' = m → (s.disputeVote.get? (m, d, sell.owner) = none ∧
        fillable s m sell ≤ s.outcomeBalance.amount (m, sell.outcomeIndex, sell.owner)) ∨
      ∀ oid' buy, s.order.get? (m, oid') = some buy → Matches sell.owner sell buy →
        s.disputeVote.get? (m, d, buy.owner) ≠ none) :
    (book.balance.put (m', sell.outcomeIndex, sell.owner)
      (book.balance.amount (m', sell.outcomeIndex, sell.owner) -
        (sell.quantity - book.remaining))).sumOver
        (fun k => k.1 = m ∧ s.disputeVote.get? (m, d, k.2.2) = none) ≤ unvoted s m d := by
  have hbook := hs.orders.book stored
  have hrem := book_remaining hs.orders stored scanned
  have hsold := fills.seller_amount m' sell.outcomeIndex
  have hbal := hs.balances.amount_nonneg (m', sell.outcomeIndex, sell.owner)
  have hfilled := (hs.orders.valid _ _ stored).filled
  have hnn := fillable_nonneg hs.orders stored
  have hle := fills.sumOver_le hbook hs.balances
    (fun k => k.1 = m ∧ s.disputeVote.get? (m, d, k.2.2) = none)
  have hnone := fun hp => fills.sumOver_none hbook
    (p := fun k => k.1 = m ∧ s.disputeVote.get? (m, d, k.2.2) = none) hp
  simp only at hsold hle hnone
  rw [Store.sumOver_put, hsold]
  unfold unvoted
  by_cases hm : m' = m
  · subst hm
    rcases hcond rfl with ⟨hfree, hcover⟩ | hvoted
    · rw [if_pos ⟨rfl, hfree⟩]
      omega
    · rw [hnone fun oid' buy hb hmatch hk => hvoted oid' buy hb hmatch hk.2]
      split <;> omega
  · rw [hnone fun _ _ _ _ hk => hm hk.1, if_neg fun hk => hm hk.1]
    omega

section Tallied

variable {bound : ℤ} {m d : ℕ} {dispute : Dispute}

/-- A step that leaves the dispute and gives nobody a new vote. -/
theorem Tallied.same (ht : Tallied bound s m d dispute)
    (hclosed : dispute.Live → ∀ market, s'.market.get? m = some market → market.status ≠ .active)
    (hd : s'.dispute.get? (m, d) = s.dispute.get? (m, d))
    (hu : dispute.Live → unvoted s' m d ≤ unvoted s m d) :
    ∃ dispute', Tallied bound s' m d dispute' := by
  refine ⟨dispute, hd.trans ht.stored, ht.cast, fun hl => ?_, hclosed⟩
  have := ht.live hl
  have := hu hl
  omega

theorem dispute_set_ne (hs : Disputes s) {m₀ d₀ : ℕ} {old : Dispute}
    (hold : s.dispute.get? (m₀, d₀) = some old) (hk : ¬ (m₀ = m ∧ d₀ = d)) (new : Dispute) :
    (s.dispute.set (old.marketId, old.disputeId) new).get? (m, d) = s.dispute.get? (m, d) := by
  rw [hs.key _ _ hold, Store.get?_set_ne]
  simp only [ne_eq, Prod.mk.injEq]
  tauto

/-- A settled dispute keeps its votes and is no longer live. -/
theorem Tallied.settled (hs : Disputes s) (ht : Tallied bound s m d dispute) {m₀ d₀ : ℕ}
    {old new : Dispute} (hold : s.dispute.get? (m₀, d₀) = some old)
    (hclosed : dispute.Live → ∀ market, s'.market.get? m = some market → market.status ≠ .active)
    (hset : s'.dispute = s.dispute.set (old.marketId, old.disputeId) new)
    (hvotes : new.votesFor + new.votesAgainst = old.votesFor + old.votesAgainst)
    (hdone : ¬ new.Live) (hu : unvoted s' m d = unvoted s m d) :
    ∃ dispute', Tallied bound s' m d dispute' := by
  by_cases hk : m₀ = m ∧ d₀ = d
  · obtain ⟨rfl, rfl⟩ := hk
    obtain rfl := Option.some.inj (hold.symm.trans ht.stored)
    refine ⟨new, ?_, by rw [hvotes]; exact ht.cast, fun hl => absurd hl hdone,
      fun hl => absurd hl hdone⟩
    rw [hset, hs.key _ _ hold, Store.get?_set_self]
  · exact ht.same hclosed (by rw [hset]; exact dispute_set_ne hs hold hk new) fun _ => hu.le

/-- A vote moves the voter's weight from those that can still vote to the votes cast. -/
theorem Tallied.vote (hs : Reachable tok self s) (ht : Tallied bound s m d dispute)
    {voter : Address} {n : ℕ} {weight : ℤ} {new : Dispute} (hlive : dispute.Live)
    (hclosed : ∀ market, s'.market.get? m = some market → market.status ≠ .active)
    (hfree : s.disputeVote.get? (m, d, voter) = none) (hw : voteWeight s m voter n = .ok weight)
    (hset : s'.dispute = s.dispute.set (dispute.marketId, dispute.disputeId) new)
    (hcast : new.votesFor + new.votesAgainst = dispute.votesFor + dispute.votesAgainst + weight)
    (hb : s'.outcomeBalance = s.outcomeBalance)
    (hv : s'.disputeVote = s.disputeVote.set (m, d, voter) weight) :
    Tallied bound s' m d new := by
  have hleft : unvoted s' m d ≤ unvoted s m d - weight := by
    rw [unvoted, hb, hv]
    exact unvoted_vote hs.balances hfree hw
  have hnn : 0 ≤ unvoted s' m d := by
    rw [unvoted, hb]
    exact hs.balances.sumOver_nonneg _
  have hbound := ht.live hlive
  refine ⟨?_, by omega, fun _ => by omega, fun _ => hclosed⟩
  rw [hset, hs.disputes.key _ _ ht.stored, Store.get?_set_self]

end Tallied

theorem tallied_step {bound : ℤ} {m d : ℕ} {dispute : Dispute} (hs : Reachable tok self s)
    (ha : a.KeepsVotes s m d) (h : Effect tok self s a s') (ht : Tallied bound s m d dispute) :
    ∃ dispute', Tallied bound s' m d dispute' := by
  have elsewhere : ∀ {m₀ market₀}, s.market.get? m₀ = some market₀ → market₀.status = .active →
      dispute.Live → m₀ ≠ m := by
    rintro m₀ market₀ stored active hl rfl
    exact ht.inactive hl market₀ stored active
  have hclosed : dispute.Live → ∀ market', s'.market.get? m = some market' →
      market'.status ≠ .active := by
    intro hl market' hm'
    obtain ⟨market, hm, hlater, -⟩ | ⟨rfl, env, creator, params, -, rfl, -⟩ :=
      market_back hs.ids h hm'
    · exact fun hactive => ht.inactive hl market hm (hlater.active hactive)
    · exact absurd ⟨dispute, ht.stored, hl⟩ (ha rfl)
  have wrote : ∀ {m₀ i₀ : ℕ} {user : Address} {v : ℤ},
      s'.outcomeBalance = s.outcomeBalance.put (m₀, i₀, user) v →
      s'.disputeVote = s.disputeVote → _ := fun hb hv => unvoted_put (m := m) (d := d) hb hv
  cases h with
  | buyOutcome _ buyer m₀ i₀ _ _ _ out _ _ _ _ stored active =>
    refine ht.same hclosed rfl fun hl => (wrote rfl rfl).trans_le ?_
    rw [if_neg fun hk => elsewhere stored active hl hk.1, add_zero]
  | sellOutcome _ seller m₀ i₀ _ _ _ _ _ _ _ stored active =>
    refine ht.same hclosed rfl fun hl => (wrote rfl rfl).trans_le ?_
    rw [if_neg fun hk => elsewhere stored active hl hk.1, add_zero]
  | removeLiquidity _ provider m₀ i₀ x _ pool _ _ pooled positive _ supplied =>
    have hbal := hs.balances.amount_nonneg (m₀, i₀, provider)
    refine ht.same hclosed rfl fun hl => (wrote rfl rfl).trans_le ?_
    split
    · rename_i hk
      obtain ⟨rfl, hfree⟩ := hk
      rcases ha rfl ⟨dispute, ht.stored, hl⟩ with hvoted | hsmall
      · exact absurd hfree hvoted
      · have hzero := outcomeFor_eq_zero positive.le (hs.sound pooled supplied.le).2
          (hsmall pool pooled)
        omega
    · omega
  | matchSellOrder _ m₀ oid sell book _ stored _ _ scanned fills =>
    refine ht.same hclosed rfl fun hl => unvoted_match hs stored scanned fills ?_
    rintro rfl
    exact ha rfl ⟨dispute, ht.stored, hl⟩ sell stored
  | redeemWinningTokens _ user m₀ w =>
    have hbal := hs.balances.amount_nonneg (m₀, w, user)
    have hspent := @wrote m₀ w user 0 rfl rfl
    refine ht.same hclosed rfl fun _ => hspent.trans_le ?_
    split <;> omega
  | openDispute _ opened _ _ _ _ _ _ fresh =>
    refine ht.same hclosed (Store.get?_set_ne _ _ ?_) fun _ => le_rfl
    intro he
    have hnone := hs.disputes.fresh opened.marketId
    rw [← fresh, ← he, ht.stored] at hnone
    cases hnone
  | voteDispute _ voter m₀ d₀ support dispute₀ market₀ weight stored live free known weighed =>
    by_cases hk : m₀ = m ∧ d₀ = d
    · obtain ⟨rfl, rfl⟩ := hk
      obtain rfl := Option.some.inj (stored.symm.trans ht.stored)
      refine ⟨_, ht.vote hs live (hclosed live) free weighed rfl ?_ rfl rfl⟩
      simp only
      split <;> ring
    · refine ht.same hclosed (dispute_set_ne hs.disputes stored hk _) fun _ => le_of_eq ?_
      refine Store.sumOver_congr fun k _ _ => ?_
      simp only
      rw [Store.get?_set_ne]
      simp only [ne_eq, Prod.mk.injEq]
      tauto
  | upholdDispute _ _ _ _ _ _ _ stored =>
    exact ht.settled hs.disputes stored hclosed rfl rfl (by simp [Dispute.Live]) rfl
  | rejectDispute _ _ _ _ _ _ _ stored =>
    exact ht.settled hs.disputes stored hclosed rfl rfl (by simp [Dispute.Live]) rfl
  | _ => exact ht.same hclosed rfl fun _ => le_rfl

/-- Nobody has voted on a dispute that has just been opened. -/
theorem tallied_opened {env : Env} {challenger : Address} {m d outcome : ℕ} {evidence : String}
    {stake : ℤ} (hs : Reachable tok self s)
    (h : openDispute tok self env challenger m outcome evidence stake s = .ok (d, s')) :
    ∃ dispute, Tallied (circulating s' m) s' m d dispute := by
  obtain rfl : d = getDisputeCounter s m := openDispute_id h
  have heff : Effect tok self s (.call env (.openDispute challenger m outcome evidence stake)) s' :=
    openDispute_effect h
  have hpos := balances_step hs.balances heff
  have hnn : 0 ≤ circulating s' m := hpos.sumOver_nonneg _
  have hle : unvoted s' m (getDisputeCounter s m) ≤ circulating s' m :=
    hpos.sumOver_le fun _ hk => hk.1
  cases heff with
  | openDispute _ dispute _ _ stored _ _ _ fresh _ zero =>
    refine ⟨dispute, by rw [← fresh, Store.get?_set_self], ?_, fun _ => ?_, fun _ => ?_⟩
    · omega
    · omega
    · intro market hm
      rw [hs.ids _ _ stored, Store.get?_set_self] at hm
      cases hm
      simp

/-- In every run after `open_dispute` that lets no voted token vote again, the
votes of the dispute are at most the tokens in circulation when it was opened. -/
theorem votes_bounded {s₀ s₁ s₂ : State τ} {env : Env} {challenger : Address}
    {m d outcome : ℕ} {evidence : String} {stake : ℤ} (hs : Reachable tok self s₀)
    (hopen : openDispute tok self env challenger m outcome evidence stake s₀ = .ok (d, s₁))
    (hrun : Steps (next tok self) (fun s a => a.KeepsVotes s m d) s₁ s₂) :
    ∃ dispute, s₂.dispute.get? (m, d) = some dispute ∧
      dispute.votesFor + dispute.votesAgainst ≤ circulating s₁ m := by
  have hs₁ : Reachable tok self s₁ := by
    apply hs.next (a := .call env (.openDispute challenger m outcome evidence stake))
    simp [next, invoke, hopen, Except.map]
  have htallied : ∃ dispute, Tallied (circulating s₁ m) s₂ m d dispute := by
    refine hs₁.preserves (P := fun s => ∃ dispute, Tallied (circulating s₁ m) s m d dispute) hrun
      ?_ (tallied_opened hs hopen)
    rintro s a s' hr ha heff ⟨dispute, ht⟩
    exact tallied_step hr ha heff ht
  obtain ⟨dispute, htally⟩ := htallied
  exact ⟨dispute, htally.stored, htally.cast⟩

section Runs

open Sample

/-- Bob holds forty-nine tokens, offers them, and carol bids for them before the
market resolves. -/
def ordersBeforeDispute : List (Action Balances) := [
  call (.createMarket alice (params 100 1000 30)),
  call (.buyOutcome bob 0 0 100 0),
  call (.placeOrder bob 0 0 .sell (10 ^ 17) 49),
  call (.placeOrder carol 0 0 .buy (10 ^ 17) 49),
  lateCall (.resolveMarket admin 0 0)]

/-- Bob votes, sells to carol, and carol votes with the same tokens. -/
def votedTwice : List (Action Balances) := [
  lateCall (.voteDispute bob 0 0 false),
  lateCall (.matchSellOrder bob 0 0),
  lateCall (.voteDispute carol 0 0 false)]

/-- Bob votes with his forty-nine tokens. -/
theorem votes_bounded_one_vote : ∃ (s₀ s₁ s₂ : State Balances) (dispute : Dispute),
    Reachable asset contract s₀ ∧
    openDispute asset contract (env 100) carol 0 1 "it did not rain" 10 s₀ = .ok (0, s₁) ∧
    invoke asset contract (env 100) (.voteDispute bob 0 0 false) s₁ = .ok s₂ ∧
    s₂.dispute.get? (0, 0) = some dispute ∧
    dispute.votesFor + dispute.votesAgainst ≤ circulating s₁ 0 := by
  have h : After (fun s₀ => After (fun r => r.1 = 0 ∧ After (fun _ => True)
        (invoke asset contract (env 100) (.voteDispute bob 0 0 false) r.2))
      (openDispute asset contract (env 100) carol 0 1 "it did not rain" 10 s₀))
      (run ordersBeforeDispute) := by
    decide +kernel
  obtain ⟨s₀, hs, h⟩ := h.exists_ok
  obtain ⟨⟨d, s₁⟩, hopen, rfl, h⟩ := h.exists_ok
  obtain ⟨s₂, hvote, -⟩ := h.exists_ok
  have hrun : Steps (next asset contract) (fun s a => a.KeepsVotes s 0 0) s₁ s₂ :=
    .tail (a := lateCall (.voteDispute bob 0 0 false)) (.refl s₁) trivial hvote
  obtain ⟨dispute, hd, hle⟩ := votes_bounded (run_reachable hs) hopen hrun
  exact ⟨s₀, s₁, s₂, dispute, run_reachable hs, hopen, hvote, hd, hle⟩

/-- Forty-nine tokens carry ninety-eight votes. -/
theorem votes_counted_twice : ∃ (s₀ s₁ s₂ : State Balances) (dispute : Dispute),
    Reachable asset contract s₀ ∧
    openDispute asset contract (env 100) carol 0 1 "it did not rain" 10 s₀ = .ok (0, s₁) ∧
    Steps (next asset contract) (fun _ _ => True) s₁ s₂ ∧
    s₂.dispute.get? (0, 0) = some dispute ∧ circulating s₁ 0 = 49 ∧
    dispute.votesFor + dispute.votesAgainst = 98 := by
  have h : After (fun s₀ => After (fun r => r.1 = 0 ∧ circulating r.2 0 = 49 ∧ After (fun s₂ =>
        ∃ dispute ∈ s₂.dispute.get? (0, 0), dispute.votesFor + dispute.votesAgainst = 98)
        (execute (next asset contract) votedTwice r.2))
      (openDispute asset contract (env 100) carol 0 1 "it did not rain" 10 s₀))
      (run ordersBeforeDispute) := by
    decide +kernel
  obtain ⟨s₀, hs, h⟩ := h.exists_ok
  obtain ⟨⟨d, s₁⟩, hopen, rfl, hcirc, h⟩ := h.exists_ok
  obtain ⟨s₂, hrun, dispute, hd, hvotes⟩ := h.exists_ok
  exact ⟨s₀, s₁, s₂, dispute, run_reachable hs, hopen,
    execute_steps votedTwice (fun _ _ _ => trivial) hrun, hd, hcirc, hvotes⟩

end Runs

end PredictionMarket
