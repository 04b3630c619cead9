import StellAIverse.Soroban.Run
import StellAIverse.PredictionMarket.Contract

/-!
# What a completed invocation does

`Effect` says once, for every entry point, which guards held and which entries
of storage were rewritten. It forgets messages, overflow checks and the order
of writes. Every law of the contract is proved from it, through `next_effect`.
-/

namespace PredictionMarket

open Soroban

variable {τ : Type}

/-- The part of a scan that changes: the orders, the outcome balances, what the
sell order still offers and what its fills have earned. -/
structure Book where
  order : Store (ℕ × ℕ) LimitOrder
  balance : Store (ℕ × ℕ × Address) ℤ
  remaining : ℤ
  received : ℤ

/-- One fill of amount `fill` of the buy order `buy`. -/
def Book.fill (b : Book) (m i : ℕ) (buy : LimitOrder) (fill : ℤ) : Book where
  order := b.order.set (buy.marketId, buy.orderId) { buy with
    filledQuantity := buy.filledQuantity + fill
    status := if buy.filledQuantity + fill ≥ buy.quantity then .filled else .open }
  balance := b.balance.put (m, i, buy.owner) (b.balance.amount (m, i, buy.owner) + fill)
  remaining := b.remaining - fill
  received := b.received + (buy.price * fill).tdiv decimalFactor

/-- A fill the scan performs: the stored order matches, and it is filled as far
as the sell order reaches. -/
inductive Fill (m : ℕ) (seller : Address) (sell : LimitOrder) (b : Book) : Book → Prop
  | fill (oid : ℕ) (buy : LimitOrder) (stored : b.order.get? (m, oid) = some buy)
      (eligible : Matches seller sell buy) (left : 0 < b.remaining) :
      Fill m seller sell b
        (b.fill m sell.outcomeIndex buy (min b.remaining (buy.quantity - buy.filledQuantity)))

abbrev Fills (m : ℕ) (seller : Address) (sell : LimitOrder) : Book → Book → Prop :=
  Relation.ReflTransGen (Fill m seller sell)

/-- The book as a scan of state `s` sees it. -/
def Book.on (b : Book) (s : State τ) : Scan τ where
  state := { s with order := b.order, outcomeBalance := b.balance }
  remaining := b.remaining
  received := b.received

theorem fillOrder_ok {m : ℕ} {sell buy : LimitOrder} {b : Book} {s : State τ} {acc : Scan τ}
    (h : fillOrder m sell buy (b.on s) = .ok acc) :
    acc = (b.fill m sell.outcomeIndex buy
      (min b.remaining (buy.quantity - buy.filledQuantity))).on s := by
  simp only [fillOrder, I128.sub_bind, I128.mul_bind, I128.div_bind, I128.add_bind] at h
  obtain ⟨-, -, -, -, -, -, -, -, h⟩ := h
  cases h
  have hmin : min b.remaining (buy.quantity - buy.filledQuantity) =
      if b.remaining < buy.quantity - buy.filledQuantity then b.remaining
      else buy.quantity - buy.filledQuantity := by
    split <;> omega
  rw [hmin]
  rfl

theorem scanOrders_ok {m : ℕ} {seller : Address} {sell : LimitOrder} {ids : List ℕ} {b : Book}
    {s : State τ} {acc : Scan τ} (h : scanOrders m seller sell ids (b.on s) = .ok acc) :
    ∃ b', acc = b'.on s ∧ Fills m seller sell b b' := by
  induction ids generalizing b with
  | nil =>
    cases h
    exact ⟨b, rfl, .refl⟩
  | cons oid rest ih =>
    unfold scanOrders at h
    split at h
    · cases h
      exact ⟨b, rfl, .refl⟩
    · rename_i hrem
      split at h
      · exact ih h
      · rename_i buy hbuy
        split at h
        · rename_i hmatch
          obtain ⟨acc', hacc, h⟩ := bind_ok.mp h
          rw [fillOrder_ok hacc] at h
          obtain ⟨b', hb', hfills⟩ := ih h
          exact ⟨b', hb', .head (.fill oid buy hbuy hmatch (not_le.mp hrem)) hfills⟩
        · exact ih h

theorem seedPools_ok {m : ℕ} {L : ℤ} (hL : 0 ≤ L) (count i : ℕ) {s s' : State τ}
    (h : seedPools m L count i s = .ok s') :
    ∃ pools supplies, s' = { s with outcomePool := pools, totalOutcomeSupply := supplies } ∧
      (∀ k, pools.get? k = if k.1 = m ∧ i ≤ k.2 ∧ k.2 < i + count then some ⟨L, L, L⟩
        else s.outcomePool.get? k) ∧
      (∀ k, supplies.get? k = if k.1 = m ∧ i ≤ k.2 ∧ k.2 < i + count then some 0
        else s.totalOutcomeSupply.get? k) := by
  induction count generalizing i s with
  | zero =>
    cases h
    refine ⟨_, _, rfl, ?_, ?_⟩ <;>
    · intro k
      rw [if_neg (by omega)]
  | succ count ih =>
    unfold seedPools at h
    rw [I128.mul_bind] at h
    obtain ⟨r, hr, h⟩ := bind_ok.mp h.2
    have hroot := isqrt_mul_self hL hr
    subst hroot
    obtain ⟨pools, supplies, hs, hp, hq⟩ := ih (i + 1) h
    refine ⟨pools, supplies, by rw [hs]; rfl, ?_, ?_⟩
    · rintro ⟨a, j⟩
      rw [hp]
      simp only [setOutcomePool, setTotalOutcomeSupply, Store.get?_set, Prod.mk.injEq]
      grind
    · rintro ⟨a, j⟩
      rw [hq]
      simp only [setOutcomePool, setTotalOutcomeSupply, Store.get?_set, Prod.mk.injEq]
      grind

/-- Collateral locked in a buy order, re-derived from what is still unfilled. -/
def LimitOrder.cost (o : LimitOrder) : ℤ :=
  (o.price * (o.quantity - o.filledQuantity)).tdiv decimalFactor

/-- The sell order after a scan that left `remaining` unsold. -/
def LimitOrder.settled (o : LimitOrder) (remaining : ℤ) : LimitOrder :=
  { o with
    filledQuantity := o.quantity - remaining
    status := if remaining = 0 then .filled else .open }

/-- What a pool pays for `lpAmount` of its shares. -/
def OutcomePool.collateralFor (p : OutcomePool) (lpAmount : ℤ) : ℤ :=
  (lpAmount * p.collateralReserve).tdiv p.lpTotalSupply

def OutcomePool.outcomeFor (p : OutcomePool) (lpAmount : ℤ) : ℤ :=
  (lpAmount * p.outcomeReserve).tdiv p.lpTotalSupply

/-- A redemption pays one for one unless the pool holds less. -/
def OutcomePool.payout (p : OutcomePool) (balance : ℤ) : ℤ :=
  if p.collateralReserve < balance then p.collateralReserve else balance

inductive Effect (tok : Token τ) (self : Address) (s : State τ) : Action τ → State τ → Prop
  | transfers (tokens : τ) : Effect tok self s (.transfers tokens) { s with tokens }
  | initializeContract (env : Env) (admin oracle : Address) (fresh : s.admin = none) :
      Effect tok self s (.call env (.initializeContract admin oracle))
        { s with
          admin := some admin, defaultOracle := some oracle, marketCounter := 0
          tradingPaused := false }
  | createMarket (env : Env) (creator : Address) (params : CreateMarketParams) (closes : ℕ)
      (tokens : τ) (pools : Store (ℕ × ℕ) OutcomePool) (supplies : Store (ℕ × ℕ) ℤ)
      (outcomes : 2 ≤ params.numOutcomes ∧ params.numOutcomes ≤ maxOutcomes)
      (fee : params.tradingFeeBps ≤ maxTradingFeeBps)
      (liquidity : 0 < params.initialLiquidity) (cap : 0 < params.maxOutcomeSupply)
      (paid : tok.transfer s.tokens params.collateralToken creator self
        (params.initialLiquidity * params.numOutcomes) = some tokens)
      (seeded : ∀ k, pools.get? k =
        if k.1 = s.marketCounter ∧ k.2 < params.numOutcomes then
          some ⟨params.initialLiquidity, params.initialLiquidity, params.initialLiquidity⟩
        else s.outcomePool.get? k)
      (unminted : ∀ k, supplies.get? k =
        if k.1 = s.marketCounter ∧ k.2 < params.numOutcomes then some 0
        else s.totalOutcomeSupply.get? k) :
      Effect tok self s (.call env (.createMarket creator params))
        { s with
          market := s.market.set s.marketCounter
            (newMarket env creator params s.marketCounter closes)
          marketCounter := s.marketCounter + 1, tokens, outcomePool := pools
          totalOutcomeSupply := supplies
          marketCollateral := s.marketCollateral.set s.marketCounter
            (params.initialLiquidity * params.numOutcomes)
          lpTotalSupply := s.lpTotalSupply.set s.marketCounter
            (params.initialLiquidity * params.numOutcomes) }
  | resolveMarket (env : Env) (caller : Address) (m outcome : ℕ) (market : Market)
      (stored : s.market.get? m = some market) (unresolved : market.status ≠ .resolved)
      (valid : outcome < market.numOutcomes) :
      Effect tok self s (.call env (.resolveMarket caller m outcome))
        { s with
          market := s.market.set market.marketId
            { market with status := .resolved, resolvedOutcome := some outcome } }
  | closeMarketEarly (env : Env) (caller : Address) (m : ℕ) (market : Market)
      (stored : s.market.get? m = some market) (active : market.status = .active) :
      Effect tok self s (.call env (.closeMarketEarly caller m))
        { s with market := s.market.set market.marketId { market with status := .closed } }
  | buyOutcome (env : Env) (buyer : Address) (m i : ℕ) (amount least net out : ℤ)
      (market : Market) (pool : OutcomePool) (tokens : τ)
      (positions : Store (ℕ × ℕ × Address) UserOutcomePosition)
      (stored : s.market.get? m = some market) (active : market.status = .active)
      (valid : i < market.numOutcomes) (pooled : s.outcomePool.get? (m, i) = some pool)
      (positive : 0 < amount ∧ 0 < pool.collateralReserve ∧ 0 < pool.outcomeReserve)
      (net_eq : net = netCollateral amount market.tradingFeeBps) (net_pos : 0 < net)
      (out_eq : out = bought pool.collateralReserve pool.outcomeReserve net) (out_pos : 0 < out)
      (cap : s.totalOutcomeSupply.amount (m, i) + out ≤ market.maxOutcomeSupply)
      (paid : tok.transfer s.tokens market.collateralToken buyer self amount = some tokens) :
      Effect tok self s (.call env (.buyOutcome buyer m i amount least))
        { s with
          tokens
          outcomePool := s.outcomePool.set (m, i) { pool with
            collateralReserve := pool.collateralReserve + net
            outcomeReserve := pool.outcomeReserve - out }
          outcomeBalance := s.outcomeBalance.put (m, i, buyer)
            (s.outcomeBalance.amount (m, i, buyer) + out)
          totalOutcomeSupply := s.totalOutcomeSupply.set (m, i)
            (s.totalOutcomeSupply.amount (m, i) + out)
          userPosition := positions
          marketCollateral := s.marketCollateral.set m (s.marketCollateral.amount m + amount) }
  | sellOutcome (env : Env) (seller : Address) (m i : ℕ) (amount least out : ℤ)
      (market : Market) (pool : OutcomePool) (tokens : τ)
      (positions : Store (ℕ × ℕ × Address) UserOutcomePosition)
      (stored : s.market.get? m = some market) (active : market.status = .active)
      (valid : i < market.numOutcomes) (pooled : s.outcomePool.get? (m, i) = some pool)
      (positive : 0 < amount ∧ 0 < pool.collateralReserve ∧ amount < pool.outcomeReserve)
      (covered : amount ≤ s.outcomeBalance.amount (m, i, seller))
      (out_eq : out = soldFor pool.collateralReserve pool.outcomeReserve amount
        market.tradingFeeBps) (out_pos : 0 < out)
      (paid : tok.transfer s.tokens market.collateralToken self seller out = some tokens) :
      Effect tok self s (.call env (.sellOutcome seller m i amount least))
        { s with
          tokens
          outcomePool := s.outcomePool.set (m, i) { pool with
            collateralReserve := pool.collateralReserve - out
            outcomeReserve := pool.outcomeReserve + amount }
          outcomeBalance := s.outcomeBalance.put (m, i, seller)
            (s.outcomeBalance.amount (m, i, seller) - amount)
          totalOutcomeSupply := s.totalOutcomeSupply.set (m, i)
            (s.totalOutcomeSupply.amount (m, i) - amount)
          userPosition := positions
          marketCollateral := s.marketCollateral.set m (s.marketCollateral.amount m - out) }
  | addLiquidity (env : Env) (provider : Address) (m i : ℕ) (a b shares : ℤ)
      (market : Market) (pool : OutcomePool) (tokens : τ)
      (stored : s.market.get? m = some market) (active : market.status = .active)
      (valid : i < market.numOutcomes) (pooled : s.outcomePool.get? (m, i) = some pool)
      (positive : 0 < a ∧ 0 < b) (minted : calculateLpSharesAdd a b pool = .ok shares)
      (shares_pos : 0 < shares)
      (paid : tok.transfer s.tokens market.collateralToken provider self a = some tokens) :
      Effect tok self s (.call env (.addLiquidity provider m i a b))
        { s with
          tokens
          outcomePool := s.outcomePool.set (m, i) ⟨pool.collateralReserve + a,
            pool.outcomeReserve + b, pool.lpTotalSupply + shares⟩
          lpShares := s.lpShares.put (m, provider) (s.lpShares.amount (m, provider) + shares)
          lpTotalSupply := s.lpTotalSupply.set m (s.lpTotalSupply.amount m + shares)
          marketCollateral := s.marketCollateral.set m (s.marketCollateral.amount m + a) }
  | removeLiquidity (env : Env) (provider : Address) (m i : ℕ) (x : ℤ)
      (market : Market) (pool : OutcomePool) (tokens : τ)
      (stored : s.market.get? m = some market)
      (pooled : s.outcomePool.get? (m, i) = some pool) (positive : 0 < x)
      (owned : x ≤ s.lpShares.amount (m, provider)) (supplied : 0 < pool.lpTotalSupply)
      (paid : tok.transfer s.tokens market.collateralToken self provider
        (pool.collateralFor x) = some tokens) :
      Effect tok self s (.call env (.removeLiquidity provider m i x))
        { s with
          tokens
          outcomePool := s.outcomePool.set (m, i) ⟨pool.collateralReserve - pool.collateralFor x,
            pool.outcomeReserve - pool.outcomeFor x, pool.lpTotalSupply - x⟩
          lpShares := s.lpShares.put (m, provider) (s.lpShares.amount (m, provider) - x)
          lpTotalSupply := s.lpTotalSupply.set m (s.lpTotalSupply.amount m - x)
          outcomeBalance := s.outcomeBalance.put (m, i, provider)
            (s.outcomeBalance.amount (m, i, provider) + pool.outcomeFor x)
          marketCollateral := s.marketCollateral.set m
            (s.marketCollateral.amount m - pool.collateralFor x) }
  | placeOrder (env : Env) (order : LimitOrder) (market : Market) (tokens : τ)
      (stored : s.market.get? order.marketId = some market) (active : market.status = .active)
      (valid : order.outcomeIndex < market.numOutcomes)
      (positive : 0 < order.price ∧ 0 < order.quantity)
      (covered : order.side = .sell →
        order.quantity ≤ s.outcomeBalance.amount (order.marketId, order.outcomeIndex, order.owner))
      (fresh : order.orderId = getOrderCounter s order.marketId)
      (unfilled : order.filledQuantity = 0) (opened : order.status = .open)
      (paid : match order.side with
        | .buy => tok.transfer s.tokens market.collateralToken order.owner self order.cost =
            some tokens
        | .sell => tokens = s.tokens) :
      Effect tok self s (.call env (.placeOrder order.owner order.marketId order.outcomeIndex
          order.side order.price order.quantity))
        { s with
          tokens, order := s.order.set (order.marketId, order.orderId) order
          orderCounter := s.orderCounter.set order.marketId (order.orderId + 1) }
  | cancelOrder (env : Env) (m oid : ℕ) (order : LimitOrder) (tokens : τ)
      (stored : s.order.get? (m, oid) = some order) (opened : order.status = .open)
      (paid : (order.side = .buy ∧ 0 < order.cost ∧ ∃ market, s.market.get? m = some market ∧
          tok.transfer s.tokens market.collateralToken self order.owner order.cost = some tokens) ∨
        (tokens = s.tokens ∧ (order.side = .buy → order.cost ≤ 0))) :
      Effect tok self s (.call env (.cancelOrder order.owner m oid))
        { s with
          tokens
          order := s.order.set (order.marketId, order.orderId) { order with status := .cancelled } }
  | matchSellOrder (env : Env) (m oid : ℕ) (sell : LimitOrder) (book : Book) (tokens : τ)
      (stored : s.order.get? (m, oid) = some sell) (opened : sell.status = .open)
      (sells : sell.side = .sell)
      (scanned : scanOrders m sell.owner sell (List.range (getOrderCounter s m))
        (Book.on ⟨s.order, s.outcomeBalance, sell.quantity - sell.filledQuantity, 0⟩ s) =
          .ok (book.on s))
      (fills : Fills m sell.owner sell
        ⟨s.order, s.outcomeBalance, sell.quantity - sell.filledQuantity, 0⟩ book)
      (paid : (0 < book.received ∧ ∃ market, s.market.get? m = some market ∧
          tok.transfer s.tokens market.collateralToken self sell.owner book.received =
            some tokens) ∨
        (tokens = s.tokens ∧ book.received ≤ 0)) :
      Effect tok self s (.call env (.matchSellOrder sell.owner m oid))
        { s with
          tokens
          order := book.order.set (sell.marketId, sell.orderId) (sell.settled book.remaining)
          outcomeBalance := book.balance.put (m, sell.outcomeIndex, sell.owner)
            (book.balance.amount (m, sell.outcomeIndex, sell.owner) -
              (sell.quantity - book.remaining)) }
  | redeemWinningTokens (env : Env) (user : Address) (m w : ℕ) (market : Market)
      (pool : OutcomePool) (tokens : τ) (stored : s.market.get? m = some market)
      (resolved : market.status = .resolved) (winner : market.resolvedOutcome = some w)
      (held : 0 < s.outcomeBalance.amount (m, w, user))
      (pooled : s.outcomePool.get? (m, w) = some pool)
      (paid : tok.transfer s.tokens market.collateralToken self user
        (pool.payout (s.outcomeBalance.amount (m, w, user))) = some tokens) :
      Effect tok self s (.call env (.redeemWinningTokens user m))
        { s with
          tokens
          outcomeBalance := s.outcomeBalance.put (m, w, user) 0
          outcomePool := s.outcomePool.set (m, w) { pool with
            collateralReserve :=
              pool.collateralReserve - pool.payout (s.outcomeBalance.amount (m, w, user)) }
          marketCollateral := s.marketCollateral.set m (s.marketCollateral.amount m -
            pool.payout (s.outcomeBalance.amount (m, w, user))) }
  | openDispute (env : Env) (dispute : Dispute) (market : Market) (tokens : τ)
      (stored : s.market.get? dispute.marketId = some market)
      (resolved : market.status = .resolved) (valid : dispute.claimedOutcome < market.numOutcomes)
      (staked : 0 < dispute.stakeAmount)
      (fresh : dispute.disputeId = getDisputeCounter s dispute.marketId)
      (opened : dispute.status = .open) (unvoted : dispute.votesFor = 0 ∧ dispute.votesAgainst = 0)
      (paid : tok.transfer s.tokens market.collateralToken dispute.challenger self
        dispute.stakeAmount = some tokens) :
      Effect tok self s (.call env (.openDispute dispute.challenger dispute.marketId
          dispute.claimedOutcome dispute.evidence dispute.stakeAmount))
        { s with
          tokens, dispute := s.dispute.set (dispute.marketId, dispute.disputeId) dispute
          disputeCounter := s.disputeCounter.set dispute.marketId (dispute.disputeId + 1)
          market := s.market.set market.marketId { market with status := .disputed } }
  | voteDispute (env : Env) (voter : Address) (m d : ℕ) (support : Bool) (dispute : Dispute)
      (market : Market) (weight : ℤ) (stored : s.dispute.get? (m, d) = some dispute)
      (live : dispute.status = .open ∨ dispute.status = .voted)
      (unvoted : s.disputeVote.get? (m, d, voter) = none)
      (known : s.market.get? m = some market)
      (weighed : voteWeight s m voter market.numOutcomes = .ok weight) (weight_pos : 0 < weight) :
      Effect tok self s (.call env (.voteDispute voter m d support))
        { s with
          disputeVote := s.disputeVote.set (m, d, voter) weight
          dispute := s.dispute.set (dispute.marketId, dispute.disputeId) { dispute with
            votesFor := dispute.votesFor + if support then weight else 0
            votesAgainst := dispute.votesAgainst + if support then 0 else weight
            status := .voted } }
  | upholdDispute (env : Env) (admin : Address) (m d : ℕ) (dispute : Dispute) (market : Market)
      (tokens : τ) (stored : s.dispute.get? (m, d) = some dispute)
      (live : dispute.status ≠ .resolvedUpheld ∧ dispute.status ≠ .resolvedRejected)
      (known : s.market.get? m = some market) (upheld : dispute.votesAgainst < dispute.votesFor)
      (paid : tok.transfer s.tokens market.collateralToken self dispute.challenger
        dispute.stakeAmount = some tokens) :
      Effect tok self s (.call env (.resolveDispute admin m d))
        { s with
          tokens
          market := s.market.set market.marketId { market with
            resolvedOutcome := some dispute.claimedOutcome, status := .resolved }
          dispute := s.dispute.set (dispute.marketId, dispute.disputeId) { dispute with
            status := .resolvedUpheld, resolvedAt := some env.timestamp } }
  | rejectDispute (env : Env) (admin : Address) (m d : ℕ) (dispute : Dispute) (market : Market)
      (tokens : τ) (stored : s.dispute.get? (m, d) = some dispute)
      (live : dispute.status ≠ .resolvedUpheld ∧ dispute.status ≠ .resolvedRejected)
      (known : s.market.get? m = some market) (rejected : dispute.votesFor ≤ dispute.votesAgainst)
      (paid : match s.governanceCollector with
        | some collector => tok.transfer s.tokens market.collateralToken self collector
            dispute.stakeAmount = some tokens
        | none => tokens = s.tokens) :
      Effect tok self s (.call env (.resolveDispute admin m d))
        { s with
          tokens
          market := s.market.set market.marketId { market with status := .resolved }
          dispute := s.dispute.set (dispute.marketId, dispute.disputeId) { dispute with
            status := .resolvedRejected, resolvedAt := some env.timestamp } }
  | adminPauseTrading (env : Env) (admin : Address) :
      Effect tok self s (.call env (.adminPauseTrading admin)) { s with tradingPaused := true }
  | adminResumeTrading (env : Env) (admin : Address) :
      Effect tok self s (.call env (.adminResumeTrading admin)) { s with tradingPaused := false }
  | adminSetAdmin (env : Env) (current new : Address) :
      Effect tok self s (.call env (.adminSetAdmin current new)) { s with admin := some new }
  | adminSetFeeConfig (env : Env) (admin collector : Address) (bps : ℤ) :
      Effect tok self s (.call env (.adminSetFeeConfig admin collector bps))
        { s with governanceCollector := some collector, feeShareBps := bps }
  | adminSetOracle (env : Env) (admin oracle : Address) :
      Effect tok self s (.call env (.adminSetOracle admin oracle))
        { s with defaultOracle := some oracle }

section Inversion

variable {tok : Token τ} {self : Address} {env : Env} {s s' : State τ}

theorem assertMarketActive_bind {m : ℕ} {β : Type} {f : Unit → Result β} {r : β} :
    (assertMarketActive s m >>= f) = .ok r ↔
      (∃ market, s.market.get? m = some market ∧ market.status = .active) ∧ f () = .ok r := by
  simp only [assertMarketActive, getMarket, bind_assoc, expect_bind, panicIf_bind, ne_eq, not_not]
  grind

theorem assertTradingActive_bind {m : ℕ} {β : Type} {f : Unit → Result β} {r : β} :
    (assertTradingActive s m >>= f) = .ok r → (∃ market, s.market.get? m = some market ∧
      market.status = .active) ∧ f () = .ok r := by
  simp only [assertTradingActive, bind_assoc, panicIf_bind, assertMarketActive_bind]
  exact fun h => h.2

theorem updatePosition_ok {m i : ℕ} {user : Address} {q c : ℤ}
    (h : updatePosition env m i user q c s = .ok s') :
    ∃ positions, s' = { s with userPosition := positions } := by
  unfold updatePosition at h
  split at h <;> simp only [bind_ok] at h
  · obtain ⟨_, -, _, -, _, -, _, -, _, -, h⟩ := h
    cases h
    exact ⟨_, rfl⟩
  · obtain ⟨_, -, h⟩ := h
    cases h
    exact ⟨_, rfl⟩

theorem updatePositionOnSell_ok {m i : ℕ} {user : Address} {q c e : ℤ}
    (h : updatePositionOnSell env m i user q c e s = .ok s') :
    ∃ positions, s' = { s with userPosition := positions } := by
  unfold updatePositionOnSell at h
  obtain ⟨_, -, h⟩ := bind_ok.mp h
  cases h
  split
  · exact ⟨_, rfl⟩
  · exact ⟨_, rfl⟩

theorem createMarket_effect {creator : Address} {params : CreateMarketParams} {r : ℕ × State τ}
    (h : createMarket tok self env creator params s = .ok r) :
    Effect tok self s (.call env (.createMarket creator params)) r.2 := by
  unfold createMarket at h
  simp only [requireAuth_bind, panicIf_bind, U64.add_bind, I128.mul_bind, Token.pay_bind] at h
  obtain ⟨-, hn, -, hfee, -, hL, hcap, -, -, -, tokens, hpay, h⟩ := h
  obtain ⟨s₁, hs₁, h⟩ := bind_ok.mp h
  simp only [I128.mul_bind] at h
  obtain ⟨root, hroot, h⟩ := bind_ok.mp h.2
  simp only [I128.mul_bind] at h
  obtain ⟨pools, supplies, rfl, hpools, hsupplies⟩ := seedPools_ok (by omega) _ 0 hs₁
  have hr := isqrt_mul_self (by omega) hroot
  subst hr
  cases h.2
  refine .createMarket env creator params _ tokens pools supplies ⟨by omega, by omega⟩
    (not_lt.mp hfee) (not_le.mp hL) (not_le.mp hcap) hpay ?_ ?_
  · intro k
    simpa [setMarket] using hpools k
  · intro k
    simpa [setMarket] using hsupplies k

/-- `create_market` returns the id it was next to hand out. -/
theorem createMarket_id {creator : Address} {params : CreateMarketParams} {r : ℕ × State τ}
    (h : createMarket tok self env creator params s = .ok r) : r.1 = s.marketCounter := by
  unfold createMarket at h
  simp only [requireAuth_bind, panicIf_bind, U64.add_bind, I128.mul_bind, Token.pay_bind] at h
  obtain ⟨-, -, -, -, -, -, -, -, -, -, _, -, h⟩ := h
  obtain ⟨_, -, h⟩ := bind_ok.mp h
  simp only [I128.mul_bind] at h
  obtain ⟨_, -, h⟩ := bind_ok.mp h.2
  simp only [I128.mul_bind] at h
  cases h.2
  rfl

theorem resolveMarket_effect {caller : Address} {m outcome : ℕ}
    (h : resolveMarket env caller m outcome s = .ok s') :
    Effect tok self s (.call env (.resolveMarket caller m outcome)) s' := by
  unfold resolveMarket at h
  simp only [requireAuth_bind, panicIf_bind, expect_bind] at h
  obtain ⟨-, market, hm, -, hres, -, hout, h⟩ := h
  cases h
  exact .resolveMarket env caller m outcome market hm hres (not_le.mp hout)

theorem closeMarketEarly_effect {caller : Address} {m : ℕ}
    (h : closeMarketEarly env caller m s = .ok s') :
    Effect tok self s (.call env (.closeMarketEarly caller m)) s' := by
  unfold closeMarketEarly at h
  simp only [requireAuth_bind, panicIf_bind, expect_bind, ne_eq, not_not] at h
  obtain ⟨-, market, hm, -, hact, h⟩ := h
  cases h
  exact .closeMarketEarly env caller m market hm hact

theorem buyOutcome_effect {buyer : Address} {m i : ℕ} {amount least : ℤ} {r : ℤ × State τ}
    (h : buyOutcome tok self env buyer m i amount least s = .ok r) :
    Effect tok self s (.call env (.buyOutcome buyer m i amount least)) r.2 := by
  unfold buyOutcome at h
  rw [requireAuth_bind] at h
  obtain ⟨⟨market, hm, hact⟩, h⟩ := assertTradingActive_bind h.2
  simp only [panicIf_bind, unwrap_bind, expect_bind, getMarket, hm, Option.some.injEq,
    exists_eq_left'] at h
  obtain ⟨hamount, hi, pool, hp, h⟩ := h
  obtain ⟨out, hout, h⟩ := bind_ok.mp h
  simp only [panicIf_bind, I128.add_bind, I128.sub_bind, I128.mul_bind, I128.div_bind,
    Token.pay_bind] at h
  obtain ⟨hpos, -, -, hcap, tokens, hpay, -, -, -, -, -, -, -, h⟩ := h
  obtain ⟨s₁, hs₁, h⟩ := bind_ok.mp h
  obtain ⟨positions, rfl⟩ := updatePosition_ok hs₁
  rw [I128.add_bind] at h
  cases h.2
  obtain ⟨hx, hy, hnet, rfl⟩ := calculateBuyAmount_ok hout (not_le.mp hpos)
  exact .buyOutcome env buyer m i amount least _ _ market pool tokens positions hm hact
    (not_le.mp hi) hp ⟨not_le.mp hamount, hx, hy⟩ rfl hnet rfl (not_le.mp hpos) (not_lt.mp hcap)
    hpay

theorem sellOutcome_effect {seller : Address} {m i : ℕ} {amount least : ℤ} {r : ℤ × State τ}
    (h : sellOutcome tok self env seller m i amount least s = .ok r) :
    Effect tok self s (.call env (.sellOutcome seller m i amount least)) r.2 := by
  unfold sellOutcome at h
  rw [requireAuth_bind] at h
  obtain ⟨⟨market, hm, hact⟩, h⟩ := assertTradingActive_bind h.2
  simp only [panicIf_bind, unwrap_bind, expect_bind, getMarket, hm, Option.some.injEq,
    exists_eq_left'] at h
  obtain ⟨hamount, hi, hcov, pool, hp, h⟩ := h
  obtain ⟨out, hout, h⟩ := bind_ok.mp h
  simp only [panicIf_bind, I128.add_bind, I128.sub_bind, Token.pay_bind] at h
  obtain ⟨hpos, -, -, -, -, tokens, hpay, h⟩ := h
  obtain ⟨s₁, hs₁, h⟩ := bind_ok.mp h
  obtain ⟨positions, rfl⟩ := updatePositionOnSell_ok hs₁
  simp only [I128.sub_bind] at h
  cases h.2.2
  obtain ⟨hd, hx, hy, rfl⟩ := calculateSellAmount_ok hout (not_le.mp hpos)
  exact .sellOutcome env seller m i amount least _ market pool tokens positions hm hact
    (not_le.mp hi) hp ⟨hd, hx, hy⟩ (not_lt.mp hcov) rfl (not_le.mp hpos) hpay

theorem addLiquidity_effect {provider : Address} {m i : ℕ} {a b : ℤ} {r : ℤ × State τ}
    (h : addLiquidity tok self env provider m i a b s = .ok r) :
    Effect tok self s (.call env (.addLiquidity provider m i a b)) r.2 := by
  unfold addLiquidity at h
  rw [requireAuth_bind, assertMarketActive_bind] at h
  obtain ⟨-, ⟨market, hm, hact⟩, h⟩ := h
  simp only [panicIf_bind, unwrap_bind, expect_bind, getMarket, hm, Option.some.injEq,
    exists_eq_left', not_or, not_le] at h
  obtain ⟨hab, hi, pool, hp, h⟩ := h
  obtain ⟨shares, hshares, h⟩ := bind_ok.mp h
  simp only [panicIf_bind, I128.add_bind, Token.pay_bind] at h
  obtain ⟨hpos, tokens, hpay, -, -, -, -, -, -, h⟩ := h
  cases h
  exact .addLiquidity env provider m i a b shares market pool tokens hm hact hi hp hab
    hshares (not_le.mp hpos) hpay

theorem removeLiquidity_effect {provider : Address} {m i : ℕ} {x : ℤ} {r : (ℤ × ℤ) × State τ}
    (h : removeLiquidity tok self env provider m i x s = .ok r) :
    Effect tok self s (.call env (.removeLiquidity provider m i x)) r.2 := by
  unfold removeLiquidity at h
  simp only [requireAuth_bind, panicIf_bind, expect_bind, not_le, not_lt] at h
  obtain ⟨-, hx, hown, pool, hp, hT, h⟩ := h
  have h := calculateLpWithdraw_bind h
  simp only [unwrap_bind, Token.pay_bind, I128.sub_bind, I128.add_bind] at h
  obtain ⟨market, hm, tokens, hpay, -, -, -, -, -, -, -, h⟩ := h
  cases h
  exact .removeLiquidity env provider m i x market pool tokens hm hp hx hown hT hpay

/-- `remove_liquidity` returns what the pool pays for the burned shares. -/
theorem removeLiquidity_paid {provider : Address} {m i : ℕ} {x : ℤ} {r : (ℤ × ℤ) × State τ}
    (h : removeLiquidity tok self env provider m i x s = .ok r) :
    ∃ pool, s.outcomePool.get? (m, i) = some pool ∧ r.1.1 = pool.collateralFor x := by
  unfold removeLiquidity at h
  simp only [requireAuth_bind, panicIf_bind, expect_bind, not_le, not_lt] at h
  obtain ⟨-, -, -, pool, hp, -, h⟩ := h
  have h := calculateLpWithdraw_bind h
  simp only [unwrap_bind, Token.pay_bind, I128.sub_bind, I128.add_bind] at h
  obtain ⟨_, -, _, -, -, -, -, -, -, -, -, h⟩ := h
  cases h
  exact ⟨pool, hp, rfl⟩

theorem placeOrder_effect {owner : Address} {m i : ℕ} {side : OrderSide} {price quantity : ℤ}
    {r : ℕ × State τ} (h : placeOrder tok self env owner m i side price quantity s = .ok r) :
    Effect tok self s (.call env (.placeOrder owner m i side price quantity)) r.2 := by
  unfold placeOrder at h
  rw [requireAuth_bind] at h
  obtain ⟨⟨market, hm, hact⟩, h⟩ := assertTradingActive_bind h.2
  simp only [panicIf_bind, unwrap_bind, getMarket, hm, Option.some.injEq, exists_eq_left',
    not_or, not_le, not_and, not_lt] at h
  obtain ⟨hpos, hi, hcov, h⟩ := h
  obtain ⟨tokens, hlock, h⟩ := bind_ok.mp h
  rw [U64.add_bind] at h
  cases h.2
  refine .placeOrder env ⟨_, m, owner, i, side, price, quantity, 0, .open, _, none⟩ market tokens
    hm hact hi hpos hcov rfl rfl rfl ?_
  cases side with
  | sell =>
    cases hlock
    rfl
  | buy =>
    simp only [lockCollateral, I128.mul_bind, I128.div_bind, panicIf_bind, Token.pay_ok] at hlock
    obtain ⟨-, -, -, -, hpay⟩ := hlock
    simpa [LimitOrder.cost] using hpay

theorem cancelOrder_effect {owner : Address} {m oid : ℕ}
    (h : cancelOrder tok self env owner m oid s = .ok s') :
    Effect tok self s (.call env (.cancelOrder owner m oid)) s' := by
  unfold cancelOrder at h
  simp only [requireAuth_bind, expect_bind, panicIf_bind, ne_eq, not_not] at h
  obtain ⟨-, order, hstored, rfl, hopen, h⟩ := h
  split at h
  · rename_i hside
    cases h
    exact .cancelOrder env m oid order s.tokens hstored hopen (.inr ⟨rfl, by simp [hside]⟩)
  · rename_i hside
    simp only [I128.sub_bind, I128.mul_bind, I128.div_bind] at h
    obtain ⟨-, -, -, -, h⟩ := h
    split at h
    · rename_i hcost
      simp only [unwrap_bind, Token.pay_bind] at h
      obtain ⟨market, hm, tokens, hpay, h⟩ := h
      cases h
      exact .cancelOrder env m oid order tokens hstored hopen
        (.inl ⟨hside, hcost, market, hm, hpay⟩)
    · rename_i hcost
      cases h
      exact .cancelOrder env m oid order s.tokens hstored hopen
        (.inr ⟨rfl, fun _ => not_lt.mp hcost⟩)

theorem matchSellOrder_effect {seller : Address} {m oid : ℕ} {r : ℤ × State τ}
    (h : matchSellOrder tok self env seller m oid s = .ok r) :
    Effect tok self s (.call env (.matchSellOrder seller m oid)) r.2 := by
  unfold matchSellOrder at h
  simp only [requireAuth_bind, expect_bind, panicIf_bind, I128.sub_bind, ne_eq, not_not] at h
  obtain ⟨-, sell, hstored, rfl, hopen, hsell, -, h⟩ := h
  obtain ⟨acc, hacc, h⟩ := bind_ok.mp h
  obtain ⟨book, rfl, hfills⟩ := scanOrders_ok
    (b := ⟨s.order, s.outcomeBalance, sell.quantity - sell.filledQuantity, 0⟩) hacc
  simp only [I128.sub_bind] at h
  obtain ⟨-, -, h⟩ := h
  split at h
  · rename_i hrec
    simp only [unwrap_bind, Token.pay_bind] at h
    obtain ⟨market, hm, tokens, hpay, h⟩ := h
    cases h
    exact .matchSellOrder env m oid sell book tokens hstored hopen hsell hacc hfills
      (.inl ⟨hrec, market, hm, hpay⟩)
  · rename_i hrec
    cases h
    exact .matchSellOrder env m oid sell book s.tokens hstored hopen hsell hacc hfills
      (.inr ⟨rfl, not_lt.mp hrec⟩)

theorem redeemWinningTokens_ok {user : Address} {m : ℕ} {r : ℤ × State τ}
    (h : redeemWinningTokens tok self env user m s = .ok r) :
    ∃ market w pool, s.market.get? m = some market ∧ market.status = .resolved ∧
      market.resolvedOutcome = some w ∧ s.outcomePool.get? (m, w) = some pool ∧
      r.1 = pool.payout (s.outcomeBalance.amount (m, w, user)) ∧
      Effect tok self s (.call env (.redeemWinningTokens user m)) r.2 := by
  unfold redeemWinningTokens at h
  simp only [requireAuth_bind, expect_bind, panicIf_bind, I128.sub_bind, Token.pay_bind, ne_eq,
    not_not] at h
  obtain ⟨-, market, hm, hres, w, hw, hbal, pool, hp, tokens, hpay, -, -, h⟩ := h
  cases h
  exact ⟨market, w, pool, hm, hres, hw, hp, rfl,
    .redeemWinningTokens env user m w market pool tokens hm hres hw (not_le.mp hbal) hp hpay⟩

theorem openDispute_effect {challenger : Address} {m outcome : ℕ} {evidence : String} {stake : ℤ}
    {r : ℕ × State τ} (h : openDispute tok self env challenger m outcome evidence stake s = .ok r) :
    Effect tok self s (.call env (.openDispute challenger m outcome evidence stake)) r.2 := by
  unfold openDispute at h
  simp only [requireAuth_bind, expect_bind, panicIf_bind, U64.add_bind, Token.pay_bind, ne_eq,
    not_not] at h
  obtain ⟨-, market, hm, hres, hout, hstake, tokens, hpay, -, h⟩ := h
  cases h
  exact .openDispute env
    ⟨getDisputeCounter s m, m, challenger, outcome, evidence, stake, .open, 0, 0, env.timestamp, none⟩
    market tokens hm hres (not_le.mp hout) (not_le.mp hstake) rfl rfl ⟨rfl, rfl⟩ hpay

/-- `open_dispute` returns the id it was next to hand out. -/
theorem openDispute_id {challenger : Address} {m outcome : ℕ} {evidence : String} {stake : ℤ}
    {r : ℕ × State τ} (h : openDispute tok self env challenger m outcome evidence stake s = .ok r) :
    r.1 = getDisputeCounter s m := by
  unfold openDispute at h
  simp only [requireAuth_bind, expect_bind, panicIf_bind, U64.add_bind, Token.pay_bind, ne_eq,
    not_not] at h
  obtain ⟨-, _, -, -, -, -, _, -, -, h⟩ := h
  cases h
  rfl

theorem voteDispute_effect {voter : Address} {m d : ℕ} {support : Bool}
    (h : voteDispute env voter m d support s = .ok s') :
    Effect tok self s (.call env (.voteDispute voter m d support)) s' := by
  unfold voteDispute at h
  simp only [requireAuth_bind, expect_bind, panicIf_bind, unwrap_bind] at h
  obtain ⟨-, dispute, hd, hlive, hvoted, market, hm, h⟩ := h
  obtain ⟨weight, hweight, h⟩ := bind_ok.mp h
  rw [panicIf_bind] at h
  obtain ⟨hpos, h⟩ := h
  have hnone : s.disputeVote.get? (m, d, voter) = none := by simpa [hasVoted] using hvoted
  have heff : Effect tok self s _ _ := .voteDispute env voter m d support dispute market
    weight hd (by tauto) hnone hm hweight (not_le.mp hpos)
  cases support with
  | true =>
    simp only [if_true, I128.add_bind] at h
    cases h.2
    simpa [setDispute, setVote] using heff
  | false =>
    simp only [Bool.false_eq_true, if_false, I128.add_bind] at h
    cases h.2
    simpa [setDispute, setVote] using heff

theorem assertAdmin_bind {caller : Address} {β : Type} {f : Unit → Result β} {r : β} :
    (assertAdmin s caller >>= f) = .ok r ↔ s.admin = some caller ∧ f () = .ok r := by
  simp only [assertAdmin, bind_assoc, expect_bind, panicIf_bind, ne_eq, not_not]
  constructor
  · rintro ⟨a, ha, rfl, h⟩
    exact ⟨ha, h⟩
  · rintro ⟨ha, h⟩
    exact ⟨caller, ha, rfl, h⟩

theorem resolveDispute_effect {admin : Address} {m d : ℕ}
    (h : resolveDispute tok self env admin m d s = .ok s') :
    Effect tok self s (.call env (.resolveDispute admin m d)) s' := by
  unfold resolveDispute at h
  simp only [requireAuth_bind, assertAdmin_bind, expect_bind, panicIf_bind, unwrap_bind,
    not_or] at h
  obtain ⟨-, -, dispute, hd, hlive, market, hm, h⟩ := h
  split at h
  · rename_i hvotes
    simp only [Token.pay_bind] at h
    obtain ⟨tokens, hpay, h⟩ := h
    cases h
    exact .upholdDispute env admin m d dispute market tokens hd hlive hm hvotes hpay
  · rename_i hvotes
    obtain ⟨tokens, hpay, h⟩ := bind_ok.mp h
    cases h
    refine .rejectDispute env admin m d dispute market tokens hd hlive hm (not_lt.mp hvotes) ?_
    unfold forfeitStake at hpay
    cases hcollector : s.governanceCollector with
    | some collector =>
      rw [hcollector] at hpay
      exact tok.pay_ok.mp hpay
    | none =>
      rw [hcollector] at hpay
      exact (Except.ok.inj hpay).symm

/-- Every completed invocation has one of the effects above. -/
theorem next_effect {a : Action τ} (h : next tok self a s = .ok s') : Effect tok self s a s' := by
  cases a with
  | transfers tokens =>
    cases h
    exact .transfers tokens
  | call env op =>
    cases op with
    | initializeContract admin oracle =>
      simp only [next, invoke, initializeContract, panicIf_bind, requireAuth_bind] at h
      obtain ⟨hadmin, -, h⟩ := h
      cases h
      exact .initializeContract env admin oracle (by simpa using hadmin)
    | createMarket creator params =>
      obtain ⟨r, hr, rfl⟩ := map_ok.mp h
      exact createMarket_effect hr
    | resolveMarket caller m o => exact resolveMarket_effect h
    | closeMarketEarly caller m => exact closeMarketEarly_effect h
    | buyOutcome buyer m i c o =>
      obtain ⟨r, hr, rfl⟩ := map_ok.mp h
      exact buyOutcome_effect hr
    | sellOutcome seller m i o c =>
      obtain ⟨r, hr, rfl⟩ := map_ok.mp h
      exact sellOutcome_effect hr
    | addLiquidity p m i c o =>
      obtain ⟨r, hr, rfl⟩ := map_ok.mp h
      exact addLiquidity_effect hr
    | removeLiquidity p m i l =>
      obtain ⟨r, hr, rfl⟩ := map_ok.mp h
      exact removeLiquidity_effect hr
    | placeOrder owner m i side p q =>
      obtain ⟨r, hr, rfl⟩ := map_ok.mp h
      exact placeOrder_effect hr
    | cancelOrder owner m o => exact cancelOrder_effect h
    | matchSellOrder seller m o =>
      obtain ⟨r, hr, rfl⟩ := map_ok.mp h
      exact matchSellOrder_effect hr
    | redeemWinningTokens user m =>
      obtain ⟨r, hr, rfl⟩ := map_ok.mp h
      obtain ⟨_, _, _, _, _, _, _, _, heff⟩ := redeemWinningTokens_ok hr
      exact heff
    | openDispute c m o e stake =>
      obtain ⟨r, hr, rfl⟩ := map_ok.mp h
      exact openDispute_effect hr
    | voteDispute voter m d support => exact voteDispute_effect h
    | resolveDispute admin m d => exact resolveDispute_effect h
    | adminPauseTrading admin =>
      simp only [next, invoke, adminPauseTrading, setPaused, requireAuth_bind,
        assertAdmin_bind] at h
      cases h.2.2
      exact .adminPauseTrading env admin
    | adminResumeTrading admin =>
      simp only [next, invoke, adminResumeTrading, setPaused, requireAuth_bind,
        assertAdmin_bind] at h
      cases h.2.2
      exact .adminResumeTrading env admin
    | adminSetAdmin current new =>
      simp only [next, invoke, adminSetAdmin, requireAuth_bind, assertAdmin_bind] at h
      cases h.2.2
      exact .adminSetAdmin env current new
    | adminSetFeeConfig admin collector bps =>
      simp only [next, invoke, adminSetFeeConfig, requireAuth_bind, assertAdmin_bind,
        panicIf_bind] at h
      cases h.2.2.2
      exact .adminSetFeeConfig env admin collector bps
    | adminSetOracle admin oracle =>
      simp only [next, invoke, adminSetOracle, requireAuth_bind, assertAdmin_bind] at h
      cases h.2.2
      exact .adminSetOracle env admin oracle

end Inversion

end PredictionMarket
