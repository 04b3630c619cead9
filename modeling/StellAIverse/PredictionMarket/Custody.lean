import StellAIverse.PredictionMarket.Disputes
import StellAIverse.PredictionMarket.Liquidity

/-!
# Collateral custody

What the contract owes in a token is the recorded collateral of the markets that
use it, the cost locked in their open buy orders and the stakes of their live
disputes. The locked cost of an order is re-derived by rounding down at every
fill; since rounding down is superadditive, the fills and what stays locked
never add up to more than was paid in. A market that is overwritten leaves its orders
and disputes to the new one, which may use another token.
-/

namespace PredictionMarket

open Soroban

variable {τ : Type} {tok : Token τ} {self : Address} {s s' : State τ} {a : Action τ}

/-- The accounts an invocation names: whoever calls it, and the fee collector. -/
def Op.parties : Op → List Address
  | .initializeContract admin _ => [admin]
  | .createMarket creator _ => [creator]
  | .resolveMarket oracleCaller _ _ => [oracleCaller]
  | .closeMarketEarly caller _ => [caller]
  | .buyOutcome buyer _ _ _ _ => [buyer]
  | .sellOutcome seller _ _ _ _ => [seller]
  | .addLiquidity provider _ _ _ _ => [provider]
  | .removeLiquidity provider _ _ _ => [provider]
  | .placeOrder owner _ _ _ _ _ => [owner]
  | .cancelOrder owner _ _ => [owner]
  | .matchSellOrder seller _ _ => [seller]
  | .redeemWinningTokens user _ => [user]
  | .openDispute challenger _ _ _ _ => [challenger]
  | .voteDispute voter _ _ _ => [voter]
  | .resolveDispute admin _ _ => [admin]
  | .adminPauseTrading admin => [admin]
  | .adminResumeTrading admin => [admin]
  | .adminSetAdmin currentAdmin _ => [currentAdmin]
  | .adminSetFeeConfig admin collector _ => [admin, collector]
  | .adminSetOracle admin _ => [admin]

/-- The contract is not a party to its own calls, and nobody else spends its
tokens. -/
def Action.Outside (tok : Token τ) (self : Address) (s : State τ) : Action τ → Prop
  | .call _ op => self ∉ op.parties
  | .transfers tokens => ∀ t, tok.balance s.tokens t self ≤ tok.balance tokens t self

section Owed

variable (tokenOf : ℕ → Option Address) (t : Address)

def orderOwed (k : ℕ × ℕ) (o : LimitOrder) : ℤ :=
  if (o.side = .buy ∧ o.status = .open) ∧ tokenOf k.1 = some t then o.cost else 0

def stakeOwed (k : ℕ × ℕ) (d : Dispute) : ℤ :=
  if d.Live ∧ tokenOf k.1 = some t then d.stakeAmount else 0

/-- What is owed in token `t`, given the token of each market. -/
def owedBy (s : State τ) : ℤ :=
  s.marketCollateral.sumOver (fun m => tokenOf m = some t) +
    s.order.total (orderOwed tokenOf t) + s.dispute.total (stakeOwed tokenOf t)

end Owed

/-- The collateral token of market `m`. -/
def collateralTokenOf (s : State τ) (m : ℕ) : Option Address :=
  (s.market.get? m).map Market.collateralToken

/-- What the contract owes in token `t`: recorded collateral, locked cost of open
buy orders, and stakes of live disputes. -/
def owed (s : State τ) (t : Address) : ℤ := owedBy (collateralTokenOf s) t s

/-- Everything is stored under known markets, so their tokens decide what is owed. -/
theorem owedBy_congr (hs : Reachable tok self s) {f g : ℕ → Option Address} (t : Address)
    (h : ∀ m, s.market.get? m ≠ none → f m = g m) : owedBy f t s = owedBy g t s := by
  have hm : s.marketCollateral.sumOver (fun m => f m = some t) =
      s.marketCollateral.sumOver (fun m => g m = some t) :=
    Store.sumOver_congr fun m v hv => by rw [h m (hs.keyed.collateral m v hv)]
  have ho : s.order.total (orderOwed f t) = s.order.total (orderOwed g t) := by
    refine Store.total_congr fun k o hk => ?_
    simp only [orderOwed, h k.1 (hs.keyed.order k o hk)]
  have hd : s.dispute.total (stakeOwed f t) = s.dispute.total (stakeOwed g t) := by
    refine Store.total_congr fun k d hk => ?_
    obtain ⟨p, hp⟩ := hs.disputes.claim k d hk
    simp only [stakeOwed, h k.1 (hs.keyed.pool (k.1, d.claimedOutcome) p hp)]
  simp only [owedBy, hm, ho, hd]

theorem LimitOrder.Valid.cost_nonneg {o : LimitOrder} (h : o.Valid) : 0 ≤ o.cost := by
  have hp := h.price
  have hb := h.bound
  exact Int.tdiv_nonneg (mul_nonneg hp.le (by omega)) (by decide)

/-- Filling `x` of an order releases no more than was locked. -/
theorem cost_fill {o : LimitOrder} (h : o.Valid) {x : ℤ} (hx : 0 ≤ x)
    (hle : x ≤ o.quantity - o.filledQuantity) :
    (o.price * (o.quantity - (o.filledQuantity + x))).tdiv decimalFactor +
      (o.price * x).tdiv decimalFactor ≤ o.cost := by
  have hp := h.price
  have hsum := I128.tdiv_add_le (a := o.price * (o.quantity - (o.filledQuantity + x)))
    (b := o.price * x) (mul_nonneg hp.le (by omega)) (mul_nonneg hp.le hx)
    (show (0 : ℤ) < decimalFactor by decide)
  rw [← mul_add] at hsum
  rw [LimitOrder.cost, show o.quantity - o.filledQuantity =
    o.quantity - (o.filledQuantity + x) + x by ring]
  exact hsum

section Scan

variable {tokenOf : ℕ → Option Address} {t : Address} {m : ℕ} {seller : Address}
  {sell : LimitOrder} {b b' : Book}

variable (tokenOf t) in
theorem Fill.owed (h : Fill m seller sell b b') (hb : b.Ok) :
    b.received ≤ b'.received ∧
    b'.order.total (orderOwed tokenOf t) + (if tokenOf m = some t then
      b'.received - b.received else 0) ≤ b.order.total (orderOwed tokenOf t) := by
  obtain ⟨oid, buy, stored, eligible, left⟩ := h
  have hvalid := hb.valid _ _ stored
  have hpos := eligible.fill_pos hvalid left
  have hfill : min b.remaining (buy.quantity - buy.filledQuantity) ≤
      buy.quantity - buy.filledQuantity := min_le_right _ _
  have hcost := cost_fill hvalid hpos.le hfill
  have hrest : 0 ≤ (buy.price * (buy.quantity - (buy.filledQuantity +
      min b.remaining (buy.quantity - buy.filledQuantity)))).tdiv decimalFactor := by
    have hp := hvalid.price
    exact Int.tdiv_nonneg (mul_nonneg hp.le (by omega)) (by decide)
  have hpaid : 0 ≤ (buy.price * min b.remaining
      (buy.quantity - buy.filledQuantity)).tdiv decimalFactor := by
    have hp := hvalid.price
    exact Int.tdiv_nonneg (mul_nonneg hp.le hpos.le) (by decide)
  refine ⟨by simp only [Book.fill]; omega, ?_⟩
  simp only [Book.fill, hb.key _ _ stored, Store.total_set, Store.weight_some stored]
  simp only [orderOwed, eligible.1, eligible.2.1, LimitOrder.cost, true_and] at hcost ⊢
  by_cases htok : tokenOf m = some t
  · simp only [htok, and_true, if_true]
    split <;> omega
  · simp only [htok, and_false, if_false]
    omega

variable (tokenOf t) in
theorem Fills.owed (h : Fills m seller sell b b') (hb : b.Ok) :
    b.received ≤ b'.received ∧
    b'.order.total (orderOwed tokenOf t) + (if tokenOf m = some t then
      b'.received - b.received else 0) ≤ b.order.total (orderOwed tokenOf t) := by
  induction h with
  | refl => simp
  | tail hfills hstep ih =>
    have hone := Fill.owed tokenOf t hstep (Fills.ok hfills hb)
    refine ⟨ih.1.trans hone.1, ?_⟩
    have h1 := ih.2
    have h2 := hone.2
    split at h1 <;> simp_all <;> omega

end Scan

section Payments

variable {tokenOf : ℕ → Option Address} {m : ℕ} {token other : Address} {n : ℤ} {u u' : τ}

/-- A payment to the contract in the token of market `m`. -/
theorem received_in (hex : tok.Exact) (hm : tokenOf m = some token)
    (hpaid : tok.transfer u token other self n = some u') (hne : other ≠ self) (t : Address) :
    tok.balance u' t self = tok.balance u t self + if tokenOf m = some t then n else 0 := by
  rw [hex.credit hpaid hne t, hm]
  simp [eq_comm]

/-- A payment by the contract in the token of market `m`. -/
theorem spent_in (hex : tok.Exact) (hm : tokenOf m = some token)
    (hpaid : tok.transfer u token self other n = some u') (t : Address) :
    (tok.balance u t self - if tokenOf m = some t then n else 0) ≤ tok.balance u' t self := by
  refine le_of_eq_of_le ?_ (hex.debit hpaid t)
  rw [hm]
  simp [eq_comm]

end Payments

section Owed

variable (tokenOf : ℕ → Option Address) {m : ℕ}

/-- A new buy order is owed what it costs, a sell order nothing. -/
theorem orders_placed {order : LimitOrder}
    (hnone : s.order.get? (order.marketId, order.orderId) = none) (hopen : order.status = .open)
    (t : Address) :
    (s.order.set (order.marketId, order.orderId) order).total (orderOwed tokenOf t) =
      s.order.total (orderOwed tokenOf t) +
        if order.side = .buy ∧ tokenOf order.marketId = some t then order.cost else 0 := by
  rw [Store.total_set, Store.weight_none hnone, sub_zero]
  simp only [orderOwed, hopen, and_true]

/-- The seller's order is owed nothing, so matching it frees what the buyers paid. -/
theorem orders_matched (hs : Reachable tok self s) {oid : ℕ} {sell : LimitOrder} {book : Book}
    (stored : s.order.get? (m, oid) = some sell) (sells : sell.side = .sell)
    (fills : Fills m sell.owner sell
      ⟨s.order, s.outcomeBalance, sell.quantity - sell.filledQuantity, 0⟩ book) (t : Address) :
    0 ≤ book.received ∧
    (book.order.set (sell.marketId, sell.orderId) (sell.settled book.remaining)).total
        (orderOwed tokenOf t) + (if tokenOf m = some t then book.received else 0) ≤
      s.order.total (orderOwed tokenOf t) := by
  have hbook := hs.orders.book stored
  obtain ⟨hreceived, howed⟩ := Fills.owed tokenOf t fills hbook
  have hkept := fills.sell_unchanged hbook stored sells
  refine ⟨hreceived, ?_⟩
  simp only [hs.orders.key _ _ stored, Store.total_set, Store.weight_some hkept, orderOwed,
    LimitOrder.settled, sells, reduceCtorEq, false_and, if_false, sub_zero] at howed ⊢
  omega

/-- A dispute that is no longer live frees its stake. -/
theorem stakes_settled (hs : Reachable tok self s) {d : ℕ} {dispute new : Dispute}
    (hstored : s.dispute.get? (m, d) = some dispute) (hlive : dispute.Live) (hdone : ¬ new.Live)
    (t : Address) :
    (s.dispute.set (dispute.marketId, dispute.disputeId) new).total (stakeOwed tokenOf t) =
      s.dispute.total (stakeOwed tokenOf t) -
        if tokenOf m = some t then dispute.stakeAmount else 0 := by
  rw [hs.disputes.key _ _ hstored, Store.total_set, Store.weight_some hstored]
  simp only [stakeOwed, hlive, hdone, true_and, false_and, if_false]
  ring

end Owed

/-- What is owed stays covered. The tokens of the markets are those after the
step; `owedBy_congr` turns them into those before it. -/
theorem owedBy_step (hex : tok.Exact) (hs : Reachable tok self s) (ha : a.Outside tok self s)
    (hf : ∀ m, a.Fresh s m) (h : Effect tok self s a s') {tokenOf : ℕ → Option Address}
    (hknown : ∀ m market, s'.market.get? m = some market →
      tokenOf m = some market.collateralToken) (t : Address)
    (hold : owedBy tokenOf t s ≤ tok.balance s.tokens t self) :
    owedBy tokenOf t s' ≤ tok.balance s'.tokens t self := by
  have token : ∀ {m market}, s.market.get? m = some market →
      tokenOf m = some market.collateralToken := by
    intro m market hm
    obtain ⟨market', hm', hlater⟩ := market_step hs.ids (hf m) h hm
    rw [hknown m market' hm', hlater.collateralToken]
  cases h with
  | transfers tokens => exact hold.trans (ha t)
  | createMarket env creator params closes tokens _ _ _ _ _ _ paid =>
    have hm := hknown s.marketCounter _ (Store.get?_set_self _ _ _)
    have hin := received_in hex hm paid (notSelf ha) t
    have hzero : s.marketCollateral.amount s.marketCounter = 0 := by
      apply Store.amount_of_none
      cases hk : s.marketCollateral.get? s.marketCounter with
      | none => rfl
      | some v => exact absurd (hf _ rfl) (hs.keyed.collateral _ v hk)
    simp only [owedBy, Store.sumOver_set, hzero] at hold ⊢
    rw [hin, sub_zero]
    omega
  | buyOutcome _ _ m _ _ _ _ _ _ _ _ _ stored _ _ _ _ _ _ _ _ _ paid =>
    have hin := received_in hex (token stored) paid (notSelf ha) t
    simp only [owedBy, Store.sumOver_set_add] at hold ⊢
    omega
  | sellOutcome _ _ m _ _ _ _ _ _ _ _ stored _ _ _ _ _ _ _ paid =>
    have hout := spent_in hex (token stored) paid t
    simp only [owedBy, Store.sumOver_set_sub] at hold ⊢
    omega
  | addLiquidity _ _ m _ _ _ _ _ _ _ stored _ _ _ _ _ _ paid =>
    have hin := received_in hex (token stored) paid (notSelf ha) t
    simp only [owedBy, Store.sumOver_set_add] at hold ⊢
    omega
  | removeLiquidity _ _ m _ _ _ _ _ stored _ _ _ _ paid =>
    have hout := spent_in hex (token stored) paid t
    simp only [owedBy, Store.sumOver_set_sub] at hold ⊢
    omega
  | redeemWinningTokens _ _ m _ _ _ _ stored _ _ _ _ paid =>
    have hout := spent_in hex (token stored) paid t
    simp only [owedBy, Store.sumOver_set_sub] at hold ⊢
    omega
  | placeOrder _ order market tokens stored _ _ _ _ fresh _ opened paid =>
    have hnone : s.order.get? (order.marketId, order.orderId) = none := by
      rw [fresh]
      exact hs.orders.fresh order.marketId
    simp only [owedBy] at hold ⊢
    rw [orders_placed tokenOf hnone opened]
    cases hside : order.side with
    | buy =>
      rw [hside] at paid
      have hin := received_in hex (token stored) paid (notSelf ha) t
      simp only [true_and]
      omega
    | sell =>
      rw [hside] at paid
      simp only [reduceCtorEq, false_and, if_false]
      rw [paid]
      omega
  | cancelOrder _ m oid order tokens stored opened paid =>
    have hcost := (hs.orders.valid _ _ stored).cost_nonneg
    simp only [owedBy, hs.orders.key _ _ stored, Store.total_set,
      Store.weight_some stored] at hold ⊢
    simp only [orderOwed, opened, reduceCtorEq, and_false, false_and, if_false, and_true]
    rcases paid with ⟨hside, -, market, hm, hpaid⟩ | ⟨rfl, hfree⟩
    · have hout := spent_in hex (token hm) hpaid t
      simp only [hside, true_and]
      omega
    · split
      · omega
      · omega
  | matchSellOrder _ m oid sell book tokens stored _ sells _ fills paid =>
    obtain ⟨hreceived, howed⟩ := orders_matched tokenOf hs stored sells fills t
    simp only [owedBy] at hold ⊢
    rcases paid with ⟨-, market, hm, hpaid⟩ | ⟨rfl, hnothing⟩
    · have hout := spent_in hex (token hm) hpaid t
      by_cases htok : tokenOf m = some t
      · rw [if_pos htok] at hout howed
        omega
      · rw [if_neg htok] at hout howed
        omega
    · split at howed <;> omega
  | openDispute _ dispute market tokens stored _ _ staked fresh opened _ paid =>
    have hnone : s.dispute.get? (dispute.marketId, dispute.disputeId) = none := by
      rw [fresh]
      exact hs.disputes.fresh dispute.marketId
    have hin := received_in hex (token stored) paid (notSelf ha) t
    simp only [owedBy, Store.total_set, Store.weight_none hnone, stakeOwed, Dispute.Live, opened,
      true_or, true_and] at hold ⊢
    omega
  | voteDispute _ _ m d _ dispute _ _ stored live =>
    simp only [owedBy, hs.disputes.key _ _ stored, Store.total_set,
      Store.weight_some stored] at hold ⊢
    simp only [stakeOwed, Dispute.Live, live, reduceCtorEq, or_true, true_and]
    omega
  | upholdDispute _ _ m d dispute market tokens stored live known _ paid =>
    have hout := spent_in hex (token known) paid t
    simp only [owedBy] at hold ⊢
    rw [stakes_settled tokenOf hs stored (Dispute.live_iff.mpr live) (by simp [Dispute.Live])]
    omega
  | rejectDispute _ _ m d dispute market tokens stored live known _ paid =>
    have hstake := hs.disputes.staked _ _ stored
    simp only [owedBy] at hold ⊢
    rw [stakes_settled tokenOf hs stored (Dispute.live_iff.mpr live) (by simp [Dispute.Live])]
    split at paid
    · have hout := spent_in hex (token known) paid t
      omega
    · rw [paid]
      split <;> omega
  | _ => exact hold

/-- The pools of a market that is not overwritten are those of its outcomes. -/
theorem pool_listed_step {m : ℕ} (hs : Reachable tok self s) (hf : a.Fresh s m)
    (h : Effect tok self s a s') (hl : ∀ i p, s.outcomePool.get? (m, i) = some p → Listed s m i) :
    ∀ i p, s'.outcomePool.get? (m, i) = some p → Listed s' m i := by
  intro i p hp
  rcases (pool_step h).mp ⟨p, hp⟩ with ⟨p₀, hp₀⟩ | ⟨rfl, env, creator, params, rfl, hlt⟩
  · obtain ⟨market, hm, hlt⟩ := hl i p₀ hp₀
    obtain ⟨market', hm', hlater⟩ := market_step hs.ids hf h hm
    exact ⟨market', hm', by rw [hlater.numOutcomes]; exact hlt⟩
  · cases h with
    | createMarket _ _ _ closes => exact ⟨_, Store.get?_set_self _ _ _, hlt⟩

/-- The recorded collateral of a market that is not overwritten covers the reserves of its
pools; it also holds the fees. -/
theorem reserves_le_collateral {m : ℕ} {market : Market}
    (h : ReachableVia tok self (fun s a => a.Fresh s m) s) (hm : s.market.get? m = some market) :
    poolSum OutcomePool.collateralReserve s.outcomePool m market.numOutcomes ≤
      s.marketCollateral.amount m := by
  suffices hboth : (∀ i p, s.outcomePool.get? (m, i) = some p → Listed s m i) ∧
      ∀ market, s.market.get? m = some market →
        poolSum OutcomePool.collateralReserve s.outcomePool m market.numOutcomes ≤
          s.marketCollateral.amount m from hboth.2 market hm
  refine ReachableVia.induction (P := fun s =>
    (∀ i p, s.outcomePool.get? (m, i) = some p → Listed s m i) ∧
      ∀ market, s.market.get? m = some market →
        poolSum OutcomePool.collateralReserve s.outcomePool m market.numOutcomes ≤
          s.marketCollateral.amount m) ?_ ?_ h
  · rintro s ⟨tokens, rfl⟩
    simp [deployed]
  · rintro s a s' hr hf heff ⟨hl, ih⟩
    refine ⟨pool_listed_step hr hf heff hl, fun market' hm' => ?_⟩
    obtain ⟨market, hold, hlater, hc⟩ | ⟨rfl, env, creator, params, closes, rfl, rfl⟩ :=
      market_back hr.ids heff hm'
    · have h := ih market hold
      have hlt : ∀ {m₀ i p}, s.outcomePool.get? (m₀, i) = some p → m₀ = m →
          i < market.numOutcomes := by
        rintro m₀ i p hp rfl
        obtain ⟨market₀, hm₀, hlt⟩ := hl i p hp
        cases hold.symm.trans hm₀
        exact hlt
      rw [hlater.numOutcomes]
      cases heff with
      | createMarket _ _ _ _ _ _ _ _ _ _ _ _ seeded =>
        have hne : s.marketCounter ≠ m := hc
        rw [Store.amount_set_add, if_neg hne, add_zero]
        exact (poolSum_congr fun i _ => by simp [seeded, hne.symm]).trans_le h
      | buyOutcome _ _ _ _ amount _ net _ market₀ _ _ _ stored _ _ pooled positive net_eq =>
        have hnet := netCollateral_le positive.1.le (hr.terms stored).fee_le
        rw [← net_eq] at hnet
        simp only [poolSum_set pooled (hlt pooled), Store.amount_set_add]
        split <;> omega
      | sellOutcome _ _ _ _ _ _ _ _ _ _ _ _ _ _ pooled =>
        simp only [poolSum_set pooled (hlt pooled), Store.amount_set_add]
        split <;> omega
      | redeemWinningTokens _ _ _ _ _ _ _ _ _ _ _ pooled =>
        simp only [poolSum_set pooled (hlt pooled), Store.amount_set_add]
        split <;> omega
      | addLiquidity _ _ _ _ _ _ _ _ _ _ _ _ _ pooled =>
        simp only [poolSum_set pooled (hlt pooled), Store.amount_set_add]
        split <;> omega
      | removeLiquidity _ _ _ _ _ _ _ _ _ pooled =>
        simp only [poolSum_set pooled (hlt pooled), Store.amount_set_add]
        split <;> omega
      | _ => exact h
    · cases heff with
      | createMarket _ _ _ _ _ pools _ _ _ _ _ _ seeded =>
        have hconst : poolSum OutcomePool.collateralReserve pools s.marketCounter
            params.numOutcomes = params.initialLiquidity * params.numOutcomes :=
          poolSum_const fun i hi => by rw [seeded, if_pos ⟨rfl, hi⟩]
        rw [Store.amount_set_add, if_pos rfl]
        simp only [newMarket, hconst]
        omega

theorem owed_step (hex : tok.Exact) (hs : Reachable tok self s) (ha : a.Outside tok self s)
    (hf : ∀ m, a.Fresh s m) (h : Effect tok self s a s') (t : Address)
    (hold : owed s t ≤ tok.balance s.tokens t self) :
    owed s' t ≤ tok.balance s'.tokens t self := by
  refine owedBy_step hex hs ha hf h ?_ t ?_
  · intro m market hm
    simp [collateralTokenOf, hm]
  · rw [owedBy_congr hs t (g := collateralTokenOf s)]
    · exact hold
    · intro m hm
      obtain ⟨market, hm⟩ := Option.ne_none_iff_exists'.mp hm
      obtain ⟨market', hm', hlater⟩ := market_step hs.ids (hf m) h hm
      simp [collateralTokenOf, hm, hm', hlater.collateralToken]

/-- With tokens that move exactly what is stated, the contract no party to its own calls,
and no market overwritten, the contract holds in every token at least what it owes, and
every market's recorded collateral covers its pools. -/
theorem collateral_custody (hex : tok.Exact)
    (h : ReachableVia tok self (fun s a => a.Outside tok self s ∧ ∀ m, a.Fresh s m) s) :
    (∀ t, owed s t ≤ tok.balance s.tokens t self) ∧
      ∀ m market, s.market.get? m = some market →
        poolSum OutcomePool.collateralReserve s.outcomePool m market.numOutcomes ≤
          s.marketCollateral.amount m := by
  refine ⟨fun t => ?_, fun m market hm =>
    reserves_le_collateral (h.mono fun s a ha => ha.2 m) hm⟩
  refine ReachableVia.induction (P := fun s => owed s t ≤ tok.balance s.tokens t self) ?_ ?_ h
  · rintro s ⟨tokens, rfl⟩
    exact hex.nonneg tokens t self
  · intro s a s' hr ha heff hold
    exact owed_step hex hr ha.1 ha.2 heff t hold

section Runs

open Sample

/-- A market with a trade, an open bid, and a disputed verdict. -/
def funded : List (Action Balances) := [
  call (.createMarket alice (params 100 1000 30)),
  call (.buyOutcome bob 0 0 100 0),
  call (.placeOrder carol 0 0 .buy (10 ^ 17) 49),
  lateCall (.resolveMarket admin 0 0),
  lateCall (.openDispute carol 0 1 "it did not rain" 10)]

/-- Three hundred recorded, four locked in the bid and ten at stake. -/
theorem collateral_custody_funded : ∃ s : State Balances, run funded = .ok s ∧
    owed s usdc = 314 ∧ owed s usdc ≤ asset.balance s.tokens usdc contract := by
  have h : After (fun s => owed s usdc = 314) (run funded) := by decide +kernel
  obtain ⟨s, hs, howed⟩ := h.exists_ok
  have hvia : ReachableVia asset contract
      (fun s a => a.Outside asset contract s ∧ ∀ m, a.Fresh s m) s := by
    refine run_cons_via ?_ ?_ ?_ hs
    · exact fun _ => ⟨by simp only [Action.Outside, setUp, Op.parties]; decide, fun _ => False.elim⟩
    · refine ⟨by simp only [Action.Outside, call, Op.parties]; decide, ?_⟩
      rintro m rfl
      rfl
    · intro a ha s
      simp only [List.mem_cons, List.not_mem_nil, or_false] at ha
      rcases ha with rfl | rfl | rfl | rfl <;>
      · refine ⟨?_, fun _ => False.elim⟩
        simp only [Action.Outside, call, lateCall, Op.parties]
        decide
  exact ⟨s, hs, howed, (collateral_custody asset_exact hvia).1 usdc⟩

/-- Carol's bid on the first market 0 locks forty-nine dollars. After `initialize` the
second market 0 trades in euros, so the bid counts as euros that were never paid in. -/
def overwritten : List (Action Balances) := [
  call (.createMarket alice (params 100 1000 30)),
  call (.placeOrder carol 0 0 .buy (10 ^ 18) 49),
  setUp,
  call (.createMarket alice { params 100 1000 30 with collateralToken := eurc })]

theorem collateral_uncovered : ∃ s : State Balances, asset.Exact ∧
    ReachableVia asset contract (fun s a => a.Outside asset contract s) s ∧
    owed s eurc = 249 ∧ asset.balance s.tokens eurc contract = 200 := by
  have h : After (fun s => owed s eurc = 249 ∧ asset.balance s.tokens eurc contract = 200)
      (runBlank overwritten) := by
    decide +kernel
  obtain ⟨s, hs, howed, hbalance⟩ := h.exists_ok
  refine ⟨s, asset_exact, runBlank_via ?_ hs, howed, hbalance⟩
  intro a ha s
  simp only [overwritten, List.mem_cons, List.not_mem_nil, or_false] at ha
  rcases ha with rfl | rfl | rfl | rfl <;>
  · simp only [Action.Outside, call, setUp, Op.parties]
    decide

end Runs

end PredictionMarket
