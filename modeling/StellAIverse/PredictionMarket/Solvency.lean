import StellAIverse.PredictionMarket.Cpmm
import StellAIverse.PredictionMarket.Disputes

/-!
# Redemption

A winning token is redeemed one for one as long as the pool of the winner holds
at least as much collateral as users hold tokens. While a market trades this
follows from a stronger law: the tokens of an outcome, in its pool and outside,
squared, are at most four times the product of the reserves.
-/

namespace PredictionMarket

open Soroban

variable {τ : Type} {tok : Token τ} {self : Address} {s s' : State τ} {a : Action τ}

/-- Reserves `c`, `o` back `h` tokens outside the pool wherever the price goes. -/
structure Backed (c o h : ℤ) : Prop where
  collateral : 0 ≤ c
  outcome : 0 ≤ o
  product : (o + h) ^ 2 ≤ 4 * c * o

section Backed

variable {c o h : ℤ}

/-- The square bound is the discriminant of `c = h`. -/
theorem Backed.covered (hb : Backed c o h) : h ≤ c := by
  have hc := hb.collateral
  have ho := hb.outcome
  by_contra hlt
  have hprod := hb.product
  nlinarith [sq_nonneg (c - o)]

theorem Backed.mono {h' : ℤ} (hb : Backed c o h) (h0 : 0 ≤ h') (hle : h' ≤ h) :
    Backed c o h' := by
  refine ⟨hb.collateral, hb.outcome, ?_⟩
  have ho := hb.outcome
  have hprod := hb.product
  nlinarith

/-- A trade moves tokens across the pool and does not lower the product. -/
theorem Backed.trade {c' o' h' : ℤ} (hb : Backed c o h) (hc : 0 ≤ c') (ho : 0 ≤ o')
    (hsum : o' + h' = o + h) (hprod : c * o ≤ c' * o') : Backed c' o' h' := by
  refine ⟨hc, ho, ?_⟩
  rw [hsum]
  have := hb.product
  nlinarith

theorem Backed.buy {net : ℤ} (hb : Backed c o h) (hc : 0 < c) (ho : 0 < o) (hnet : 0 < net) :
    Backed (c + net) (o - bought c o net) (h + bought c o net) := by
  have hlt := bought_lt hc ho hnet
  exact hb.trade (by omega) (by omega) (by ring) (buy_product hc ho hnet)

theorem Backed.sell {amount : ℤ} {feeBps : ℕ} (hb : Backed c o h) (hc : 0 < c) (ho : 0 < o)
    (ha : 0 < amount) (hfee : feeBps ≤ 10000) (hround : 1 ≤ feeBps ∨ o + amount ∣ c * o) :
    Backed (c - soldFor c o amount feeBps) (o + amount) (h - amount) :=
  hb.trade (sell_reserve_nonneg hc ho ha hfee) (by omega) (by ring)
    (sell_product hc ho ha hfee hround)

/-- Burning `x` of `T` shares scales both reserves by at least `1 - x / T`. -/
theorem Backed.withdraw {T x : ℤ} (hb : Backed c o h) (hT : 0 < T) (hx : 0 ≤ x) (hxT : x ≤ T)
    (hscale : (o + h) ^ 2 * T ^ 2 ≤ 4 * c * o * (T - x) ^ 2) :
    Backed (c - (x * c).tdiv T) (o - (x * o).tdiv T) (h + (x * o).tdiv T) := by
  have hc := hb.collateral
  have ho := hb.outcome
  have hcfloor := I128.tdiv_mul_le (a := x * c) (by positivity) hT
  have hofloor := I128.tdiv_mul_le (a := x * o) (by positivity) hT
  have hc' := withdrawn_le hx hxT hT hc
  have ho' := withdrawn_le hx hxT hT ho
  generalize (x * c).tdiv T = f at *
  generalize (x * o).tdiv T = g at *
  refine ⟨by omega, by omega, ?_⟩
  have hcT : c * (T - x) ≤ (c - f) * T := by nlinarith
  have hoT : o * (T - x) ≤ (o - g) * T := by nlinarith
  have hprod : c * (T - x) * (o * (T - x)) ≤ (c - f) * T * ((o - g) * T) :=
    mul_le_mul hcT hoT (mul_nonneg ho (by omega)) (mul_nonneg (by omega) hT.le)
  have hsq : 0 < T ^ 2 := by positivity
  have hscaled : (o + h) ^ 2 * T ^ 2 ≤ 4 * (c - f) * (o - g) * T ^ 2 := by nlinarith
  have := le_of_mul_le_mul_right hscaled hsq
  have hsum : o - g + (h + g) = o + h := by ring
  rw [hsum]
  exact this

/-- What `x` of `T` shares withdraw of both reserves together. -/
theorem withdraw_covered {T x : ℤ} (hT : 0 < T) (hx : 0 ≤ x) (hc : 0 ≤ c) (ho : 0 ≤ o)
    (hcond : x * (c + o) ≤ (c - h) * T) :
    h + (x * o).tdiv T ≤ c - (x * c).tdiv T := by
  have hcfloor := I128.tdiv_mul_le (a := x * c) (by positivity) hT
  have hofloor := I128.tdiv_mul_le (a := x * o) (by positivity) hT
  have hsum : ((x * c).tdiv T + (x * o).tdiv T) * T ≤ (c - h) * T := by linarith
  have := le_of_mul_le_mul_right hsum hT
  omega

end Backed

/-- The pool covers the `h` tokens outside it, and backs them while it trades. -/
structure Market.Covers (market : Market) (pool : OutcomePool) (h : ℤ) : Prop where
  covered : h ≤ pool.collateralReserve
  backed : market.status = .active → Backed pool.collateralReserve pool.outcomeReserve h

theorem Market.Covers.mono {market market' : Market} {pool : OutcomePool} {h h' : ℤ}
    (hc : market.Covers pool h) (hact : market'.status = .active → market.status = .active)
    (h0 : 0 ≤ h') (hle : h' ≤ h) : market'.Covers pool h' :=
  ⟨hle.trans hc.covered, fun ha => (hc.backed (hact ha)).mono h0 hle⟩

theorem Market.Covers.of_backed {market : Market} {pool : OutcomePool} {h : ℤ}
    (hb : Backed pool.collateralReserve pool.outcomeReserve h) : market.Covers pool h :=
  ⟨hb.covered, fun _ => hb⟩

/-- A redemption takes the collateral of the tokens it burns. -/
theorem Market.Covers.redeem {market market' : Market} {pool : OutcomePool} {h n : ℤ}
    (hc : market.Covers pool h) (hclosed : market'.status ≠ .active) :
    market'.Covers { pool with collateralReserve := pool.collateralReserve - pool.payout n }
      (h - n) := by
  refine ⟨?_, fun hact => absurd hact hclosed⟩
  have hcovered := hc.covered
  simp only [OutcomePool.payout]
  split <;> omega

/-- After one pool is rewritten: the new one, or another as before. -/
theorem Market.Covers.of_set {market : Market} {m i m₀ i₀ : ℕ} {new pool : OutcomePool} {h : ℤ}
    (hp : (s.outcomePool.set (m₀, i₀) new).get? (m, i) = some pool)
    (hone : m₀ = m → i₀ = i → market.Covers new h)
    (hother : ¬ (m₀ = m ∧ i₀ = i) → s.outcomePool.get? (m, i) = some pool → market.Covers pool h) :
    market.Covers pool h := by
  by_cases hk : m₀ = m ∧ i₀ = i
  · obtain ⟨rfl, rfl⟩ := hk
    rw [Store.get?_set_self] at hp
    cases hp
    exact hone rfl rfl
  · rw [pool_set_ne hk] at hp
    exact hother hk hp

def Solvent (s : State τ) (m : ℕ) : Prop :=
  ∀ i pool market, s.outcomePool.get? (m, i) = some pool → s.market.get? m = some market →
    market.Covers pool (held s m i)

/-- The invocations that keep market `m` solvent, judged before they run:
it is not overwritten, liquidity is added or removed only as far as the reserves
still back the tokens in existence, a matched seller owns what is filled, and a sale
without fee divides evenly. -/
def Action.KeepsSolvent (s : State τ) (m : ℕ) : Action τ → Prop
  | .call _ (.createMarket ..) => s.marketCounter = m → s.market.get? m = none
  | .call _ (.addLiquidity _ m' i a b) => m' = m → ∀ pool,
      s.outcomePool.get? (m, i) = some pool →
      (pool.outcomeReserve + held s m i + b) ^ 2 ≤
        4 * (pool.collateralReserve + a) * (pool.outcomeReserve + b)
  | .call _ (.removeLiquidity _ m' i x) => m' = m → ∀ pool market,
      s.outcomePool.get? (m, i) = some pool → s.market.get? m = some market →
      if market.status = .active then
        x ≤ pool.lpTotalSupply ∧
        (pool.outcomeReserve + held s m i) ^ 2 * pool.lpTotalSupply ^ 2 ≤
          4 * pool.collateralReserve * pool.outcomeReserve * (pool.lpTotalSupply - x) ^ 2
      else
        x * (pool.collateralReserve + pool.outcomeReserve) ≤
          (pool.collateralReserve - held s m i) * pool.lpTotalSupply
  | .call _ (.matchSellOrder seller m' oid) => m' = m → ∀ sell,
      s.order.get? (m, oid) = some sell →
      fillable s m sell ≤ s.outcomeBalance.amount (m, sell.outcomeIndex, seller)
  | .call _ (.sellOutcome _ m' i amount _) => m' = m → ∀ pool market,
      s.outcomePool.get? (m, i) = some pool → s.market.get? m = some market →
      1 ≤ market.tradingFeeBps ∨
        pool.outcomeReserve + amount ∣ pool.collateralReserve * pool.outcomeReserve
  | _ => True

/-- A new market backs nothing but its own reserves. -/
theorem solvent_created {env : Env} {creator : Address} {params : CreateMarketParams}
    (hs : Reachable tok self s) (hfresh : s.market.get? s.marketCounter = none)
    (h : Effect tok self s (.call env (.createMarket creator params)) s') :
    Solvent s' s.marketCounter := by
  intro i pool market hp _
  have hnone := held_fresh hs hfresh i
  cases h with
  | createMarket _ _ _ _ _ _ _ _ _ liquidity _ _ seeded =>
    simp only [seeded] at hp
    split at hp
    · cases hp
      apply Market.Covers.of_backed
      refine ⟨liquidity.le, liquidity.le, ?_⟩
      change (_ + held s s.marketCounter i) ^ 2 ≤ _
      rw [hnone]
      nlinarith
    · exact absurd hfresh (hs.keyed.pool _ pool hp)

theorem solvent_step {m : ℕ} (hs : Reachable tok self s) (ha : a.KeepsSolvent s m)
    (h : Effect tok self s a s') (hsol : Solvent s m) : Solvent s' m := by
  intro i pool' market' hp hm
  obtain ⟨market, hold, hlater, hc⟩ | ⟨rfl, env, creator, params, closes, rfl, -⟩ :=
    market_back hs.ids h hm
  swap
  · exact solvent_created hs (ha rfl) h i pool' market' hp hm
  have hnn : 0 ≤ held s' m i := (balances_step hs.balances h).sumOver_nonneg _
  -- Where the pool stays and no tokens appear, the old cover carries over.
  have kept : s.outcomePool.get? (m, i) = some pool' →
      held s' m i ≤ held s m i → market'.Covers pool' (held s' m i) :=
    fun hpool hle => (hsol i _ _ hpool hold).mono hlater.active hnn hle
  cases h with
  | createMarket _ _ _ _ _ _ _ _ _ _ _ _ seeded =>
    have hne : m ≠ s.marketCounter := Ne.symm hc
    simp only [seeded, hne, false_and, if_false] at hp
    exact kept hp le_rfl
  | buyOutcome _ buyer m₀ i₀ _ _ net out _ pool _ _ stored active _ pooled positive _ net_pos
      out_eq out_pos =>
    have hheld := held_credit hs.balances m i m₀ i₀ buyer out_pos.le
    refine .of_set hp ?_ fun hk hpool => kept hpool ?_
    · rintro rfl rfl
      rw [if_pos ⟨rfl, rfl⟩] at hheld
      change market'.Covers _ (Store.sumOver _ _)
      rw [hheld, out_eq]
      have hb := (hsol _ _ _ pooled stored).backed active
      exact .of_backed (hb.buy positive.2.1 positive.2.2 net_pos)
    · rw [if_neg hk, add_zero] at hheld
      exact hheld.le
  | sellOutcome _ seller m₀ i₀ amount _ out _ pool _ _ stored active _ pooled positive covered
      out_eq out_pos =>
    have hheld := held_debit m i covered
    refine .of_set hp ?_ fun hk hpool => kept hpool ?_
    · rintro rfl rfl
      rw [if_pos ⟨rfl, rfl⟩] at hheld
      change market'.Covers _ (Store.sumOver _ _)
      rw [hheld, out_eq]
      have hb := (hsol _ _ _ pooled stored).backed active
      exact .of_backed (hb.sell positive.2.1 (positive.1.trans positive.2.2) positive.1
        (hs.terms stored).fee_le (ha rfl pool _ pooled stored))
    · rw [if_neg hk, sub_zero] at hheld
      exact hheld.le
  | addLiquidity _ _ m₀ i₀ x y _ _ pool _ stored active _ pooled positive =>
    refine .of_set hp ?_ fun _ hpool => kept hpool le_rfl
    rintro rfl rfl
    have hb := (hsol _ _ _ pooled stored).backed active
    have hc := hb.collateral
    have ho := hb.outcome
    have hroom := ha rfl pool pooled
    apply Market.Covers.of_backed
    refine ⟨by simp only; omega, by simp only; omega, ?_⟩
    change (_ + held s m₀ i₀) ^ 2 ≤ _
    simp only
    rw [add_right_comm]
    exact hroom
  | removeLiquidity _ provider m₀ i₀ x _ pool _ stored pooled positive owned supplied =>
    have hout := (hs.sound pooled).outcomeFor_nonneg supplied positive.le
    have hheld := held_credit hs.balances m i m₀ i₀ provider hout
    refine .of_set hp ?_ fun hk hpool => kept hpool ?_
    · rintro rfl rfl
      cases hold.symm.trans stored
      have hcond := ha rfl pool market pooled stored
      have hcov := hsol _ _ _ pooled stored
      rw [if_pos ⟨rfl, rfl⟩] at hheld
      change market'.Covers _ (Store.sumOver _ _)
      rw [hheld]
      split at hcond
      · rename_i hact
        apply Market.Covers.of_backed
        exact (hcov.backed hact).withdraw supplied positive.le hcond.1 hcond.2
      · rename_i hact
        refine ⟨?_, fun hact' => absurd (hlater.active hact') hact⟩
        have hsound := hs.sound pooled supplied.le
        exact withdraw_covered supplied positive.le hsound.1 hsound.2 hcond
    · rw [if_neg hk, add_zero] at hheld
      exact hheld.le
  | matchSellOrder _ m₀ oid sell book _ stored _ _ scanned fills =>
    have hheld := match_held hs.orders hs.balances stored scanned fills m i
    have hfilled := (hs.orders.valid _ _ stored).filled
    refine kept hp ?_
    change Store.sumOver _ _ ≤ _
    rw [hheld]
    split
    · rename_i hk
      obtain ⟨rfl, rfl⟩ := hk
      have hcond := ha rfl sell stored
      omega
    · omega
  | redeemWinningTokens _ user m₀ w _ pool _ stored resolved _ positive pooled =>
    have hheld := held_put s m i m₀ w user 0
    refine .of_set hp ?_ fun hk hpool => kept hpool ?_
    · rintro rfl rfl
      cases hold.symm.trans stored
      have hclosed : market'.status ≠ .active := by
        intro hact
        rw [hlater.active hact] at resolved
        cases resolved
      rw [if_pos ⟨rfl, rfl⟩, max_self, zero_sub, ← sub_eq_add_neg] at hheld
      change market'.Covers _ (Store.sumOver _ _)
      rw [hheld]
      exact (hsol _ _ _ pooled stored).redeem hclosed
    · rw [if_neg hk, add_zero] at hheld
      exact hheld.le
  | _ => exact kept hp le_rfl

theorem ReachableVia.solvent {m : ℕ}
    (h : ReachableVia tok self (fun s a => a.KeepsSolvent s m) s) : Solvent s m := by
  refine ReachableVia.induction (P := fun s => Solvent s m) ?_ ?_ h
  · rintro s ⟨tokens, rfl⟩
    simp [Solvent, deployed]
  · intro s a s' hr ha heff hsol
    exact solvent_step hr ha heff hsol

/-- In every run that keeps market `m` solvent, once it has a winner the pool of
the winner covers all winning tokens, and whoever redeems is paid in full. -/
theorem redemption_solvent {m w : ℕ} {market : Market}
    (h : ReachableVia tok self (fun s a => a.KeepsSolvent s m) s)
    (hm : s.market.get? m = some market) (hw : market.resolvedOutcome = some w) :
    ∃ pool, s.outcomePool.get? (m, w) = some pool ∧ held s m w ≤ pool.collateralReserve ∧
      ∀ env user payout s', redeemWinningTokens tok self env user m s = .ok (payout, s') →
        ¬ pool.collateralReserve < s.outcomeBalance.amount (m, w, user) ∧
        payout = s.outcomeBalance.amount (m, w, user) := by
  have hs := h.reachable
  obtain ⟨pool, hp⟩ := hs.verdict hm hw
  have hcov := (h.solvent w pool market hp hm).covered
  refine ⟨pool, hp, hcov, ?_⟩
  intro env user payout s' hr
  have hle : s.outcomeBalance.amount (m, w, user) ≤ held s m w :=
    hs.balances.amount_le_sumOver ⟨rfl, rfl⟩
  obtain ⟨market', w', pool', hm', -, hw', hp', hpay, -⟩ := redeemWinningTokens_ok hr
  cases hm.symm.trans hm'
  cases hw.symm.trans hw'
  cases hp.symm.trans hp'
  have hfull : ¬ pool.collateralReserve < s.outcomeBalance.amount (m, w, user) := by omega
  exact ⟨hfull, hpay.trans (if_neg hfull)⟩

section Runs

open Sample

/-- Bob buys and the market resolves in his favour. -/
def resolvedForBob : List (Action Balances) := [
  call (.createMarket alice (params 100 1000 30)),
  call (.buyOutcome bob 0 0 100 0),
  lateCall (.resolveMarket admin 0 0)]

/-- Liquidity with ten thousand times as many outcome tokens as collateral is
added, withdrawn, and the market resolves. -/
def unbackedLiquidity : List (Action Balances) := [
  call (.createMarket alice (params 100 1000 30)),
  call (.addLiquidity bob 0 0 100 1000000),
  call (.removeLiquidity bob 0 0 100),
  lateCall (.resolveMarket admin 0 0)]

/-- Bob's forty-nine tokens are covered. -/
theorem redemption_solvent_for_bob : ∃ (s : State Balances) (pool : OutcomePool),
    run resolvedForBob = .ok s ∧ s.outcomePool.get? (0, 0) = some pool ∧
    held s 0 0 = 49 ∧ held s 0 0 ≤ pool.collateralReserve := by
  have h : After (fun s => held s 0 0 = 49 ∧ ∃ market ∈ s.market.get? 0,
      market.resolvedOutcome = some 0) (run resolvedForBob) := by
    decide +kernel
  obtain ⟨s, hs, hheld, market, hm, hw⟩ := h.exists_ok
  have hvia : ReachableVia asset contract (fun s a => a.KeepsSolvent s 0) s := by
    refine run_cons_via ?_ ?_ ?_ hs
    · exact fun _ => trivial
    · exact fun _ => rfl
    · intro a ha s
      simp only [List.mem_cons, List.not_mem_nil, or_false] at ha
      rcases ha with rfl | rfl <;> trivial
  obtain ⟨pool, hp, hle, -⟩ := redemption_solvent hvia hm hw
  exact ⟨s, pool, hs, hp, hheld, hle⟩

/-- Half a million winning tokens against one hundred of collateral: bob's
redemption takes the partial branch. -/
theorem redemption_insolvent : ∃ (s : State Balances) (market : Market) (pool : OutcomePool),
    Reachable asset contract s ∧ s.market.get? 0 = some market ∧ market.status = .resolved ∧
    market.resolvedOutcome = some 0 ∧ s.outcomePool.get? (0, 0) = some pool ∧
    pool.collateralReserve < held s 0 0 ∧
    ∃ payout s', redeemWinningTokens asset contract (env 100) bob 0 s = .ok (payout, s') ∧
      payout < s.outcomeBalance.amount (0, 0, bob) := by
  have h : After (fun s => (∃ market ∈ s.market.get? 0, market.status = .resolved ∧
        market.resolvedOutcome = some 0) ∧
      (∃ pool ∈ s.outcomePool.get? (0, 0), pool.collateralReserve < held s 0 0) ∧
      After (fun r => r.1 < s.outcomeBalance.amount (0, 0, bob))
        (redeemWinningTokens asset contract (env 100) bob 0 s)) (run unbackedLiquidity) := by
    decide +kernel
  obtain ⟨s, hs, ⟨market, hm, hstatus, hw⟩, ⟨pool, hp, hlt⟩, hredeem⟩ := h.exists_ok
  obtain ⟨⟨payout, s'⟩, hr, hpay⟩ := hredeem.exists_ok
  exact ⟨s, market, pool, run_reachable hs, hm, hstatus, hw, hp, hlt, payout, s', hr, hpay⟩

end Runs

end PredictionMarket
