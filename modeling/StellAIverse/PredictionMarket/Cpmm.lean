import StellAIverse.PredictionMarket.Holdings

/-!
# Trading against the curve

A run of buys and sells on a market of whose tokens nobody holds any. A buy rounds
its output down. A sell rounds the new collateral reserve down, in favour of the
seller, and the fee of at least one basis point takes that unit back.
-/

namespace PredictionMarket

open Soroban

variable {τ : Type} {tok : Token τ} {self : Address} {s s' : State τ} {a : Action τ}

/-- Buys, sells, and token movements outside the contract. -/
def Action.OnCurve : Action τ → Prop
  | .call _ (.buyOutcome ..) => True
  | .call _ (.sellOutcome ..) => True
  | .transfers _ => True
  | _ => False

/-- A pool on the curve of a market that charges a fee: no product below `k`,
and every token the pool lacks of `L` is with a user and counted. -/
structure OnCurve (L k : ℤ) (s : State τ) (m i : ℕ) (pool : OutcomePool) : Prop where
  pooled : s.outcomePool.get? (m, i) = some pool
  collateral : 0 < pool.collateralReserve
  outcome : 0 < pool.outcomeReserve
  product : k ≤ pool.collateralReserve * pool.outcomeReserve
  charged : ∃ market, s.market.get? m = some market ∧ 1 ≤ market.tradingFeeBps
  held : held s m i = L - pool.outcomeReserve
  supply : s.totalOutcomeSupply.amount (m, i) = L - pool.outcomeReserve

/-- The tokens outside a pool are covered by its collateral. -/
theorem le_of_product {L c o : ℤ} (hL : 0 ≤ L) (hc : 0 < c) (ho : 0 < o) (h : L * L ≤ c * o) :
    L - o ≤ c := by
  by_contra hlt
  have hsum : c + o < L := by omega
  nlinarith [sq_nonneg (c - o)]

theorem onCurve_step {L k : ℤ} {m i : ℕ} {pool : OutcomePool} (hs : Reachable tok self s)
    (ha : a.OnCurve) (h : Effect tok self s a s') (hc : OnCurve L k s m i pool) :
    ∃ pool', OnCurve L k s' m i pool' := by
  obtain ⟨market, hm, hfee⟩ := hc.charged
  have hheld := hc.held
  have hsupply := hc.supply
  cases h with
  | transfers =>
    exact ⟨pool, hc.pooled, hc.collateral, hc.outcome, hc.product, hc.charged, hheld, hsupply⟩
  | buyOutcome _ buyer m' i' amount _ net out market' pool' _ _ stored _ _ pooled positive
      net_eq net_pos out_eq out_pos =>
    have hnewheld := held_credit hs.balances m i m' i' buyer out_pos.le
    have hnewsupply := supply_set s m i m' i' (s.totalOutcomeSupply.amount (m', i') + out)
    obtain ⟨rfl, rfl, hnew⟩ | ⟨hk, hold⟩ := pool_set hc.pooled m' i'
      { pool' with
        collateralReserve := pool'.collateralReserve + net
        outcomeReserve := pool'.outcomeReserve - out }
    · obtain rfl : pool' = pool := Option.some.inj (pooled.symm.trans hc.pooled)
      have hlt := bought_lt hc.collateral hc.outcome net_pos
      have hprod := buy_product hc.collateral hc.outcome net_pos
      rw [← out_eq] at hlt hprod
      rw [if_pos ⟨rfl, rfl⟩] at hnewheld hnewsupply
      refine ⟨_, hnew, ?_, ?_, hc.product.trans hprod, hc.charged, hnewheld.trans ?_,
        hnewsupply.trans ?_⟩
      · have := hc.collateral
        simp only
        omega
      · simp only
        omega
      · simp only
        omega
      · simp only
        omega
    · rw [if_neg hk, add_zero] at hnewheld hnewsupply
      exact ⟨pool, hold, hc.collateral, hc.outcome, hc.product, hc.charged, hnewheld.trans hheld,
        hnewsupply.trans hsupply⟩
  | sellOutcome _ seller m' i' amount _ out market' pool' _ _ stored _ _ pooled positive covered
      out_eq out_pos =>
    have hnewheld := held_debit m i covered
    have hnewsupply := supply_set s m i m' i' (s.totalOutcomeSupply.amount (m', i') - amount)
    obtain ⟨rfl, rfl, hnew⟩ | ⟨hk, hold⟩ := pool_set hc.pooled m' i'
      { pool' with
        collateralReserve := pool'.collateralReserve - out
        outcomeReserve := pool'.outcomeReserve + amount }
    · obtain rfl : pool' = pool := Option.some.inj (pooled.symm.trans hc.pooled)
      obtain rfl : market' = market := Option.some.inj (stored.symm.trans hm)
      have hmax := (hs.terms hm).fee_le
      have hlt := soldFor_lt hc.collateral hc.outcome positive.1 hmax hfee
      have hnn := reserveAfterSale_nonneg hc.collateral hc.outcome positive.1
      have hprod := sell_product hc.collateral hc.outcome positive.1 hmax (.inl hfee)
      rw [← out_eq] at hlt hprod
      rw [if_pos ⟨rfl, rfl⟩] at hnewheld hnewsupply
      refine ⟨_, hnew, ?_, ?_, hc.product.trans hprod, hc.charged, hnewheld.trans ?_,
        hnewsupply.trans ?_⟩
      · simp only
        omega
      · have := hc.outcome
        simp only
        omega
      · simp only
        omega
      · simp only
        omega
    · rw [if_neg hk, sub_zero] at hnewheld
      rw [if_neg hk, add_zero] at hnewsupply
      exact ⟨pool, hold, hc.collateral, hc.outcome, hc.product, hc.charged, hnewheld.trans hheld,
        hnewsupply.trans hsupply⟩
  | _ => exact False.elim ha

theorem onCurve_run {L k : ℤ} {m i : ℕ} {pool : OutcomePool} (hs : Reachable tok self s)
    (hrun : Steps (next tok self) (fun _ a => a.OnCurve) s s') (hc : OnCurve L k s m i pool) :
    ∃ pool', OnCurve L k s' m i pool' := by
  refine hs.preserves (P := fun s => ∃ pool, OnCurve L k s m i pool) hrun ?_ ⟨pool, hc⟩
  rintro s a s' hs ha heff ⟨pool, hc⟩
  exact onCurve_step hs ha heff hc

/-- Nobody holds tokens of a market that does not exist yet. -/
theorem held_fresh (hs : Reachable tok self s) {m : ℕ} (hm : s.market.get? m = none) (i : ℕ) :
    held s m i = 0 := by
  apply Store.sumOver_eq_zero
  rintro k v hk ⟨rfl, -⟩
  exact absurd hm (hs.keyed.balance k v hk)

/-- Each pool of a new market starts at `L` against `L`, with nothing sold if nobody holds
tokens of a market that had the id before. -/
theorem onCurve_created {env : Env} {creator : Address} {params : CreateMarketParams}
    (h : Effect tok self s (.call env (.createMarket creator params)) s')
    (hfee : 1 ≤ params.tradingFeeBps) {i : ℕ} (hi : i < params.numOutcomes)
    (hnone : held s s.marketCounter i = 0) :
    ∃ pool, OnCurve params.initialLiquidity
      (params.initialLiquidity * params.initialLiquidity) s' s.marketCounter i pool := by
  cases h with
  | createMarket _ _ _ closes _ pools supplies _ _ liquidity _ _ seeded unminted =>
    have hp := seeded (s.marketCounter, i)
    have hq := unminted (s.marketCounter, i)
    rw [if_pos ⟨rfl, hi⟩] at hp hq
    refine ⟨_, hp, liquidity, liquidity, le_rfl, ⟨_, Store.get?_set_self _ _ _, hfee⟩,
      hnone.trans ?_, ?_⟩
    · simp only
      omega
    · simp [Store.amount, hq]

/-- A new market is seeded with `L` tokens in each pool, and what users hold stays. -/
theorem createMarket_held {env : Env} {creator : Address} {params : CreateMarketParams}
    (h : Effect tok self s (.call env (.createMarket creator params)) s') {i : ℕ}
    (hi : i < params.numOutcomes) :
    0 < params.initialLiquidity ∧ held s' s.marketCounter i = held s s.marketCounter i ∧
      ∀ pool, s'.outcomePool.get? (s.marketCounter, i) = some pool →
        pool.outcomeReserve = params.initialLiquidity := by
  cases h with
  | createMarket _ _ _ _ _ _ _ _ _ liquidity _ _ seeded =>
    refine ⟨liquidity, rfl, fun pool hp => ?_⟩
    rw [seeded, if_pos ⟨rfl, hi⟩] at hp
    cases hp
    rfl

/-- From `create_market` with initial liquidity `L` and a fee of 1 to 500 basis
points, along any buys and sells: every pool stays positive, its product never
falls, and the tokens outside it are counted, held and covered. This is so exactly
if nobody holds tokens of a market that had the id before. -/
theorem cpmm_runs {s₀ s₁ : State τ} {env : Env} {creator : Address}
    {params : CreateMarketParams} {m i : ℕ} (hs : Reachable tok self s₀)
    (hcreate : createMarket tok self env creator params s₀ = .ok (m, s₁))
    (hfee : 1 ≤ params.tradingFeeBps ∧ params.tradingFeeBps ≤ 500)
    (hi : i < params.numOutcomes) :
    (∀ s₂ s₃, Steps (next tok self) (fun _ a => a.OnCurve) s₁ s₂ →
      Steps (next tok self) (fun _ a => a.OnCurve) s₂ s₃ →
      ∃ p₂ p₃, s₂.outcomePool.get? (m, i) = some p₂ ∧ s₃.outcomePool.get? (m, i) = some p₃ ∧
        0 < p₃.collateralReserve ∧ 0 < p₃.outcomeReserve ∧
        params.initialLiquidity * params.initialLiquidity ≤
          p₂.collateralReserve * p₂.outcomeReserve ∧
        p₂.collateralReserve * p₂.outcomeReserve ≤ p₃.collateralReserve * p₃.outcomeReserve ∧
        s₃.totalOutcomeSupply.amount (m, i) = held s₃ m i ∧
        held s₃ m i = params.initialLiquidity - p₃.outcomeReserve ∧
        held s₃ m i ≤ p₃.collateralReserve) ↔
      held s₀ m i = 0 := by
  have heff := createMarket_effect hcreate
  obtain rfl : m = s₀.marketCounter := createMarket_id hcreate
  obtain ⟨hL, hheld, hseed⟩ := createMarket_held heff hi
  constructor
  · -- The empty run: nothing is sold, so nobody may hold anything.
    intro hruns
    obtain ⟨-, pool, -, hp, -, -, -, -, -, hsold, -⟩ := hruns s₁ s₁ (.refl s₁) (.refl s₁)
    rw [hseed pool hp, sub_self] at hsold
    exact hheld.symm.trans hsold
  · intro hnone s₂ s₃ hrun hrun'
    have hs₁ : Reachable tok self s₁ := by
      apply hs.next (a := .call env (.createMarket creator params))
      simp [next, invoke, hcreate, Except.map]
    obtain ⟨p₁, h₁⟩ := onCurve_created heff hfee.1 hi hnone
    obtain ⟨p₂, h₂⟩ := onCurve_run hs₁ hrun h₁
    -- The curve restarts at `s₂`, with the product reached there as the bound.
    obtain ⟨p₃, h₃⟩ := onCurve_run (hs₁.steps hrun) hrun' { h₂ with product := le_rfl }
    refine ⟨p₂, p₃, h₂.pooled, h₃.pooled, h₃.collateral, h₃.outcome, h₂.product, h₃.product,
      h₃.supply.trans h₃.held.symm, h₃.held, ?_⟩
    rw [h₃.held]
    exact le_of_product hL.le h₃.collateral h₃.outcome (h₂.product.trans h₃.product)

section Runs

open Sample

/-- One buy and one sale on a market with a fee of 30 basis points. -/
theorem cpmm_runs_buy_then_sell : ∃ s₁ s₂ s₃ : State Balances,
    createMarket asset contract (env 0) alice (params 100 1000 30) start = .ok (0, s₁) ∧
    invoke asset contract (env 0) (.buyOutcome bob 0 1 50 0) s₁ = .ok s₂ ∧
    invoke asset contract (env 0) (.sellOutcome bob 0 1 20 0) s₂ = .ok s₃ ∧
    ∃ p₂ p₃, s₂.outcomePool.get? (0, 1) = some p₂ ∧ s₃.outcomePool.get? (0, 1) = some p₃ ∧
      100 * 100 ≤ p₂.collateralReserve * p₂.outcomeReserve ∧
      p₂.collateralReserve * p₂.outcomeReserve ≤ p₃.collateralReserve * p₃.outcomeReserve ∧
      held s₃ 0 1 ≤ p₃.collateralReserve := by
  have h : After (fun r => r.1 = 0 ∧ After (fun s₂ => After (fun _ => True)
      (invoke asset contract (env 0) (.sellOutcome bob 0 1 20 0) s₂))
      (invoke asset contract (env 0) (.buyOutcome bob 0 1 50 0) r.2))
      (createMarket asset contract (env 0) alice (params 100 1000 30) start) := by
    decide +kernel
  obtain ⟨⟨m, s₁⟩, h₁, rfl, h⟩ := h.exists_ok
  obtain ⟨s₂, h₂, h⟩ := h.exists_ok
  obtain ⟨s₃, h₃, -⟩ := h.exists_ok
  have hstart : Reachable asset contract start := start_via fun _ => trivial
  have hbuy : Steps (next asset contract) (fun _ a => a.OnCurve) s₁ s₂ :=
    .tail (a := call (.buyOutcome bob 0 1 50 0)) (.refl s₁) trivial h₂
  have hsell : Steps (next asset contract) (fun _ a => a.OnCurve) s₂ s₃ :=
    .tail (a := call (.sellOutcome bob 0 1 20 0)) (.refl s₂) trivial h₃
  obtain ⟨p₂, p₃, hp₂, hp₃, -, -, hk, hk', -, -, hle⟩ :=
    (cpmm_runs hstart h₁ (by decide) (i := 1) (by decide)).mpr (by decide) s₂ s₃ hbuy hsell
  exact ⟨s₁, s₂, s₃, h₁, h₂, h₃, p₂, p₃, hp₂, hp₃, hk, hk', hle⟩

/-- Market 0 is created before `initialize`, which sets the counter back: the second
market 0 starts with forty-nine tokens of the first in bob's hands, counted as none. -/
theorem cpmm_runs_overwritten : ∃ (s₀ s₁ : State Balances) (pool : OutcomePool),
    Reachable asset contract s₀ ∧
    createMarket asset contract (env 0) alice (params 100 1000 30) s₀ = .ok (0, s₁) ∧
    s₁.outcomePool.get? (0, 0) = some pool ∧ pool.outcomeReserve = 100 ∧
    s₁.totalOutcomeSupply.amount (0, 0) = 0 ∧ held s₁ 0 0 = 49 := by
  have h : After (fun s₀ => After (fun r => r.1 = 0 ∧
        (∃ pool ∈ r.2.outcomePool.get? (0, 0), pool.outcomeReserve = 100) ∧
        r.2.totalOutcomeSupply.amount (0, 0) = 0 ∧ held r.2 0 0 = 49)
      (createMarket asset contract (env 0) alice (params 100 1000 30) s₀))
      (runBlank [call (.createMarket alice (params 100 1000 30)),
        call (.buyOutcome bob 0 0 100 0), setUp]) := by
    decide +kernel
  obtain ⟨s₀, hs, h⟩ := h.exists_ok
  obtain ⟨⟨m, s₁⟩, h₁, rfl, ⟨pool, hp, hreserve⟩, hsupply, hheld⟩ := h.exists_ok
  exact ⟨s₀, s₁, pool, runBlank_via (fun _ _ _ => trivial) hs, h₁, hp, hreserve, hsupply, hheld⟩

end Runs

end PredictionMarket
