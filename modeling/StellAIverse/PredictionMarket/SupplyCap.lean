import StellAIverse.PredictionMarket.Cpmm

/-!
# The supply cap

`buy_outcome` checks the cap against a counter of outstanding tokens that only
buys and sells move, and that starts at zero with the market. The counter is right as
long as nobody holds tokens when the market is created and no other operation changes
what users hold: a withdrawal of liquidity that pays no tokens, and a match that
debits what it fills.
-/

namespace PredictionMarket

open Soroban

variable {τ : Type} {tok : Token τ} {self : Address} {s s' : State τ} {a : Action τ}

/-- Market `m` accepts trades. -/
def Trading (s : State τ) (m : ℕ) : Prop :=
  ∃ market, s.market.get? m = some market ∧ market.status = .active

/-- The invocations after which the counter of market `m` still counts while it is active,
judged before they run. Nobody holds tokens of a market that is created, unless it is
created a second time (`held_fresh`). -/
def Action.KeepsCount (s : State τ) (m : ℕ) : Action τ → Prop
  | .call _ (.createMarket _ params) => s.marketCounter = m →
      ∀ i < params.numOutcomes, held s m i = 0
  | .call _ (.removeLiquidity _ m' i x) => m' = m → Trading s m → ∀ pool,
      s.outcomePool.get? (m, i) = some pool → x * pool.outcomeReserve < pool.lpTotalSupply
  | .call _ (.matchSellOrder seller m' oid) => m' = m → Trading s m →
      ∀ i, (Op.matchSellOrder seller m oid).Conserves s m i
  | _ => True

/-- The counter of every outcome is what users hold, within the cap. -/
def Counted (s : State τ) (m : ℕ) : Prop :=
  ∀ market i, s.market.get? m = some market → market.status = .active → i < market.numOutcomes →
    held s m i = s.totalOutcomeSupply.amount (m, i) ∧ held s m i ≤ market.maxOutcomeSupply

theorem counted_created {env : Env} {creator : Address} {params : CreateMarketParams}
    (hnone : ∀ i < params.numOutcomes, held s s.marketCounter i = 0)
    (h : Effect tok self s (.call env (.createMarket creator params)) s') :
    Counted s' s.marketCounter := by
  intro market i hm _ hi
  cases h with
  | createMarket _ _ _ _ _ _ _ _ _ _ cap _ _ unminted =>
    rw [Store.get?_set_self] at hm
    cases hm
    have hq := unminted (s.marketCounter, i)
    rw [if_pos ⟨rfl, hi⟩] at hq
    refine ⟨(hnone i hi).trans ?_, (hnone i hi).le.trans cap.le⟩
    simp [Store.amount, hq]

/-- A withdrawal too small for the pool to pay a token. -/
theorem outcomeFor_eq_zero {pool : OutcomePool} {x : ℤ} (hx : 0 ≤ x)
    (ho : 0 ≤ pool.outcomeReserve) (h : x * pool.outcomeReserve < pool.lpTotalSupply) :
    pool.outcomeFor x = 0 := by
  unfold OutcomePool.outcomeFor
  exact Int.tdiv_eq_zero_of_lt (mul_nonneg hx ho) h

theorem counted_step {m : ℕ} (hs : Reachable tok self s) (ha : a.KeepsCount s m)
    (h : Effect tok self s a s') (hcount : Counted s m) : Counted s' m := by
  intro market' i hm hactive hi
  obtain ⟨market, hold, hlater, hc⟩ | ⟨rfl, env, creator, params, closes, rfl, -⟩ :=
    market_back hs.ids h hm
  swap
  · exact counted_created (ha rfl) h market' i hm hactive hi
  have hact := hlater.active hactive
  have htrading : Trading s m := ⟨market, hold, hact⟩
  obtain ⟨heq, hle⟩ := hcount market i hold hact (by rw [← hlater.numOutcomes]; exact hi)
  rw [hlater.maxOutcomeSupply]
  cases h with
  | createMarket _ _ _ _ _ _ _ _ _ _ _ _ _ unminted =>
    have hne : m ≠ s.marketCounter := Ne.symm hc
    refine ⟨heq.trans ?_, hle⟩
    simp [Store.amount, unminted, hne]
  | buyOutcome _ buyer m₀ i₀ _ _ _ out _ _ _ _ stored _ _ _ _ _ _ _ out_pos cap =>
    have hheld := held_credit hs.balances m i m₀ i₀ buyer out_pos.le
    have hsupply := supply_set s m i m₀ i₀ (s.totalOutcomeSupply.amount (m₀, i₀) + out)
    simp only [held] at hheld heq hle ⊢
    rw [hheld, hsupply]
    split
    · rename_i hk
      obtain ⟨rfl, rfl⟩ := hk
      cases hold.symm.trans stored
      omega
    · omega
  | sellOutcome _ seller m₀ i₀ amount _ _ _ _ _ _ _ _ _ _ positive covered =>
    have hheld := held_debit m i covered
    have hsupply := supply_set s m i m₀ i₀ (s.totalOutcomeSupply.amount (m₀, i₀) - amount)
    simp only [held] at hheld heq hle ⊢
    rw [hheld, hsupply]
    split <;> omega
  | removeLiquidity _ provider m₀ i₀ x _ pool _ _ pooled positive _ supplied =>
    have hout := (hs.sound pooled).outcomeFor_nonneg supplied positive.le
    have hheld := held_credit hs.balances m i m₀ i₀ provider hout
    simp only [held] at hheld heq hle ⊢
    rw [hheld]
    split
    · rename_i hk
      obtain ⟨rfl, rfl⟩ := hk
      have hzero := outcomeFor_eq_zero positive.le (hs.sound pooled supplied.le).2
        (ha rfl htrading pool pooled)
      omega
    · omega
  | matchSellOrder _ m₀ oid sell book _ stored _ _ scanned fills =>
    have hheld := match_held hs.orders hs.balances stored scanned fills m i
    have hfilled := (hs.orders.valid _ _ stored).filled
    simp only [held] at hheld heq hle ⊢
    rw [hheld]
    split
    · rename_i hk
      obtain ⟨rfl, rfl⟩ := hk
      have hcond := ha rfl htrading sell.outcomeIndex sell stored ⟨rfl, rfl⟩
      omega
    · omega
  | redeemWinningTokens _ user m₀ w market₀ _ _ stored resolved =>
    have hheld := held_put s m i m₀ w user 0
    have hne : ¬ (m₀ = m ∧ w = i) := by
      rintro ⟨rfl, -⟩
      cases hold.symm.trans stored
      rw [hact] at resolved
      cases resolved
    simp only [held] at hheld heq hle ⊢
    rw [hheld, if_neg hne, add_zero]
    exact ⟨heq, hle⟩
  | _ => exact ⟨heq, hle⟩

/-- In every run that keeps the counter of market `m`, while it is active the
users' holdings of each outcome are what is counted, and within the cap. -/
theorem supply_capped {m i : ℕ} {market : Market}
    (h : ReachableVia tok self (fun s a => a.KeepsCount s m) s)
    (hm : s.market.get? m = some market) (hactive : market.status = .active)
    (hi : i < market.numOutcomes) :
    held s m i = s.totalOutcomeSupply.amount (m, i) ∧ held s m i ≤ market.maxOutcomeSupply := by
  have hcount : Counted s m := by
    refine ReachableVia.induction (P := fun s => Counted s m) ?_ ?_ h
    · rintro s ⟨tokens, rfl⟩
      simp [Counted, deployed]
    · intro s a s' hr ha heff hc
      exact counted_step hr ha heff hc
  exact hcount market i hm hactive hi

section Runs

open Sample

/-- A buy and a sale. -/
def roundTrip : List (Action Balances) := [
  call (.createMarket alice (params 100 60 30)),
  call (.buyOutcome bob 0 0 100 0),
  call (.sellOutcome bob 0 0 10 0)]

/-- Liquidity is added and withdrawn again. -/
def liquidityRoundTrip : List (Action Balances) := [
  call (.createMarket alice (params 100 60 30)),
  call (.addLiquidity bob 0 0 100 100),
  call (.removeLiquidity bob 0 0 100)]

theorem supply_capped_round_trip : ∃ (s : State Balances) (market : Market),
    run roundTrip = .ok s ∧ s.market.get? 0 = some market ∧ held s 0 0 = 39 ∧
    held s 0 0 = s.totalOutcomeSupply.amount (0, 0) ∧ held s 0 0 ≤ market.maxOutcomeSupply := by
  have h : After (fun s => held s 0 0 = 39 ∧ ∃ market ∈ s.market.get? 0,
      market.status = .active ∧ 0 < market.numOutcomes) (run roundTrip) := by
    decide +kernel
  obtain ⟨s, hs, hheld, market, hm, hactive, hi⟩ := h.exists_ok
  have hvia : ReachableVia asset contract (fun s a => a.KeepsCount s 0) s := by
    refine run_cons_via ?_ ?_ ?_ hs
    · exact fun _ => trivial
    · exact fun _ _ _ => rfl
    · intro a ha s
      simp only [List.mem_cons, List.not_mem_nil, or_false] at ha
      rcases ha with rfl | rfl <;> trivial
  obtain ⟨heq, hle⟩ := supply_capped hvia hm hactive hi
  exact ⟨s, market, hs, hm, hheld, heq, hle⟩

/-- Bob ends up with one hundred tokens that nobody counted, under a cap of sixty. -/
theorem supply_not_capped : ∃ (s : State Balances) (market : Market),
    Reachable asset contract s ∧ s.market.get? 0 = some market ∧ market.status = .active ∧
    0 < market.numOutcomes ∧ s.totalOutcomeSupply.amount (0, 0) = 0 ∧ held s 0 0 = 100 ∧
    market.maxOutcomeSupply < held s 0 0 := by
  have h : After (fun s => (∃ market ∈ s.market.get? 0, market.status = .active ∧
      0 < market.numOutcomes ∧ market.maxOutcomeSupply < held s 0 0) ∧
      s.totalOutcomeSupply.amount (0, 0) = 0 ∧ held s 0 0 = 100) (run liquidityRoundTrip) := by
    decide +kernel
  obtain ⟨s, hs, ⟨market, hm, hactive, hi, hlt⟩, hzero, hheld⟩ := h.exists_ok
  exact ⟨s, market, run_reachable hs, hm, hactive, hi, hzero, hheld, hlt⟩

end Runs

end PredictionMarket
