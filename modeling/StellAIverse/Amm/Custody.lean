import StellAIverse.Amm.Pools

/-!
# Custody

All pools and all reward balances share one account for each token. Every
operation moves that account by at least what it adds to the books: transfers
match the reserves they are booked to, and a protocol fee leaves the reserves
whether or not a collector receives it.
-/

namespace Amm

open Soroban

variable {τ : Type} {tok : Token τ} {self : Address} {s s' : State τ} {a : Action τ}

/-- Users, providers, borrowers and depositors of an invocation. -/
def Op.parties : Op → List Address
  | .addLiquidity provider _ _ _ => [provider]
  | .removeLiquidity provider _ _ => [provider]
  | .swap user _ _ _ _ => [user]
  | .flashSwap borrower _ _ _ _ _ => [borrower]
  | .depositLpRewards admin _ _ _ => [admin]
  | .claimLpRewards provider _ => [provider]
  | .executeMultiHopSwap user _ _ => [user]
  | _ => []

/-- The contract is no party to its own calls, and other transfers do not spend
what it holds. -/
def Action.Outside (tok : Token τ) (self : Address) (s : State τ) : Action τ → Prop
  | .call _ op => self ∉ op.parties
  | .transfers tokens => ∀ t, tok.balance s.tokens t self ≤ tok.balance tokens t self

/-- What a pool holds of one token. -/
def Pool.reservesIn (t : Address) (pool : Pool) : ℤ :=
  (if t = pool.tokenA then pool.reserveA else 0) + (if t = pool.tokenB then pool.reserveB else 0)

/-- Reserves of all pools in one token. -/
def reserves (s : State τ) (t : Address) : ℤ := s.pool.total fun _ pool => pool.reservesIn t

/-- Undistributed rewards of all pools in one token. -/
def rewards (s : State τ) (t : Address) : ℤ := s.lpRewardBalance.sumOver fun k => k.2 = t

/-- The contract's account covers the books. -/
def Covered (tok : Token τ) (self : Address) (s : State τ) : Prop :=
  ∀ t, reserves s t + rewards s t ≤ tok.balance s.tokens t self

theorem WellFormed.reserves_write (hw : WellFormed s) {id : ℕ} {pool : Pool} (q : Pool)
    (hk : s.pool.get? id = some pool) (t : Address) :
    (s.pool.set pool.poolId q).total (fun _ pool => pool.reservesIn t) =
      reserves s t + (q.reservesIn t - pool.reservesIn t) := by
  rw [(hw.pools id pool hk).1, Store.total_set, Store.weight_some hk]
  unfold reserves
  ring

theorem Pool.reservesIn_moved (pool : Pool) (x y lp : ℤ) (t : Address) :
    (pool.moved x y lp).reservesIn t - pool.reservesIn t =
      (if t = pool.tokenA then x else 0) + (if t = pool.tokenB then y else 0) := by
  change (if t = pool.tokenA then pool.reserveA + x else 0) +
    (if t = pool.tokenB then pool.reserveB + y else 0) - pool.reservesIn t = _
  unfold Pool.reservesIn
  split_ifs <;> ring

theorem Pool.reservesIn_traded (pool : Pool) (aToB : Bool) (paid out : ℤ) (t : Address) :
    (pool.traded aToB paid out).reservesIn t - pool.reservesIn t =
      (if t = pool.tokenIn aToB then paid else 0) - (if t = pool.tokenOut aToB then out else 0) := by
  cases aToB <;> simp only [Pool.reservesIn, Pool.traded, Pool.tokenIn, Pool.tokenOut,
    Bool.false_eq_true, if_false, if_true] <;> split_ifs <;> ring

/-- A share leaves the reward balance it was read from. -/
theorem rewards_afterShare (balances : Store (ℕ × Address) ℤ) (id : ℕ) (token t : Address)
    (share : ℤ) :
    (afterShare balances id token (balances.amount (id, token)) share).sumOver (fun k => k.2 = t) =
      balances.sumOver (fun k => k.2 = t) - if t = token then max share 0 else 0 := by
  unfold afterShare
  split
  · rename_i hpos
    rw [Store.sumOver_set_sub, max_eq_left (by omega)]
    simp only [eq_comm]
  · rename_i hzero
    rw [max_eq_right (by omega)]
    simp

theorem amount_afterShare (balances : Store (ℕ × Address) ℤ) (id : ℕ) {token token' : Address}
    (reward share : ℤ) (h : token' ≠ token) :
    (afterShare balances id token reward share).amount (id, token') =
      balances.amount (id, token') := by
  unfold afterShare
  split
  · rw [Store.amount_set, if_neg]
    rintro ⟨⟩
    exact h rfl
  · rfl

theorem skim_flow {fee : ℤ} (self : Address) (hfee : 0 ≤ fee) (collector : Option Address) (token t : Address) :
    (-if t = token then fee else 0) ≤ netFlow t self (skim self collector token fee) := by
  have hnone : (-if t = token then fee else 0) ≤ 0 := by split <;> omega
  unfold skim
  cases collector with
  | none => exact hnone
  | some collector =>
    by_cases hpos : fee > 0
    · simp only [hpos, if_true]
      rw [netFlow_cons, netFlow_nil, add_zero]
      exact Payment.flow_out_ge hfee
    · simp only [hpos, if_false]
      exact hnone

theorem shareLeg_flow {provider : Address} (h : provider ≠ self) (token t : Address) (share : ℤ) :
    netFlow t self (shareLeg self provider token share) =
      -if t = token then max share 0 else 0 := by
  unfold shareLeg
  split
  · rw [netFlow_cons, netFlow_nil, add_zero, Payment.flow_out h, max_eq_left (by omega)]
  · rw [max_eq_right (by omega)]
    simp

theorem trade_covered {user : Address} (hex : tok.Exact) (hw : WellFormed s) (huser : user ≠ self)
    (hc : Covered tok self s) (h : Trade tok self user s s') : Covered tok self s' := by
  cases h with
  | mk id pool aToB _ amountIn out fee payments tokens stored quoted skimmed legs paid =>
    intro t
    have hfee := (hw.fair stored quoted skimmed).1
    have hbooks := hw.reserves_write (pool.traded aToB (amountIn - fee) out) stored t
    rw [Pool.reservesIn_traded] at hbooks
    have hbalance := hex.settle paid t self
    rw [netFlow_perm legs, netFlow_cons, netFlow_cons, Payment.flow_in huser,
      Payment.flow_out huser] at hbalance
    have hskim := skim_flow self hfee s.governanceCollector (pool.tokenIn aToB) t
    have hold := hc t
    simp only [reserves, rewards] at hold hbooks ⊢
    rw [hbooks, hbalance]
    split at hskim <;> simp_all only [if_true, if_false] <;> omega

theorem trades_covered {user : Address} (hex : tok.Exact) (hw : WellFormed s)
    (huser : user ≠ self) (hc : Covered tok self s) (h : Trades tok self user s s') :
    Covered tok self s' := by
  induction h with
  | refl => exact hc
  | tail htrades hstep ih =>
    exact trade_covered hex (trades_wellFormed hw htrades) huser ih hstep

theorem covered_step (hex : tok.Exact) (hw : WellFormed s) (ho : a.Outside tok self s)
    (hc : Covered tok self s) (h : Effect tok self s a s') : Covered tok self s' := by
  cases h with
  | transfers tokens => exact fun t => (hc t).trans (ho t)
  | createPool =>
    intro t
    -- The next pool id is not taken.
    have hnone : s.pool.get? s.poolCounter = none := by
      cases hk : s.pool.get? s.poolCounter with
      | none => rfl
      | some q =>
        have := (hw.pools _ q hk).2.1
        omega
    have hold := hc t
    simp only [reserves, rewards] at hold ⊢
    rw [Store.total_set, Store.weight_none hnone]
    simpa [Pool.reservesIn] using hold
  | addLiquidity _ provider id x y pool minted tokens _ stored _ _ paid =>
    intro t
    have hbooks := hw.reserves_write (pool.moved x y minted) stored t
    rw [Pool.reservesIn_moved] at hbooks
    have hbalance := hex.settle paid t self
    rw [netFlow_cons, netFlow_cons, netFlow_nil, Payment.flow_in (notSelf ho),
      Payment.flow_in (notSelf ho)] at hbalance
    have hold := hc t
    simp only [reserves, rewards] at hold hbooks ⊢
    omega
  | removeLiquidity _ provider id lp pool x y tokens _ _ stored _ _ _ _ paid =>
    intro t
    have hbooks := hw.reserves_write (pool.moved (-x) (-y) (-lp)) stored t
    rw [Pool.reservesIn_moved] at hbooks
    have hbalance := hex.settle paid t self
    rw [netFlow_cons, netFlow_cons, netFlow_nil, Payment.flow_out (notSelf ho),
      Payment.flow_out (notSelf ho)] at hbalance
    have hold := hc t
    simp only [reserves, rewards] at hold hbooks ⊢
    split at hbooks <;> split at hbooks <;> simp_all only [if_true, if_false] <;> omega
  | trades _ op user s₁ breaker _ lock _ trader trades =>
    have huser : user ≠ self := by
      rintro rfl
      cases op <;> cases trader <;> exact ho (by simp [Op.parties])
    have hend := trades_covered hex (hw.frame breaker s.userPosition lock) huser hc trades
    exact hend
  | depositLpRewards _ admin id token amount pool tokens _ _ _ _ paid =>
    intro t
    have hbalance := hex.settle paid t self
    rw [netFlow_cons, netFlow_nil, Payment.flow_in (notSelf ho)] at hbalance
    have hold := hc t
    simp only [reserves, rewards] at hold ⊢
    rw [Store.sumOver_set_add, hbalance]
    simp only [eq_comm (a := token)]
    omega
  | claimLpRewards _ provider id pool shareA shareB tokens stored _ _ _ _ paid =>
    intro t
    have hdistinct := (hw.pools id pool stored).2.2.distinct
    have hbalance := hex.settle paid t self
    rw [netFlow_append, shareLeg_flow (notSelf ho), shareLeg_flow (notSelf ho)] at hbalance
    have hold := hc t
    simp only [reserves, rewards] at hold ⊢
    -- The two shares are read from different balances, so the first payment does not move the
    -- second.
    have hother := amount_afterShare s.lpRewardBalance id
      (s.lpRewardBalance.amount (id, pool.tokenA)) shareA hdistinct.symm
    rw [← hother, rewards_afterShare, rewards_afterShare, hbalance]
    omega
  | _ => exact hc

theorem covered_deployed (hex : tok.Exact) (tokens : τ) :
    Covered tok self (deployed tokens) :=
  fun t => hex.nonneg tokens t self

/-- With exact tokens, and users other than the contract itself, the contract holds
all reserves and all undistributed rewards of every token. -/
theorem pools_covered (hex : tok.Exact)
    (hs : ReachableVia tok self (fun s a => a.Outside tok self s) s) (t : Address) :
    reserves s t + rewards s t ≤ tok.balance s.tokens t self := by
  obtain ⟨tokens, hrun⟩ := hs
  have hinv : WellFormed s ∧ Covered tok self s := by
    refine hrun.preserves (P := fun s => WellFormed s ∧ Covered tok self s) ?_
      ⟨wellFormed_deployed tokens, covered_deployed hex tokens⟩
    rintro s a s' ho hn ⟨hw, hc⟩
    have heffect := next_effect hn
    exact ⟨wellFormed_step hw heffect, covered_step hex hw ho hc heffect⟩
  exact hinv.2 t

section Runs

open Sample

/-- Two pools of the same tokens under a protocol fee, with trades of every kind. -/
def busy : List Op := opened 100000 200000 ++ [
  .setFeeConfig admin admin 5000,
  .createPool admin xlm usdc 100,
  .addLiquidity bob 1 50000 100000,
  .swap bob 0 xlm 10000 0,
  .flashSwap alice 1 xlm 500 usdc 2000,
  .executeMultiHopSwap bob ⟨xlm, xlm, 10000, 0, 130,
    [⟨0, xlm, usdc, 10000, 0⟩, ⟨1, usdc, xlm, 15115, 0⟩], 0⟩ 0,
  .depositLpRewards admin 0 usdc 777,
  .claimLpRewards alice 0,
  .depositLpRewards admin 1 usdc 5]

theorem pools_covered_busy :
    ∃ s : State Balances, run busy = .ok s ∧ reserves s usdc = 282884 ∧ rewards s usdc = 5 ∧
      282884 + 5 ≤ asset.balance s.tokens usdc contract := by
  have h : After (fun s => reserves s usdc = 282884 ∧ rewards s usdc = 5) (run busy) := by
    decide +kernel
  obtain ⟨s, hs, hreserves, hrewards⟩ := h.exists_ok
  have hvia : ReachableVia asset contract (fun s a => a.Outside asset contract s) s := by
    refine ⟨_, execute_steps _ ?_ hs⟩
    intro a ha s
    obtain ⟨op, hop, rfl⟩ := List.mem_map.mp ha
    have hparties : ∀ op ∈ busy, contract ∉ op.parties := by decide
    exact hparties op hop
  have hcovered := pools_covered asset_exact hvia usdc
  rw [hreserves, hrewards] at hcovered
  exact ⟨s, hs, hreserves, hrewards, hcovered⟩

end Runs

end Amm
