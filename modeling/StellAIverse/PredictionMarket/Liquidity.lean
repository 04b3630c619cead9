import Mathlib.Algebra.BigOperators.Group.Finset.Piecewise
import Mathlib.Algebra.Order.BigOperators.Group.Finset
import StellAIverse.PredictionMarket.Holdings
import StellAIverse.Soroban.History

/-!
# Liquidity shares

Reserves and share supplies are kept per pool, the shares of a provider per
market. The market total is the sum of the pool supplies, as long as shares are burnt
in pools of listed outcomes: a market that is created under an id a second time can
have pools of the first beyond its own outcomes. The total is not the sum of the
providers' shares, because `create_market` credits nobody with the shares it mints.
Nor is a share tied to its pool: burning shares of one pool against another pays that
pool's price.
-/

namespace PredictionMarket

open Soroban

variable {τ : Type} {tok : Token τ} {self : Address} {s s' : State τ} {a : Action τ}

/-- Sum of one field over the pools `0, ..., n - 1` of market `m`. -/
def poolSum (f : OutcomePool → ℤ) (pools : Store (ℕ × ℕ) OutcomePool) (m n : ℕ) : ℤ :=
  ∑ i ∈ Finset.range n, (pools.get? (m, i)).elim 0 f

section PoolSum

variable {f : OutcomePool → ℤ} {pools : Store (ℕ × ℕ) OutcomePool} {m n : ℕ}

theorem poolSum_congr {pools' : Store (ℕ × ℕ) OutcomePool}
    (h : ∀ i < n, pools'.get? (m, i) = pools.get? (m, i)) :
    poolSum f pools' m n = poolSum f pools m n := by
  unfold poolSum
  apply Finset.sum_congr rfl
  intro i hi
  rw [h i (Finset.mem_range.mp hi)]

/-- Writing one pool exchanges its field. -/
theorem poolSum_set {m' i' : ℕ} {pool : OutcomePool} (hp : pools.get? (m', i') = some pool)
    (hi : m' = m → i' < n) (new : OutcomePool) :
    poolSum f (pools.set (m', i') new) m n =
      poolSum f pools m n + if m' = m then f new - f pool else 0 := by
  by_cases hm : m' = m
  · subst hm
    have hi := hi rfl
    have hone : ∀ i, ((pools.set (m', i') new).get? (m', i)).elim 0 f =
        (pools.get? (m', i)).elim 0 f + if i = i' then f new - f pool else 0 := by
      intro i
      rw [Store.get?_set]
      by_cases he : i = i'
      · subst he
        simp [hp]
      · simp [he]
    simp only [poolSum, hone, Finset.sum_add_distrib, Finset.sum_ite_eq', Finset.mem_range, hi,
      if_true]
  · rw [if_neg hm, add_zero]
    apply poolSum_congr
    intro i _
    apply Store.get?_set_ne
    simp only [ne_eq, Prod.mk.injEq]
    tauto

/-- Writing one pool keeps the sum of a field it keeps. -/
theorem poolSum_keep {k : ℕ × ℕ} {pool new : OutcomePool} (hp : pools.get? k = some pool)
    (hf : f new = f pool) : poolSum f (pools.set k new) m n = poolSum f pools m n := by
  apply Finset.sum_congr rfl
  intro i _
  rw [Store.get?_set]
  split
  · rename_i he
    simp [he, hp, hf]
  · rfl

/-- Equal pools in every place. -/
theorem poolSum_const {pool : OutcomePool} (h : ∀ i < n, pools.get? (m, i) = some pool) :
    poolSum f pools m n = f pool * n := by
  have hone : poolSum f pools m n = ∑ _i ∈ Finset.range n, f pool := by
    unfold poolSum
    apply Finset.sum_congr rfl
    intro i hi
    rw [h i (Finset.mem_range.mp hi)]
    rfl
  rw [hone, Finset.sum_const, Finset.card_range, nsmul_eq_mul, mul_comm]

end PoolSum

/-- Shares of market `m` that providers hold. -/
def lpHeld (s : State τ) (m : ℕ) : ℤ := s.lpShares.sumOver fun k => k.1 = m

/-- Number of outcomes of market `m`. -/
def outcomes (s : State τ) (m : ℕ) : ℕ := (s.market.get? m).elim 0 Market.numOutcomes

/-- The market total agrees with the pools and with the providers, and no pool
is in debt. -/
structure LpLedger (s : State τ) (m : ℕ) : Prop where
  pools : s.lpTotalSupply.amount m =
    poolSum OutcomePool.lpTotalSupply s.outcomePool m (outcomes s m)
  providers : s.lpTotalSupply.amount m = lpHeld s m
  nonneg : ∀ i pool, s.outcomePool.get? (m, i) = some pool →
    0 ≤ pool.collateralReserve ∧ 0 ≤ pool.outcomeReserve ∧ 0 ≤ pool.lpTotalSupply

theorem lpHeld_put (s : State τ) (m m' : ℕ) (provider : Address) (v : ℤ) :
    (s.lpShares.put (m', provider) v).sumOver (fun k => k.1 = m) =
      lpHeld s m + if m' = m then max v 0 - s.lpShares.amount (m', provider) else 0 :=
  Store.sumOver_put _ _ _ _

/-- Nobody has shares of a market that does not exist yet. -/
theorem lpHeld_fresh (hs : Reachable tok self s) {m : ℕ} (hm : s.market.get? m = none) :
    lpHeld s m = 0 := by
  apply Store.sumOver_eq_zero
  rintro k v hk rfl
  exact absurd hm (hs.keyed.shares k v hk)

/-- `create_market` credits nobody with the shares it mints. -/
theorem lpHeld_lt_created {m : ℕ} (hnone : lpHeld s m = 0) (hc : a.Creates s m)
    (h : Effect tok self s a s') : lpHeld s' m < s'.lpTotalSupply.amount m := by
  cases h with
  | createMarket _ _ params _ _ _ _ hn _ liquidity =>
    obtain rfl : s.marketCounter = m := hc
    have hpos : 0 < params.initialLiquidity * params.numOutcomes := by
      have : (0 : ℤ) < params.numOutcomes := by omega
      positivity
    simp only [lpHeld] at hnone ⊢
    rw [Store.amount_set_add, if_pos rfl]
    omega
  | _ => exact False.elim hc

/-- As long as it is not overwritten, the shares of the market's creator are in the
total but with nobody. -/
theorem lpHeld_lt_lpTotal {m : ℕ} (h : ReachableVia tok self (fun s a => a.Fresh s m) s)
    (hm : s.market.get? m ≠ none) : lpHeld s m < s.lpTotalSupply.amount m := by
  revert hm
  refine ReachableVia.induction (P := fun s => s.market.get? m ≠ none →
    lpHeld s m < s.lpTotalSupply.amount m) ?_ ?_ h
  · rintro s ⟨tokens, rfl⟩
    simp [deployed]
  · intro s a s' hr hf heff ih hm
    obtain ⟨market', hm'⟩ := Option.ne_none_iff_exists'.mp hm
    obtain ⟨market, hold, -, hc⟩ | ⟨rfl, env, creator, params, -, rfl, -⟩ :=
      market_back hr.ids heff hm'
    swap
    · have hc : Action.Creates s s.marketCounter (.call env (.createMarket creator params)) := rfl
      exact lpHeld_lt_created (lpHeld_fresh hr (hf hc)) hc heff
    have h := ih (by simp [hold])
    cases heff with
    | createMarket =>
      have hne : s.marketCounter ≠ m := hc
      rwa [Store.amount_set_add, if_neg hne, add_zero]
    | addLiquidity _ provider m₀ _ _ _ shares _ _ _ _ _ _ _ _ _ shares_pos =>
      have hbal := hr.shares.amount_nonneg (m₀, provider)
      simp only [lpHeld] at h ⊢
      rw [lpHeld_put, Store.amount_set_add]
      simp only [lpHeld]
      split <;> omega
    | removeLiquidity _ provider m₀ _ x _ _ _ _ _ positive owned =>
      simp only [lpHeld] at h ⊢
      rw [lpHeld_put, Store.amount_set_add]
      simp only [lpHeld]
      split <;> omega
    | _ => exact h

/-- Nothing is stored about a market that does not exist. -/
theorem lpLedger_of_none (hs : Reachable tok self s) {m : ℕ} (hm : s.market.get? m = none) :
    LpLedger s m := by
  have hzero : s.lpTotalSupply.amount m = 0 := by
    apply Store.amount_of_none
    cases hk : s.lpTotalSupply.get? m with
    | none => rfl
    | some v => exact absurd hm (hs.keyed.lpTotal m v hk)
  refine ⟨?_, hzero.trans (lpHeld_fresh hs hm).symm, ?_⟩
  · rw [hzero]
    simp [outcomes, hm, poolSum]
  · intro i pool hp
    exact absurd hm (hs.keyed.pool _ pool hp)

/-- The calls that burn shares of market `m` in the pool of an outcome it lists; the
contract does not ask for it. -/
def Action.BurnsListed (s : State τ) (m : ℕ) : Action τ → Prop
  | .call _ (.removeLiquidity _ m' i _) => m' = m → Listed s m i
  | _ => True

/-- The market total is the sum of the pool supplies, in every run that burns shares in
pools of listed outcomes only. -/
theorem lpTotal_eq_poolSum {m : ℕ} {market : Market}
    (h : ReachableVia tok self (fun s a => a.BurnsListed s m) s)
    (hm : s.market.get? m = some market) :
    s.lpTotalSupply.amount m =
      poolSum OutcomePool.lpTotalSupply s.outcomePool m market.numOutcomes := by
  revert market
  refine ReachableVia.induction (P := fun s => ∀ {market}, s.market.get? m = some market →
    s.lpTotalSupply.amount m =
      poolSum OutcomePool.lpTotalSupply s.outcomePool m market.numOutcomes) ?_ ?_ h
  · rintro s ⟨tokens, rfl⟩
    simp [deployed]
  · intro s a s' hr ha heff ih market' hm'
    obtain ⟨market, hold, hlater, hc⟩ | ⟨rfl, env, creator, params, closes, rfl, rfl⟩ :=
      market_back hr.ids heff hm'
    · have h := ih hold
      rw [hlater.numOutcomes]
      cases heff with
      | createMarket _ _ _ _ _ _ _ _ _ _ _ _ seeded =>
        have hne : s.marketCounter ≠ m := hc
        rw [Store.amount_set_add, if_neg hne, add_zero, h]
        exact (poolSum_congr fun i _ => by simp [seeded, hne.symm]).symm
      | buyOutcome _ _ _ _ _ _ _ _ _ _ _ _ _ _ _ pooled =>
        simp only [poolSum_keep pooled, h]
      | sellOutcome _ _ _ _ _ _ _ _ _ _ _ _ _ _ pooled =>
        simp only [poolSum_keep pooled, h]
      | redeemWinningTokens _ _ _ _ _ _ _ _ _ _ _ pooled =>
        simp only [poolSum_keep pooled, h]
      | addLiquidity _ _ m₀ i _ _ _ _ _ _ stored _ valid pooled =>
        have hi : m₀ = m → i < market.numOutcomes := by
          rintro rfl
          cases hold.symm.trans stored
          exact valid
        simp only [Store.amount_set_add, poolSum_set pooled hi, h]
        split <;> omega
      | removeLiquidity _ _ m₀ i _ _ _ _ _ pooled =>
        have hi : m₀ = m → i < market.numOutcomes := by
          intro he
          obtain ⟨market₀, hm₀, hlt⟩ := ha he
          cases hold.symm.trans hm₀
          exact hlt
        simp only [Store.amount_set_add, poolSum_set pooled hi, h]
        split <;> omega
      | _ => exact h
    · cases heff with
      | createMarket _ _ _ _ _ pools _ _ _ _ _ _ seeded =>
        have hconst : poolSum OutcomePool.lpTotalSupply pools s.marketCounter
            params.numOutcomes = params.initialLiquidity * params.numOutcomes :=
          poolSum_const fun i hi => by rw [seeded, if_pos ⟨rfl, hi⟩]
        rw [Store.amount_set_add, if_pos rfl]
        simp only [newMarket, hconst]
        omega

section Ledger

variable {log : List (State τ × Action τ)} {tokens : τ}

theorem reachable_of_history
    (h : History (next tok self) (fun _ _ _ => True) (deployed tokens) log s) :
    Reachable tok self s :=
  ⟨_, ⟨tokens, rfl⟩, h.steps fun _ _ _ _ => trivial⟩

/-- A market is stored once a call has created it. -/
theorem created_iff (h : History (next tok self) (fun _ _ _ => True) (deployed tokens) log s)
    (m : ℕ) : s.market.get? m = none ↔ ∀ e ∈ log, ¬ e.2.Creates e.1 m := by
  induction h with
  | nil => simp [deployed]
  | @cons log s s' a run _ done ih =>
    rw [List.forall_mem_cons, ← ih]
    have heff := next_effect done
    constructor
    · intro hnone
      refine ⟨fun hc => ?_, ?_⟩
      · cases heff with
        | createMarket =>
          obtain rfl : s.marketCounter = m := hc
          simp at hnone
        | _ => exact hc
      · by_contra hm
        exact known_step heff hm hnone
    · rintro ⟨hc, hnone⟩
      by_contra hm
      obtain ⟨market', hm'⟩ := Option.ne_none_iff_exists'.mp hm
      obtain ⟨market, hold, -⟩ | ⟨rfl, env, creator, params, -, rfl, -⟩ :=
        market_back (reachable_of_history run).ids heff hm'
      · cases hnone.symm.trans hold
      · exact hc rfl

/-- While the ledger of a market agrees in every state, the market has not been created. -/
theorem none_of_lpLedger
    (h : History (next tok self) (fun _ _ _ => True) (deployed tokens) log s) {m : ℕ}
    (hledger : LpLedger s m) (hlog : ∀ e ∈ log, LpLedger e.1 m) : s.market.get? m = none := by
  induction h with
  | nil => rfl
  | @cons log s s' a run _ done ih =>
    obtain ⟨hbefore, hlog⟩ := List.forall_mem_cons.mp hlog
    have hnone := ih hbefore hlog
    have hr := reachable_of_history run
    by_contra hm
    obtain ⟨market', hm'⟩ := Option.ne_none_iff_exists'.mp hm
    obtain ⟨market, hold, -⟩ | ⟨rfl, env, creator, params, -, rfl, -⟩ :=
      market_back hr.ids (next_effect done) hm'
    · cases hnone.symm.trans hold
    · have hc : Action.Creates s s.marketCounter (.call env (.createMarket creator params)) := rfl
      have hlt := lpHeld_lt_created (lpHeld_fresh hr hnone) hc (next_effect done)
      exact absurd hledger.providers hlt.ne'

/-- Until then it agrees. -/
theorem lpLedger_of_log
    (h : History (next tok self) (fun _ _ _ => True) (deployed tokens) log s) {m : ℕ}
    (hnone : s.market.get? m = none) : ∀ e ∈ log, LpLedger e.1 m := by
  induction h with
  | nil => simp
  | @cons log s s' a run _ done ih =>
    have hbefore : s.market.get? m = none := by
      by_contra hm
      exact known_step (next_effect done) hm hnone
    exact List.forall_mem_cons.mpr
      ⟨lpLedger_of_none (reachable_of_history run) hbefore, ih hbefore⟩

/-- The ledger of a market agrees all along a run exactly if the run does not create the
market. A run that overwrites no market `m` even ends with a ledger that does not agree
once it has created `m`: the total of a created market exceeds what its providers hold by
the shares `create_market` mints to nobody. -/
theorem lpLedger_iff
    (h : History (next tok self) (fun _ _ _ => True) (deployed tokens) log s) (m : ℕ) :
    (LpLedger s m ∧ (∀ e ∈ log, LpLedger e.1 m) ↔ ∀ e ∈ log, ¬ e.2.Creates e.1 m) ∧
    ((∀ e ∈ log, e.2.Fresh e.1 m) → (LpLedger s m ↔ ∀ e ∈ log, ¬ e.2.Creates e.1 m)) := by
  rw [← created_iff h m]
  refine ⟨⟨fun hall => none_of_lpLedger h hall.1 hall.2, fun hnone => ?_⟩, fun hfresh => ?_⟩
  · exact ⟨lpLedger_of_none (reachable_of_history h) hnone, lpLedger_of_log h hnone⟩
  · refine ⟨fun hledger => ?_, lpLedger_of_none (reachable_of_history h)⟩
    by_contra hm
    have hlt := lpHeld_lt_lpTotal (⟨_, ⟨tokens, rfl⟩, h.steps_of_mem hfresh⟩) hm
    exact absurd hledger.providers hlt.ne'

end Ledger

/-- Calls of `add_liquidity` and `remove_liquidity` by one provider on one
market from state `s₀`, with the collateral deposited and the collateral paid. -/
inductive Provision (tok : Token τ) (self provider : Address) (m : ℕ)
    (ok : State τ → Op → Prop) (s₀ : State τ) : ℤ → ℤ → State τ → Prop
  | start : Provision tok self provider m ok s₀ 0 0 s₀
  | add {deposited paid : ℤ} {s s' : State τ} {env : Env} {i : ℕ} {a b shares : ℤ}
      (before : Provision tok self provider m ok s₀ deposited paid s)
      (admitted : ok s (.addLiquidity provider m i a b))
      (call : addLiquidity tok self env provider m i a b s = .ok (shares, s')) :
      Provision tok self provider m ok s₀ (deposited + a) paid s'
  | remove {deposited paid : ℤ} {s s' : State τ} {env : Env} {i : ℕ} {x c o : ℤ}
      (before : Provision tok self provider m ok s₀ deposited paid s)
      (admitted : ok s (.removeLiquidity provider m i x))
      (call : removeLiquidity tok self env provider m i x s = .ok ((c, o), s')) :
      Provision tok self provider m ok s₀ deposited (paid + c) s'

/-- The calls that keep shares in their pool: a pool is added to if it has
shares, or neither shares nor collateral, to begin with, and burns no more
shares than it has minted since. -/
def Op.SamePool (s₀ : State τ) (m : ℕ) (s : State τ) : Op → Prop
  | .addLiquidity _ _ i _ _ => ∀ p₀, s₀.outcomePool.get? (m, i) = some p₀ →
      0 < p₀.lpTotalSupply ∨ (p₀.lpTotalSupply = 0 ∧ p₀.collateralReserve = 0)
  | .removeLiquidity _ _ i x => ∀ p₀ p, s₀.outcomePool.get? (m, i) = some p₀ →
      s.outcomePool.get? (m, i) = some p → x ≤ p.lpTotalSupply - p₀.lpTotalSupply
  | _ => True

/-- Since `p₀` the pool has minted on balance, and its share price has not fallen. -/
structure OutcomePool.Grown (p₀ p : OutcomePool) : Prop where
  fundable : 0 < p₀.lpTotalSupply ∨ (p₀.lpTotalSupply = 0 ∧ p₀.collateralReserve = 0)
  supply : p₀.lpTotalSupply ≤ p.lpTotalSupply
  price : p₀.collateralReserve * p.lpTotalSupply ≤ p.collateralReserve * p₀.lpTotalSupply

theorem OutcomePool.Grown.collateral {p₀ p : OutcomePool} (h : p₀.Grown p) (h₀ : p₀.Sound)
    (hp : p.Sound) : p₀.collateralReserve ≤ p.collateralReserve := by
  have hsupply := h.supply
  have hprice := h.price
  rcases h.fundable with hpos | ⟨hzero, hc⟩
  · have hc₀ := (h₀ hpos.le).1
    by_contra hlt
    nlinarith
  · rw [hc]
    exact (hp (by omega)).1

/-- Minting at a price rounded against the provider. -/
theorem OutcomePool.Grown.mint {p₀ p : OutcomePool} (h : p₀.Grown p) (hp : p.Sound)
    {a b shares : ℤ} (ha : 0 < a) (minted : calculateLpSharesAdd a b p = .ok shares)
    (hs : 0 < shares) :
    p₀.Grown ⟨p.collateralReserve + a, p.outcomeReserve + b, p.lpTotalSupply + shares⟩ := by
  have hsupply := h.supply
  have hprice := h.price
  refine ⟨h.fundable, by simp only; omega, ?_⟩
  simp only
  rcases h.fundable with hpos | ⟨hzero, hc⟩
  · have hT : 0 < p.lpTotalSupply := by omega
    have hc := (hp hT.le).1
    rcases calculateLpSharesAdd_ok minted with ⟨hz, -⟩ | ⟨-, hne, -, hmin⟩
    · omega
    · have hle : shares ≤ (a * p.lpTotalSupply).tdiv p.collateralReserve := by omega
      have hfloor := I128.tdiv_mul_le (a := a * p.lpTotalSupply) (b := p.collateralReserve)
        (by positivity) (by omega)
      have hcost : shares * p.collateralReserve ≤ a * p.lpTotalSupply := by nlinarith
      -- Multiply by the supply, where the old price bounds the new one.
      have hscaled : p₀.collateralReserve * shares * p.lpTotalSupply ≤
          a * p₀.lpTotalSupply * p.lpTotalSupply := by nlinarith
      have := le_of_mul_le_mul_right hscaled hT
      nlinarith
  · rw [hc, hzero]
    simp

/-- Burning at a price rounded against the provider. -/
theorem OutcomePool.Grown.burn {p₀ p : OutcomePool} (h : p₀.Grown p) (hp : p.Sound) {x : ℤ}
    (hx : 0 < x) (hT : 0 < p.lpTotalSupply) (hle : x ≤ p.lpTotalSupply - p₀.lpTotalSupply) :
    p₀.Grown ⟨p.collateralReserve - p.collateralFor x, p.outcomeReserve - p.outcomeFor x,
      p.lpTotalSupply - x⟩ := by
  have hprice := h.price
  refine ⟨h.fundable, by simp only; omega, ?_⟩
  simp only
  rcases h.fundable with hpos | ⟨hzero, hc⟩
  · have hc := (hp hT.le).1
    have hfloor := I128.tdiv_mul_le (a := x * p.collateralReserve) (by positivity) hT
    change p.collateralFor x * _ ≤ _ at hfloor
    have hscaled : p₀.collateralReserve * (p.lpTotalSupply - x) * p.lpTotalSupply ≤
        (p.collateralReserve - p.collateralFor x) * p₀.lpTotalSupply * p.lpTotalSupply := by
      nlinarith
    exact le_of_mul_le_mul_right hscaled hT
  · rw [hc, hzero]
    simp

/-- What a provision leaves: the pools untouched or, those of listed outcomes, grown,
and the difference of deposits and payments in their reserves. -/
structure Provided (s₀ : State τ) (m : ℕ) (market : Market) (deposited paid : ℤ)
    (s : State τ) : Prop where
  stored : s.market.get? m = some market
  pools : ∀ i p, s.outcomePool.get? (m, i) = some p → ∃ p₀,
    s₀.outcomePool.get? (m, i) = some p₀ ∧ (p = p₀ ∨ i < market.numOutcomes ∧ p₀.Grown p)
  balance : poolSum OutcomePool.collateralReserve s.outcomePool m market.numOutcomes =
    poolSum OutcomePool.collateralReserve s₀.outcomePool m market.numOutcomes + deposited - paid

/-- Growing one pool and leaving the others. -/
theorem Provided.write {s₀ : State τ} {m i : ℕ} {market : Market} {deposited paid : ℤ}
    (h : Provided s₀ m market deposited paid s) {p₀ new : OutcomePool}
    (hp₀ : s₀.outcomePool.get? (m, i) = some p₀) (hi : i < market.numOutcomes)
    (hgrown : p₀.Grown new) :
    ∀ j p, (s.outcomePool.set (m, i) new).get? (m, j) = some p → ∃ p₀,
      s₀.outcomePool.get? (m, j) = some p₀ ∧ (p = p₀ ∨ j < market.numOutcomes ∧ p₀.Grown p) := by
  intro j p hp
  by_cases hj : i = j
  · subst hj
    rw [Store.get?_set_self] at hp
    cases hp
    exact ⟨p₀, hp₀, .inr ⟨hi, hgrown⟩⟩
  · rw [pool_set_ne (fun hk => hj hk.2)] at hp
    exact h.pools j p hp

theorem Provision.provided {provider : Address} {m : ℕ} {market : Market} {s₀ : State τ}
    {deposited paid : ℤ} (h₀ : Reachable tok self s₀) (hm : s₀.market.get? m = some market)
    (h : Provision tok self provider m (fun s op => op.SamePool s₀ m s) s₀ deposited paid s) :
    Reachable tok self s ∧ Provided s₀ m market deposited paid s := by
  induction h with
  | start => exact ⟨h₀, hm, fun i p hp => ⟨p, hp, .inl rfl⟩, by ring⟩
  | @add deposited paid s s' env i a b shares before admitted call ih =>
    obtain ⟨hr, hprov⟩ := ih
    have hr' : Reachable tok self s' := by
      apply hr.next (a := .call env (.addLiquidity provider m i a b))
      simp [next, invoke, call, Except.map]
    have heff := addLiquidity_effect call
    refine ⟨hr', ?_⟩
    cases heff with
    | addLiquidity _ _ _ _ _ _ _ market' pool _ stored _ valid pooled positive minted shares_pos =>
      obtain rfl : market' = market := Option.some.inj (stored.symm.trans hprov.stored)
      obtain ⟨p₀, hp₀, hgrown⟩ := hprov.pools i pool pooled
      have hstart : p₀.Grown pool := by
        rcases hgrown with rfl | ⟨-, hgrown⟩
        · exact ⟨admitted pool hp₀, le_rfl, le_rfl⟩
        · exact hgrown
      refine ⟨hprov.stored, hprov.write hp₀ valid ?_, ?_⟩
      · exact hstart.mint (hr.sound pooled) positive.1 minted shares_pos
      · simp only [poolSum_set pooled fun _ => valid, hprov.balance, if_true]
        ring
  | @remove deposited paid s s' env i x c o before admitted call ih =>
    obtain ⟨hr, hprov⟩ := ih
    have hr' : Reachable tok self s' := by
      apply hr.next (a := .call env (.removeLiquidity provider m i x))
      simp [next, invoke, call, Except.map]
    obtain ⟨pool', hpool', hpaid⟩ := removeLiquidity_paid call
    have heff := removeLiquidity_effect call
    refine ⟨hr', ?_⟩
    cases heff with
    | removeLiquidity _ _ _ _ _ _ pool _ _ pooled positive _ supplied =>
      obtain rfl : pool' = pool := Option.some.inj (hpool'.symm.trans pooled)
      obtain ⟨p₀, hp₀, hgrown⟩ := hprov.pools i pool' pooled
      have hle := admitted p₀ pool' hp₀ pooled
      -- What has minted nothing burns nothing, so the pool is that of a listed outcome.
      obtain ⟨hi, hgrown⟩ : i < market.numOutcomes ∧ p₀.Grown pool' := by
        rcases hgrown with rfl | hgrown
        · omega
        · exact hgrown
      refine ⟨hprov.stored, hprov.write hp₀ hi ?_, ?_⟩
      · exact hgrown.burn (hr.sound pooled) positive supplied hle
      · simp only at hpaid
        simp only [poolSum_set pooled fun _ => hi, hprov.balance, if_true, hpaid]
        ring

/-- A provider whose shares stay in their pools is never paid more collateral
than was deposited, whatever the state and the provider's shares to begin with. -/
theorem no_free_liquidity {provider : Address} {m : ℕ} {market : Market} {s₀ : State τ}
    {deposited paid : ℤ} (h₀ : Reachable tok self s₀) (hm : s₀.market.get? m = some market)
    (h : Provision tok self provider m (fun s op => op.SamePool s₀ m s) s₀ deposited paid s) :
    paid ≤ deposited := by
  obtain ⟨hr, hprov⟩ := h.provided h₀ hm
  have hgrew : poolSum OutcomePool.collateralReserve s₀.outcomePool m market.numOutcomes ≤
      poolSum OutcomePool.collateralReserve s.outcomePool m market.numOutcomes := by
    apply Finset.sum_le_sum
    intro i hi
    have hlisted : Listed s m i := ⟨market, hprov.stored, Finset.mem_range.mp hi⟩
    obtain ⟨p, hp⟩ := hr.keyed.listed m i hlisted
    obtain ⟨p₀, hp₀, hgrown⟩ := hprov.pools i p hp
    rw [hp₀, hp]
    rcases hgrown with rfl | ⟨-, hgrown⟩
    · exact le_rfl
    · exact hgrown.collateral (h₀.sound hp₀) (hr.sound hp)
  have := hprov.balance
  omega

section Runs

open Sample

/-- A market whose second pool has been bought into. -/
def unevenPools : List (Action Balances) := [
  call (.createMarket alice (params 100 1000 30)),
  call (.buyOutcome bob 0 1 900 0)]

/-- Bob has shares of the first pool. -/
def withLiquidity : List (Action Balances) := [
  call (.createMarket alice (params 100 1000 30)),
  call (.addLiquidity bob 0 0 1000 1000)]

/-- He burns them against the second. -/
theorem lpTotal_eq_poolSum_crossed : ∃ s s' : State Balances, run withLiquidity = .ok s ∧
    next asset contract (call (.removeLiquidity bob 0 1 500)) s = .ok s' ∧
    s'.lpTotalSupply.amount 0 = 700 ∧
    poolSum OutcomePool.lpTotalSupply s'.outcomePool 0 2 = 700 := by
  have h : After (fun s => (∃ market ∈ s.market.get? 0, 1 < market.numOutcomes) ∧
      After (fun s' => (s'.market.get? 0).map (·.numOutcomes) = some 2 ∧
          s'.lpTotalSupply.amount 0 = 700)
        (next asset contract (call (.removeLiquidity bob 0 1 500)) s)) (run withLiquidity) := by
    decide +kernel
  obtain ⟨s, hs, hlisted, h⟩ := h.exists_ok
  obtain ⟨s', hs', htwo, htotal⟩ := h.exists_ok
  obtain ⟨market, hm, hn⟩ := Option.map_eq_some_iff.mp htwo
  obtain ⟨s₀, h₀, hsteps⟩ : ReachableVia asset contract (fun s a => a.BurnsListed s 0) s := by
    refine run_via (fun _ => trivial) ?_ hs
    intro a ha s
    simp only [withLiquidity, List.mem_cons, List.not_mem_nil, or_false] at ha
    rcases ha with rfl | rfl <;> trivial
  have hvia : ReachableVia asset contract (fun s a => a.BurnsListed s 0) s' :=
    ⟨s₀, h₀, hsteps.tail (a := call (.removeLiquidity bob 0 1 500)) (fun _ => hlisted) hs'⟩
  have hsum := lpTotal_eq_poolSum hvia hm
  rw [htotal, hn] at hsum
  exact ⟨s, s', hs, hs', htotal, hsum.symm⟩

/-- Right after `create_market` the total is two hundred and nobody holds a
share; and shares minted in the first pool can overdraw the second. -/
theorem lpLedger_broken :
    (∃ s : State Balances, Reachable asset contract s ∧ s.lpTotalSupply.amount 0 = 200 ∧
      lpHeld s 0 = 0 ∧ ¬ LpLedger s 0) ∧
    (∃ (s : State Balances) (pool : OutcomePool), Reachable asset contract s ∧
      s.outcomePool.get? (0, 1) = some pool ∧ pool = ⟨-400, -400, -400⟩) := by
  constructor
  · have h : After (fun s => s.lpTotalSupply.amount 0 = 200 ∧ lpHeld s 0 = 0)
        (run [call (.createMarket alice (params 100 1000 30))]) := by
      decide +kernel
    obtain ⟨s, hs, htotal, hheld⟩ := h.exists_ok
    refine ⟨s, run_reachable hs, htotal, hheld, ?_⟩
    intro hledger
    have := hledger.providers
    omega
  · have h : After (fun s => ∃ pool ∈ s.outcomePool.get? (0, 1), pool = ⟨-400, -400, -400⟩)
        (run [call (.createMarket alice (params 100 1000 30)),
          call (.addLiquidity bob 0 0 1000 1000), call (.removeLiquidity bob 0 1 500)]) := by
      decide +kernel
    obtain ⟨s, hs, pool, hp, heq⟩ := h.exists_ok
    exact ⟨s, pool, run_reachable hs, hp, heq⟩

/-- With one market created, its ledger does not agree and that of the next id,
which is empty, does. -/
theorem lpLedger_iff_one_market : ∃ s : State Balances,
    next asset contract (call (.createMarket alice (params 100 1000 30))) blank = .ok s ∧
      ¬ LpLedger s 0 ∧ LpLedger s 1 := by
  have h : After (fun _ => True)
      (next asset contract (call (.createMarket alice (params 100 1000 30))) blank) := by
    decide +kernel
  obtain ⟨s, hs, -⟩ := h.exists_ok
  have hrun : History (next asset contract) (fun _ _ _ => True) blank
      [(blank, call (.createMarket alice (params 100 1000 30)))] s := .cons .nil trivial hs
  refine ⟨s, hs, ?_, ?_⟩
  · have hfresh : ∀ e ∈ [(blank, call (.createMarket alice (params 100 1000 30)))],
        e.2.Fresh e.1 0 := List.forall_mem_singleton.mpr fun _ => rfl
    rw [(lpLedger_iff hrun 0).2 hfresh]
    simp [Action.Creates, call, blank, deployed]
  · refine ((lpLedger_iff hrun 1).1.mpr ?_).1
    simp [Action.Creates, call, blank, deployed]

/-- Carol adds one hundred to the first pool and takes it out again. -/
theorem no_free_liquidity_round_trip : ∃ (s₀ s : State Balances) (deposited paid : ℤ),
    Reachable asset contract s₀ ∧
    Provision asset contract carol 0 (fun s op => op.SamePool s₀ 0 s) s₀ deposited paid s ∧
    deposited = 100 ∧ paid = 100 ∧ paid ≤ deposited := by
  have h : After (fun s₀ => (∃ market, s₀.market.get? 0 = some market) ∧
      (∀ p₀ ∈ s₀.outcomePool.get? (0, 0), 0 < p₀.lpTotalSupply) ∧
      After (fun r => (∀ p₀ ∈ s₀.outcomePool.get? (0, 0), ∀ p ∈ r.2.outcomePool.get? (0, 0),
          100 ≤ p.lpTotalSupply - p₀.lpTotalSupply) ∧
        After (fun r => r.1.1 = 100)
          (removeLiquidity asset contract (env 0) carol 0 0 100 r.2))
        (addLiquidity asset contract (env 0) carol 0 0 100 100 s₀)) (run unevenPools) := by
    simp only [← Option.isSome_iff_exists]
    decide +kernel
  obtain ⟨s₀, hs, ⟨market, hm⟩, hfund, h⟩ := h.exists_ok
  obtain ⟨⟨shares, s₁⟩, hadd, hmint, h⟩ := h.exists_ok
  obtain ⟨⟨⟨c, o⟩, s⟩, hremove, hc⟩ := h.exists_ok
  have hrun : Provision asset contract carol 0 (fun s op => op.SamePool s₀ 0 s) s₀
      (0 + 100) (0 + c) s := by
    refine .remove (.add .start ?_ hadd) ?_ hremove
    · exact fun p₀ hp₀ => .inl (hfund p₀ hp₀)
    · exact fun p₀ p hp₀ hp => hmint p₀ hp₀ p hp
  have hle := no_free_liquidity (run_reachable hs) hm hrun
  exact ⟨s₀, s, 0 + 100, 0 + c, run_reachable hs, hrun, by norm_num, by rw [zero_add]; exact hc, hle⟩

/-- Carol, without any shares, adds one hundred to the first pool and burns the
shares against the second for nine hundred and ninety-seven. -/
theorem free_liquidity : ∃ (s₀ s : State Balances) (market : Market) (deposited paid : ℤ),
    Reachable asset contract s₀ ∧ s₀.market.get? 0 = some market ∧ market.status = .active ∧
    s₀.lpShares.amount (0, carol) = 0 ∧
    Provision asset contract carol 0 (fun _ _ => True) s₀ deposited paid s ∧
    deposited = 100 ∧ paid = 997 := by
  have h : After (fun s₀ => (∃ market ∈ s₀.market.get? 0, market.status = .active) ∧
      s₀.lpShares.amount (0, carol) = 0 ∧
      After (fun r => After (fun r => r.1.1 = 997)
          (removeLiquidity asset contract (env 0) carol 0 1 100 r.2))
        (addLiquidity asset contract (env 0) carol 0 0 100 100 s₀)) (run unevenPools) := by
    decide +kernel
  obtain ⟨s₀, hs, ⟨market, hm, hactive⟩, hnone, h⟩ := h.exists_ok
  obtain ⟨⟨shares, s₁⟩, hadd, h⟩ := h.exists_ok
  obtain ⟨⟨⟨c, o⟩, s⟩, hremove, hc⟩ := h.exists_ok
  refine ⟨s₀, s, market, 0 + 100, 0 + c, run_reachable hs, hm, hactive, hnone,
    .remove (.add .start trivial hadd) trivial hremove, by norm_num, ?_⟩
  rw [zero_add]
  exact hc

end Runs

end PredictionMarket
