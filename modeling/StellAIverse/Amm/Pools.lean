import StellAIverse.Amm.Effects
import StellAIverse.Soroban.Run

/-!
# Representation of a pool

A pool is empty or stocked on both sides, and its LP supply is what its
providers hold. Trades keep it stocked, because what they take out is strictly
less than the reserve; the last withdrawal empties it exactly.
-/

namespace Amm

open Soroban

variable {τ : Type} {tok : Token τ} {self : Address} {s s' : State τ} {a : Action τ}

/-- Reached from empty storage by invocations that `ok` admits. -/
def ReachableVia (tok : Token τ) (self : Address) (ok : State τ → Action τ → Prop)
    (s : State τ) : Prop :=
  ∃ tokens, Steps (next tok self) ok (deployed tokens) s

def Reachable (tok : Token τ) (self : Address) (s : State τ) : Prop :=
  ReachableVia tok self (fun _ _ => True) s

theorem ReachableVia.reachable {ok : State τ → Action τ → Prop} (h : ReachableVia tok self ok s) :
    Reachable tok self s := by
  obtain ⟨tokens, hrun⟩ := h
  exact ⟨tokens, hrun.mono fun _ _ _ => trivial⟩

/-- Nothing in the pool and no LP tokens. -/
def Pool.Empty (pool : Pool) : Prop :=
  pool.reserveA = 0 ∧ pool.reserveB = 0 ∧ pool.lpTotalSupply = 0

/-- Both reserves and the LP supply are positive. -/
def Pool.Stocked (pool : Pool) : Prop :=
  0 < pool.reserveA ∧ 0 < pool.reserveB ∧ 0 < pool.lpTotalSupply

structure Pool.Formed (pool : Pool) : Prop where
  filling : pool.Empty ∨ pool.Stocked
  distinct : pool.tokenA ≠ pool.tokenB
  capped : pool.feeBps ≤ maxFeeBps

/-- LP tokens of one pool that providers hold. -/
def heldLp (s : State τ) (id : ℕ) : ℤ := s.lpBalance.sumOver fun k => k.1 = id

structure WellFormed (s : State τ) : Prop where
  fresh : s.admin = none → s.poolCounter = 0
  share : s.protocolFeeShareBps ≤ maxProtocolFeeShareBps
  pools : ∀ id pool, s.pool.get? id = some pool →
    pool.poolId = id ∧ id < s.poolCounter ∧ pool.Formed
  holders : ∀ k v, s.lpBalance.get? k = some v → 0 ≤ v ∧ k.1 < s.poolCounter
  supply : ∀ id pool, s.pool.get? id = some pool → heldLp s id = pool.lpTotalSupply

theorem Pool.Formed.nonneg {pool : Pool} (h : pool.Formed) :
    0 ≤ pool.reserveA ∧ 0 ≤ pool.reserveB ∧ 0 ≤ pool.lpTotalSupply := by
  rcases h.filling with he | hs
  · exact ⟨he.1.ge, he.2.1.ge, he.2.2.ge⟩
  · exact ⟨hs.1.le, hs.2.1.le, hs.2.2.le⟩

theorem Pool.Formed.stocked {pool : Pool} (h : pool.Formed) (hT : 0 < pool.lpTotalSupply) :
    pool.Stocked := by
  rcases h.filling with he | hs
  · have := he.2.2
    omega
  · exact hs

theorem WellFormed.balance_nonneg (hw : WellFormed s) (k : ℕ × Address) :
    0 ≤ s.lpBalance.amount k := by
  unfold Store.amount
  cases hk : s.lpBalance.get? k with
  | none => simp
  | some v => simpa using (hw.holders k v hk).1

/-- Nobody holds more LP tokens than there are. -/
theorem WellFormed.balance_le (hw : WellFormed s) {id : ℕ} {pool : Pool}
    (hk : s.pool.get? id = some pool) (provider : Address) :
    s.lpBalance.amount (id, provider) ≤ pool.lpTotalSupply := by
  rw [← hw.supply id pool hk]
  have hle := Store.weight_le_total (w := fun k v => if k.1 = id then v else 0)
    (s := s.lpBalance) (id, provider) (by
      intro k v hv
      have := (hw.holders k v hv).1
      split <;> omega)
  rw [Store.weight_sumOver, if_pos rfl] at hle
  exact hle

/-- Breaker, lock and positions are no part of a pool's representation. -/
theorem WellFormed.frame (hw : WellFormed s) (breaker : Option CircuitBreakerState)
    (positions : Store (Address × Address) UserPosition) (lock : Bool) :
    WellFormed { s with
      circuitBreakerState := breaker, userPosition := positions, reentrancyLock := lock } :=
  ⟨hw.fresh, hw.share, hw.pools, hw.holders, hw.supply⟩

/-- A stored pool replaced, with the LP balances moved by the change of its supply. -/
theorem WellFormed.write (hw : WellFormed s) {id : ℕ} {pool pool' : Pool}
    {holders : Store (ℕ × Address) ℤ} {tokens : τ} {lock : Bool}
    (hk : s.pool.get? id = some pool) (hid : pool'.poolId = pool.poolId) (hf : pool'.Formed)
    (hholders : ∀ k v, holders.get? k = some v → 0 ≤ v ∧ k.1 < s.poolCounter)
    (hsum : ∀ id', holders.sumOver (fun k => k.1 = id') =
      heldLp s id' + if id = id' then pool'.lpTotalSupply - pool.lpTotalSupply else 0) :
    WellFormed { s with
      pool := s.pool.set pool.poolId pool', lpBalance := holders, tokens
      reentrancyLock := lock } where
  fresh := hw.fresh
  share := hw.share
  pools := by
    obtain ⟨hkey, hlt, -⟩ := hw.pools id pool hk
    refine Store.forall_set hw.pools ⟨hid, ?_, hf⟩
    rw [hkey]
    exact hlt
  holders := hholders
  supply id' q hq := by
    have hkey := (hw.pools id pool hk).1
    simp only [hkey] at hq
    rw [Store.get?_set] at hq
    have hafter := hsum id'
    split at hq
    · rename_i he
      cases hq
      rw [he, if_pos rfl, hw.supply id pool hk] at hafter
      rw [he, heldLp, hafter]
      ring
    · rename_i hne
      rw [if_neg (Ne.symm hne), add_zero] at hafter
      exact hafter.trans (hw.supply id' q hq)

section Liquidity

variable {pool : Pool} {x y z : ℤ}

theorem Pool.Formed.deposit (hf : pool.Formed) (ha : 0 < x) (hb : 0 < y) (hlp : 0 < z) :
    (pool.moved x y z).Formed := by
  obtain ⟨hA, hB, hT⟩ := hf.nonneg
  refine ⟨.inr ⟨?_, ?_, ?_⟩, hf.distinct, hf.capped⟩ <;>
    simp only [Pool.moved] <;> omega

/-- A share of a reserve is all of it exactly when it is all of the supply's. -/
theorem share_cases {lp reserve T : ℤ} (h0 : 0 < lp) (hle : lp ≤ T) (hr : 0 < reserve) :
    (lp = T ∧ (lp * reserve).tdiv T = reserve) ∨ (lp < T ∧ (lp * reserve).tdiv T < reserve) := by
  rcases hle.lt_or_eq with hlt | heq
  · refine .inr ⟨hlt, ?_⟩
    have hfloor := I128.tdiv_mul_le (mul_nonneg h0.le hr.le) (show 0 < T by omega)
    by_contra hge
    have := mul_le_mul_of_nonneg_right (not_lt.mp hge) (show 0 ≤ T by omega)
    have := mul_lt_mul_of_pos_right hlt hr
    linarith
  · refine .inl ⟨heq, ?_⟩
    rw [heq]
    exact Int.mul_tdiv_cancel_left _ (by omega)

theorem Pool.Formed.withdraw (hf : pool.Formed) {lp : ℤ} (h0 : 0 < lp)
    (hle : lp ≤ pool.lpTotalSupply) :
    (pool.moved (-(lp * pool.reserveA).tdiv pool.lpTotalSupply)
      (-(lp * pool.reserveB).tdiv pool.lpTotalSupply) (-lp)).Formed := by
  obtain ⟨hA, hB, hT⟩ := hf.stocked (by omega)
  refine ⟨?_, hf.distinct, hf.capped⟩
  rcases share_cases h0 hle hA with ⟨heq, hallA⟩ | ⟨hlt, hpartA⟩
  · obtain ⟨-, hallB⟩ | ⟨hlt, -⟩ := share_cases h0 hle hB
    · left
      refine ⟨?_, ?_, ?_⟩ <;> simp only [Pool.moved] <;> omega
    · omega
  · obtain ⟨heq, -⟩ | ⟨-, hpartB⟩ := share_cases h0 hle hB
    · omega
    · right
      refine ⟨?_, ?_, ?_⟩ <;> simp only [Pool.moved] <;> omega

end Liquidity

/-- Under the fee caps, every trade is fair to its pool. -/
theorem WellFormed.fair (hw : WellFormed s) {id : ℕ} {pool : Pool} {aToB collect : Bool}
    {amountIn out fee : ℤ} (hk : s.pool.get? id = some pool)
    (hq : Quoted (pool.reserveIn aToB) (pool.reserveOut aToB) pool.feeBps amountIn out)
    (hfee : protocolFee collect amountIn pool.feeBps s.protocolFeeShareBps = .ok fee) :
    0 ≤ fee ∧ FairTrade (pool.reserveIn aToB) (pool.reserveOut aToB) (amountIn - fee) out := by
  have hcap := (hw.pools id pool hk).2.2.capped
  have hshare := hw.share
  unfold maxFeeBps at hcap
  unfold maxProtocolFeeShareBps at hshare
  have hin : 0 ≤ amountIn := by
    cases hq with
    | exactIn positive quote => exact (getAmountOut_ok (by omega) quote positive).1.le
    | exactOut quote => exact (getAmountIn_ok quote).2.2.2.1
  obtain ⟨hnonneg, hpart⟩ := protocolFee_ok hin (by omega) hfee
  exact ⟨hnonneg, hq.fair (by omega) hpart⟩

theorem Pool.Formed.traded {pool : Pool} (hf : pool.Formed) {aToB : Bool} {paid out : ℤ}
    (ht : FairTrade (pool.reserveIn aToB) (pool.reserveOut aToB) paid out) :
    (pool.traded aToB paid out).Formed ∧
      (pool.traded aToB paid out).lpTotalSupply = pool.lpTotalSupply := by
  have hin := ht.stocked
  have hpaid := ht.paid_pos
  have hout := ht.covered
  have hnonneg := hf.nonneg
  rcases hf.filling with he | hs
  · cases aToB
    · exact absurd he.2.1 hin.ne'
    · exact absurd he.1 hin.ne'
  · have hT := hs.2.2
    cases aToB <;>
    · simp only [Pool.reserveIn, Pool.reserveOut, Bool.false_eq_true, if_false, if_true] at *
      exact ⟨⟨.inr ⟨by simp [Pool.traded]; omega, by simp [Pool.traded]; omega, hT⟩, hf.distinct,
        hf.capped⟩, rfl⟩

theorem trade_wellFormed {user : Address} (hw : WellFormed s) (h : Trade tok self user s s') :
    WellFormed s' := by
  cases h with
  | mk id pool aToB _ _ _ _ _ _ stored quoted skimmed =>
    obtain ⟨-, hfair⟩ := hw.fair stored quoted skimmed
    obtain ⟨hformed, hsupply⟩ := (hw.pools id pool stored).2.2.traded hfair
    refine hw.write stored (by cases aToB <;> rfl) hformed hw.holders fun id' => ?_
    rw [hsupply, sub_self]
    simp [heldLp]

theorem trades_wellFormed {user : Address} (hw : WellFormed s) (h : Trades tok self user s s') :
    WellFormed s' := by
  induction h with
  | refl => exact hw
  | tail _ hstep ih => exact trade_wellFormed ih hstep

theorem wellFormed_step (hw : WellFormed s) (h : Effect tok self s a s') : WellFormed s' := by
  cases h with
  | initializeContract _ _ _ fresh =>
    refine ⟨fun hn => absurd hn (Option.some_ne_none _), Nat.zero_le _, ?_, ?_, hw.supply⟩
    · rw [← hw.fresh fresh]
      exact hw.pools
    · rw [← hw.fresh fresh]
      exact hw.holders
  | createPool _ _ _ _ _ authorized distinct capped =>
    refine ⟨fun hn => ?_, hw.share, ?_, fun k v hk => ?_, fun id q hq => ?_⟩
    · rw [hn] at authorized
      cases authorized
    · refine Store.forall_set (fun id q hq => ?_)
        ⟨rfl, Nat.lt_succ_self _, .inl ⟨rfl, rfl, rfl⟩, distinct, capped⟩
      obtain ⟨hid, hlt, hf⟩ := hw.pools id q hq
      exact ⟨hid, by simp only; omega, hf⟩
    · have := hw.holders k v hk
      exact ⟨this.1, by simp only; omega⟩
    · -- Nobody holds LP tokens of a pool that is only being created.
      simp only at hq
      rw [Store.get?_set] at hq
      split at hq
      · rename_i he
        cases hq
        refine Store.sumOver_eq_zero fun k v hk hid => ?_
        have := (hw.holders k v hk).2
        omega
      · exact hw.supply id q hq
  | addLiquidity _ provider id _ _ pool minted _ positive stored _ mints =>
    obtain ⟨-, hlt, hf⟩ := hw.pools id pool stored
    have hown := hw.balance_nonneg (id, provider)
    refine hw.write stored rfl (hf.deposit positive.1 positive.2 mints)
      (Store.forall_set hw.holders ⟨by omega, hlt⟩) fun id' => ?_
    rw [Store.sumOver_set_add]
    simp [heldLp, Pool.moved]
  | removeLiquidity _ provider id lp pool _ _ _ positive owned stored supplied shareA shareB =>
    obtain ⟨-, hlt, hf⟩ := hw.pools id pool stored
    have hle := owned.trans (hw.balance_le stored provider)
    subst shareA shareB
    refine hw.write stored rfl (hf.withdraw positive hle)
      (Store.forall_set hw.holders ⟨by omega, hlt⟩) fun id' => ?_
    rw [Store.sumOver_set_sub]
    simp only [heldLp, Pool.moved]
    split <;> omega
  | trades _ _ _ s₁ breaker positions lock lock' _ trades =>
    have hend := trades_wellFormed (hw.frame breaker s.userPosition lock) trades
    exact hend.frame s₁.circuitBreakerState positions lock'
  | setAdmin =>
    exact ⟨fun hn => absurd hn (Option.some_ne_none _), hw.share, hw.pools, hw.holders, hw.supply⟩
  | setFeeConfig _ _ _ _ _ capped => exact ⟨hw.fresh, capped, hw.pools, hw.holders, hw.supply⟩
  | _ => exact ⟨hw.fresh, hw.share, hw.pools, hw.holders, hw.supply⟩

theorem wellFormed_deployed (tokens : τ) : WellFormed (deployed tokens) where
  fresh _ := rfl
  share := Nat.zero_le _
  pools _ _ hk := by cases hk
  holders _ _ hk := by cases hk
  supply _ _ hk := by cases hk

theorem Reachable.wellFormed (hs : Reachable tok self s) : WellFormed s := by
  obtain ⟨tokens, hrun⟩ := hs
  refine hrun.preserves ?_ (wellFormed_deployed tokens)
  intro s a s' _ hn hw
  exact wellFormed_step hw (next_effect hn)

/-- The ways in which a division by zero shows. -/
def zeroDivisor : List Fault := [.divisionByZero, .panic "Divisor must be positive"]

section Divisors

variable {e : Fault}

theorem other_of_zeroDivisor (he : e ∈ zeroDivisor) {e' : Fault} (h : e' ∉ zeroDivisor) : e ≠ e' := by
  rintro rfl
  exact h he

theorem ceilDiv_avoids (he : e ∈ zeroDivisor) {n m : ℤ} (hm : 0 < m) : Avoids e (ceilDiv n m) := by
  have hoverflow : e ≠ .overflow := other_of_zeroDivisor he (by decide)
  unfold ceilDiv
  rw [panicIf_of_not (by omega)]
  refine (avoids_ok _).bind fun _ _ => ?_
  refine (panicIf_avoids (other_of_zeroDivisor he (by decide))).bind fun _ _ => ?_
  refine (I128.fit_avoids hoverflow).bind fun _ _ => ?_
  refine (I128.fit_avoids hoverflow).bind fun _ _ => ?_
  exact I128.div_avoids (by omega) hoverflow

theorem lpTokensFor_avoids (he : e ∈ zeroDivisor) {pool : Pool} (hf : pool.Formed) {x y : ℤ} :
    Avoids e (lpTokensFor pool x y) := by
  have hoverflow : e ≠ .overflow := other_of_zeroDivisor he (by decide)
  unfold lpTokensFor
  split
  · refine (I128.fit_avoids hoverflow).bind fun _ _ => ?_
    exact newtonSqrt_avoids hoverflow (other_of_zeroDivisor he (by decide))
  · rename_i hT
    -- A pool with LP tokens has both reserves.
    obtain ⟨hA, hB, -⟩ := hf.stocked (by have := hf.nonneg.2.2; omega)
    refine (I128.fit_avoids hoverflow).bind fun _ _ => ?_
    refine (ceilDiv_avoids he hA).bind fun _ _ => ?_
    refine (I128.fit_avoids hoverflow).bind fun _ _ => ?_
    exact (ceilDiv_avoids he hB).bind fun _ _ => avoids_ok _

theorem checkDepositRatio_avoids (he : e ∈ zeroDivisor) {pool : Pool} {x y : ℤ} (hy : 0 < y) :
    Avoids e (checkDepositRatio pool x y) := by
  have hoverflow : e ≠ .overflow := other_of_zeroDivisor he (by decide)
  unfold checkDepositRatio
  split
  · rename_i hpos
    refine (I128.fit_avoids hoverflow).bind fun _ _ => ?_
    refine (I128.div_avoids (by omega) hoverflow).bind fun _ _ => ?_
    refine (I128.fit_avoids hoverflow).bind fun _ _ => ?_
    refine (I128.div_avoids (by omega) hoverflow).bind fun _ _ => ?_
    refine Avoids.bind ?_ fun _ _ => panicIf_avoids (other_of_zeroDivisor he (by decide))
    unfold ratioDiff
    split <;> exact I128.fit_avoids hoverflow
  · exact avoids_ok _

theorem addLiquidity_avoids (hw : WellFormed s) (he : e ∈ zeroDivisor) (env : Env)
    (provider : Address) (id : ℕ) (x y : ℤ) :
    Avoids e (addLiquidity tok self env provider id x y s) := by
  have hoverflow : e ≠ .overflow := other_of_zeroDivisor he (by decide)
  have hcall : e ≠ .callFailed := other_of_zeroDivisor he (by decide)
  refine (requireAuth_avoids (other_of_zeroDivisor he (by decide))).bind fun _ _ => ?_
  refine (panicIf_avoids (other_of_zeroDivisor he (by decide))).bind fun _ _ => ?_
  refine Avoids.bind ?_ fun _ _ => avoids_ok _
  refine (panicIf_avoids (other_of_zeroDivisor he (by decide))).bind fun _ hpos => ?_
  have hpositive := panicIf_ok hpos
  refine (expect_avoids (other_of_zeroDivisor he (by decide))).bind fun pool hpool => ?_
  have hf := (hw.pools id pool (expect_ok.mp hpool)).2.2
  refine (lpTokensFor_avoids he hf).bind fun _ _ => ?_
  refine (panicIf_avoids (other_of_zeroDivisor he (by decide))).bind fun _ _ => ?_
  refine (panicIf_avoids (other_of_zeroDivisor he (by decide))).bind fun _ _ => ?_
  refine (checkDepositRatio_avoids he (by omega)).bind fun _ _ => ?_
  refine (tok.pay_avoids hcall).bind fun _ _ => ?_
  refine (tok.pay_avoids hcall).bind fun _ _ => ?_
  refine (I128.fit_avoids hoverflow).bind fun _ _ => ?_
  refine (I128.fit_avoids hoverflow).bind fun _ _ => ?_
  refine (I128.fit_avoids hoverflow).bind fun _ _ => ?_
  exact (I128.fit_avoids hoverflow).bind fun _ _ => avoids_ok _

end Divisors

/-- The last provider takes both reserves and leaves an empty pool. -/
theorem removeLiquidity_all (hw : WellFormed s) {env : Env} {provider : Address} {id : ℕ}
    {pool : Pool} {r : (ℤ × ℤ) × State τ} (hk : s.pool.get? id = some pool)
    (h : removeLiquidity tok self env provider id pool.lpTotalSupply s = .ok r) :
    r.1 = (pool.reserveA, pool.reserveB) ∧ ∃ pool', r.2.pool.get? id = some pool' ∧ pool'.Empty := by
  obtain ⟨heffect, q, hq, hA, hB⟩ := removeLiquidity_effect h
  obtain rfl : pool = q := Option.some.inj (hk.symm.trans hq)
  obtain ⟨amounts, s'⟩ := r
  cases heffect with
  | removeLiquidity _ _ _ _ pool' x y _ positive _ stored _ shareA shareB =>
    obtain rfl : pool = pool' := Option.some.inj (hk.symm.trans stored)
    rw [Int.mul_tdiv_cancel_left _ positive.ne'] at hA hB shareA shareB
    refine ⟨Prod.ext hA hB, pool.moved (-x) (-y) (-pool.lpTotalSupply), ?_, ?_⟩
    · rw [(hw.pools id pool hk).1]
      exact Store.get?_set_self _ _ _
    · refine ⟨?_, ?_, ?_⟩ <;> simp only [Pool.moved] <;> omega
  | trades _ _ _ _ _ _ _ _ trader => cases trader

/-- Every pool is empty or stocked on both sides, its supply is what its providers
hold, so a deposit never divides by zero, and whoever removes the whole supply
takes both reserves and leaves nothing. -/
theorem pool_representation (hs : Reachable tok self s) :
    (∀ id pool, s.pool.get? id = some pool →
      (pool.Empty ∨ pool.Stocked) ∧ heldLp s id = pool.lpTotalSupply) ∧
    (∀ id provider, 0 ≤ getLpBalance s id provider) ∧
    (∀ e ∈ zeroDivisor, ∀ env provider id amountA amountB,
      addLiquidity tok self env provider id amountA amountB s ≠ .error e) ∧
    ∀ env provider id pool r, s.pool.get? id = some pool →
      getLpBalance s id provider = pool.lpTotalSupply →
      removeLiquidity tok self env provider id (getLpBalance s id provider) s = .ok r →
      r.1 = (pool.reserveA, pool.reserveB) ∧
        ∃ pool', r.2.pool.get? id = some pool' ∧ pool'.Empty := by
  have hw := hs.wellFormed
  refine ⟨fun id pool hk => ⟨(hw.pools id pool hk).2.2.filling, hw.supply id pool hk⟩,
    fun id provider => hw.balance_nonneg (id, provider),
    fun e he env provider id x y => addLiquidity_avoids hw he env provider id x y, ?_⟩
  intro env provider id pool r hk hall h
  rw [hall] at h
  exact removeLiquidity_all hw hk h

namespace Sample

def contract : Address := ⟨0⟩

def admin : Address := ⟨1⟩

def xlm : Address := ⟨2⟩

def usdc : Address := ⟨3⟩

def alice : Address := ⟨4⟩

def bob : Address := ⟨5⟩

def env : Env := ⟨0, fun _ => true⟩

def start : State Balances :=
  deployed (Balances.issue [(xlm, alice, 10 ^ 6), (usdc, alice, 10 ^ 6), (xlm, bob, 10 ^ 6),
    (usdc, bob, 10 ^ 6), (usdc, admin, 10 ^ 6)])

def run (calls : List Op) : Result (State Balances) :=
  execute (next asset contract) (calls.map (.call env)) start

theorem run_reachable {calls : List Op} {s : State Balances} (h : run calls = .ok s) :
    Reachable asset contract s :=
  ⟨_, execute_steps _ (fun _ _ _ => trivial) h⟩

/-- One pool with a fee of thirty basis points, stocked by alice. -/
def opened (amountA amountB : ℤ) : List Op := [
  .initializeContract admin none,
  .createPool admin xlm usdc 30,
  .addLiquidity alice 0 amountA amountB]

end Sample

open Sample in
/-- After a swap alice, who provided everything, takes out everything. -/
theorem pool_representation_last_provider :
    ∃ s pool r, run (opened 10000 20000 ++ [.swap bob 0 xlm 1000 0]) = .ok s ∧
      s.pool.get? 0 = some pool ∧ heldLp s 0 = pool.lpTotalSupply ∧
      removeLiquidity asset contract env alice 0 (getLpBalance s 0 alice) s = .ok r ∧
      r.1 = (11000, 18187) ∧ ∃ pool', r.2.pool.get? 0 = some pool' ∧ pool'.Empty := by
  have h : After (fun s => (∃ pool ∈ s.pool.get? 0, pool.reserveA = 11000 ∧
        pool.reserveB = 18187 ∧ getLpBalance s 0 alice = pool.lpTotalSupply) ∧
      After (fun _ => True)
        (removeLiquidity asset contract env alice 0 (getLpBalance s 0 alice) s))
      (run (opened 10000 20000 ++ [.swap bob 0 xlm 1000 0])) := by
    decide +kernel
  obtain ⟨s, hs, ⟨pool, hk, hA, hB, hall⟩, hremove⟩ := h.exists_ok
  obtain ⟨r, hr, -⟩ := hremove.exists_ok
  obtain ⟨hpools, -, -, hlast⟩ := pool_representation (run_reachable hs)
  obtain ⟨hout, hempty⟩ := hlast env alice 0 pool r hk hall hr
  rw [hA, hB] at hout
  exact ⟨s, pool, r, hs, hk, (hpools 0 pool hk).2, hr, hout, hempty⟩

end Amm
