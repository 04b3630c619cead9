import Mathlib.Logic.Relation
import StellAIverse.Amm.Contract

/-!
# What each call does

Every completed invocation is one of the effects below, with the guards it
passed. Swaps, flash swaps and the hops of a multi-hop swap are all trades with
one pool, which differ in how they are priced and in the order of the transfers.
-/

namespace Amm

open Soroban

variable {τ : Type}

section Pools

variable (pool : Pool) (aToB : Bool)

def Pool.reserveIn : ℤ := if aToB = true then pool.reserveA else pool.reserveB

def Pool.reserveOut : ℤ := if aToB = true then pool.reserveB else pool.reserveA

def Pool.tokenIn : Address := if aToB = true then pool.tokenA else pool.tokenB

def Pool.tokenOut : Address := if aToB = true then pool.tokenB else pool.tokenA

/-- The pool after it took in `paid` and gave out `out`. -/
def Pool.traded (paid out : ℤ) : Pool :=
  if aToB = true then
    { pool with reserveA := pool.reserveA + paid, reserveB := pool.reserveB - out }
  else { pool with reserveA := pool.reserveA - out, reserveB := pool.reserveB + paid }

/-- The pool after its reserves and its supply moved by these amounts. -/
def Pool.moved (a b lp : ℤ) : Pool :=
  { pool with
    reserveA := pool.reserveA + a, reserveB := pool.reserveB + b
    lpTotalSupply := pool.lpTotalSupply + lp }

end Pools

/-- The payment of a protocol fee; without a collector there is none. -/
def skim (self : Address) (collector : Option Address) (token : Address) (fee : ℤ) :
    List Payment :=
  match collector with
  | some collector => if fee > 0 then [⟨token, self, collector, fee⟩] else []
  | none => []

/-- One exchange of `user` with a pool. -/
inductive Trade (tok : Token τ) (self user : Address) (s : State τ) : State τ → Prop
  | mk (id : ℕ) (pool : Pool) (aToB collect : Bool) (amountIn out fee : ℤ)
      (payments : List Payment) (tokens : τ) (stored : s.pool.get? id = some pool)
      (quoted : Quoted (pool.reserveIn aToB) (pool.reserveOut aToB) pool.feeBps amountIn out)
      (skimmed : protocolFee collect amountIn pool.feeBps s.protocolFeeShareBps = .ok fee)
      (legs : payments.Perm (⟨pool.tokenIn aToB, user, self, amountIn⟩ ::
        ⟨pool.tokenOut aToB, self, user, out⟩ ::
        skim self s.governanceCollector (pool.tokenIn aToB) fee))
      (paid : tok.settle s.tokens payments = some tokens) :
      Trade tok self user s
        { s with pool := s.pool.set pool.poolId (pool.traded aToB (amountIn - fee) out), tokens }

/-- Any number of trades of one user. -/
def Trades (tok : Token τ) (self user : Address) : State τ → State τ → Prop :=
  Relation.ReflTransGen (Trade tok self user)

/-- Who trades in an invocation, if anybody does. -/
def Op.trader : Op → Option Address
  | .swap user _ _ _ _ => some user
  | .flashSwap borrower _ _ _ _ _ => some borrower
  | .executeMultiHopSwap user _ _ => some user
  | _ => none

/-- The transfer of a claimed share and the balance it leaves. -/
def shareLeg (self provider token : Address) (share : ℤ) : List Payment :=
  if share > 0 then [⟨token, self, provider, share⟩] else []

def afterShare (rewards : Store (ℕ × Address) ℤ) (id : ℕ) (token : Address) (reward share : ℤ) :
    Store (ℕ × Address) ℤ :=
  if share > 0 then rewards.set (id, token) (reward - share) else rewards

inductive Effect (tok : Token τ) (self : Address) (s : State τ) : Action τ → State τ → Prop
  | transfers (tokens : τ) : Effect tok self s (.transfers tokens) { s with tokens }
  | initializeContract (env : Env) (admin : Address) (collector : Option Address)
      (fresh : s.admin = none) :
      Effect tok self s (.call env (.initializeContract admin collector))
        { s with
          admin := some admin, poolCounter := 0, tradingPaused := false, protocolFeeShareBps := 0
          reentrancyLock := false, governanceCollector := collector.or s.governanceCollector }
  | createPool (env : Env) (admin tokenA tokenB : Address) (feeBps : ℕ)
      (authorized : s.admin = some admin) (distinct : tokenA ≠ tokenB)
      (capped : feeBps ≤ maxFeeBps) :
      Effect tok self s (.call env (.createPool admin tokenA tokenB feeBps))
        { s with
          pool := s.pool.set s.poolCounter ⟨s.poolCounter, tokenA, tokenB, 0, 0, 0, feeBps⟩
          poolCounter := s.poolCounter + 1 }
  | addLiquidity (env : Env) (provider : Address) (id : ℕ) (amountA amountB : ℤ) (pool : Pool)
      (minted : ℤ) (tokens : τ) (positive : 0 < amountA ∧ 0 < amountB)
      (stored : s.pool.get? id = some pool)
      (priced : lpTokensFor pool amountA amountB = .ok minted) (mints : 0 < minted)
      (paid : tok.settle s.tokens [⟨pool.tokenA, provider, self, amountA⟩,
        ⟨pool.tokenB, provider, self, amountB⟩] = some tokens) :
      Effect tok self s (.call env (.addLiquidity provider id amountA amountB))
        { s with
          pool := s.pool.set pool.poolId (pool.moved amountA amountB minted)
          lpBalance := s.lpBalance.set (id, provider)
            (s.lpBalance.amount (id, provider) + minted)
          tokens, reentrancyLock := false }
  | removeLiquidity (env : Env) (provider : Address) (id : ℕ) (lp : ℤ) (pool : Pool)
      (amountA amountB : ℤ) (tokens : τ) (positive : 0 < lp)
      (owned : lp ≤ s.lpBalance.amount (id, provider)) (stored : s.pool.get? id = some pool)
      (supplied : 0 < pool.lpTotalSupply)
      (shareA : amountA = (lp * pool.reserveA).tdiv pool.lpTotalSupply)
      (shareB : amountB = (lp * pool.reserveB).tdiv pool.lpTotalSupply)
      (gains : 0 < amountA ∧ 0 < amountB)
      (paid : tok.settle s.tokens [⟨pool.tokenA, self, provider, amountA⟩,
        ⟨pool.tokenB, self, provider, amountB⟩] = some tokens) :
      Effect tok self s (.call env (.removeLiquidity provider id lp))
        { s with
          pool := s.pool.set pool.poolId (pool.moved (-amountA) (-amountB) (-lp))
          lpBalance := s.lpBalance.set (id, provider) (s.lpBalance.amount (id, provider) - lp)
          tokens, reentrancyLock := false }
  | trades (env : Env) (op : Op) (user : Address) (s₁ : State τ)
      (breaker : Option CircuitBreakerState)
      (positions : Store (Address × Address) UserPosition) (lock lock' : Bool)
      (trader : op.trader = some user)
      (trades : Trades tok self user
        { s with circuitBreakerState := breaker, reentrancyLock := lock } s₁) :
      Effect tok self s (.call env op)
        { s₁ with userPosition := positions, reentrancyLock := lock' }
  | depositLpRewards (env : Env) (admin : Address) (id : ℕ) (token : Address) (amount : ℤ)
      (pool : Pool) (tokens : τ) (authorized : s.admin = some admin) (positive : 0 < amount)
      (stored : s.pool.get? id = some pool) (listed : token = pool.tokenA ∨ token = pool.tokenB)
      (paid : tok.settle s.tokens [⟨token, admin, self, amount⟩] = some tokens) :
      Effect tok self s (.call env (.depositLpRewards admin id token amount))
        { s with
          lpRewardBalance := s.lpRewardBalance.set (id, token)
            (s.lpRewardBalance.amount (id, token) + amount)
          tokens }
  | claimLpRewards (env : Env) (provider : Address) (id : ℕ) (pool : Pool) (shareA shareB : ℤ)
      (tokens : τ) (stored : s.pool.get? id = some pool)
      (holds : 0 < s.lpBalance.amount (id, provider)) (supplied : 0 < pool.lpTotalSupply)
      (portionA : shareA = (s.lpRewardBalance.amount (id, pool.tokenA) *
        s.lpBalance.amount (id, provider)).tdiv pool.lpTotalSupply)
      (portionB : shareB = (s.lpRewardBalance.amount (id, pool.tokenB) *
        s.lpBalance.amount (id, provider)).tdiv pool.lpTotalSupply)
      (paid : tok.settle s.tokens (shareLeg self provider pool.tokenA shareA ++
        shareLeg self provider pool.tokenB shareB) = some tokens) :
      Effect tok self s (.call env (.claimLpRewards provider id))
        { s with
          lpRewardBalance := afterShare
            (afterShare s.lpRewardBalance id pool.tokenA
              (s.lpRewardBalance.amount (id, pool.tokenA)) shareA)
            id pool.tokenB (s.lpRewardBalance.amount (id, pool.tokenB)) shareB
          tokens, reentrancyLock := false }
  | findBestRoute (env : Env) (tokenIn tokenOut : Address) (amountIn : ℤ) (maxHops : ℕ)
      (breaker : Option CircuitBreakerState) :
      Effect tok self s (.call env (.findBestRoute tokenIn tokenOut amountIn maxHops))
        { s with circuitBreakerState := breaker }
  | pauseTrading (env : Env) (admin : Address) (authorized : s.admin = some admin) :
      Effect tok self s (.call env (.pauseTrading admin)) { s with tradingPaused := true }
  | resumeTrading (env : Env) (admin : Address) (authorized : s.admin = some admin) :
      Effect tok self s (.call env (.resumeTrading admin)) { s with tradingPaused := false }
  | setAdmin (env : Env) (admin newAdmin : Address) (authorized : s.admin = some admin) :
      Effect tok self s (.call env (.setAdmin admin newAdmin)) { s with admin := some newAdmin }
  | setFeeConfig (env : Env) (admin collector : Address) (share : ℕ)
      (authorized : s.admin = some admin) (capped : share ≤ maxProtocolFeeShareBps) :
      Effect tok self s (.call env (.setFeeConfig admin collector share))
        { s with governanceCollector := some collector, protocolFeeShareBps := share }
  | setRiskParameters (env : Env) (admin : Address) (params : RiskParams)
      (authorized : s.admin = some admin) :
      Effect tok self s (.call env (.setRiskParameters admin params))
        { s with riskParams := params }
  | triggerCircuitBreaker (env : Env) (admin : Address) (reason : String)
      (breaker : CircuitBreakerState) (authorized : s.admin = some admin) :
      Effect tok self s (.call env (.triggerCircuitBreaker admin reason))
        { s with circuitBreakerState := some breaker }

section Helpers

variable {s s' : State τ} {β : Type} {r : β}

theorem assertAdmin_bind {caller : Address} {f : Unit → Result β} :
    (assertAdmin s caller >>= f) = .ok r ↔ s.admin = some caller ∧ f () = .ok r := by
  rw [assertAdmin, panicIf_bind, not_not]

theorem getPool_bind {id : ℕ} {f : Pool → Result β} :
    (getPool s id >>= f) = .ok r ↔ ∃ pool, s.pool.get? id = some pool ∧ f pool = .ok r :=
  expect_bind

theorem withReentrancyGuard_ok {α : Type} {f : State τ → Result (α × State τ)}
    {r : α × State τ} (h : withReentrancyGuard f s = .ok r) :
    ∃ s₁, f { s with reentrancyLock := true } = .ok (r.1, s₁) ∧
      r.2 = { s₁ with reentrancyLock := false } := by
  unfold withReentrancyGuard at h
  rw [panicIf_bind] at h
  obtain ⟨⟨a, s₁⟩, hf, h⟩ := bind_ok.mp h.2
  cases h
  exact ⟨s₁, hf, rfl⟩

/-- Whether trading is allowed only concerns the breaker. -/
theorem checkTradingAllowed_ok {env : Env} (h : checkTradingAllowed env s = .ok s') :
    ∃ breaker, s' = { s with circuitBreakerState := breaker } := by
  unfold checkTradingAllowed at h
  rw [panicIf_bind] at h
  obtain ⟨-, h⟩ := h
  cases hb : s.circuitBreakerState with
  | none =>
    rw [hb] at h
    cases h
    exact ⟨none, by rw [← hb]⟩
  | some state =>
    rw [hb] at h
    simp only at h
    split at h
    · split at h
      · cases h
      · cases h
        exact ⟨_, rfl⟩
    · cases h
      exact ⟨some state, by rw [← hb]⟩

theorem setPool_traded (pool : Pool) (aToB : Bool) (paid out : ℤ) :
    setPool s (pool.traded aToB paid out) =
      { s with pool := s.pool.set pool.poolId (pool.traded aToB paid out) } := by
  cases aToB <;> rfl

theorem settleReserves_bind {pool : Pool} {aToB : Bool} {paid out : ℤ} {f : Pool → Result β}
    (h : (settleReserves pool aToB paid out >>= f) = .ok r) :
    f (pool.traded aToB paid out) = .ok r := by
  unfold settleReserves at h
  cases aToB <;>
    · simp only [Bool.false_eq_true, if_true, if_false, bind_assoc, ok_bind, I128.add_bind,
        I128.sub_bind] at h
      exact h.2.2

theorem updateUserPosition_ok {env : Env} {user token : Address} {change : ℤ}
    (h : updateUserPosition env s user token change = .ok s') :
    ∃ positions, s' = { s with userPosition := positions } := by
  unfold updateUserPosition at h
  rw [I128.add_bind] at h
  obtain ⟨-, h⟩ := h
  split at h
  · cases h
    exact ⟨_, rfl⟩
  · cases h
    exact ⟨_, rfl⟩

variable {tok : Token τ} {self : Address}

theorem payCollector_bind {t : τ} {token : Address} {fee : ℤ} {f : τ → Result β} :
    (payCollector tok self s t token fee >>= f) = .ok r ↔
      ∃ t', tok.settle t (skim self s.governanceCollector token fee) = some t' ∧ f t' = .ok r := by
  unfold payCollector skim
  cases s.governanceCollector with
  | none => simp [Token.settle]
  | some collector =>
    by_cases hfee : fee > 0
    · simp only [hfee, if_true, Token.pay_bind, Token.settle]
      constructor
      · rintro ⟨t', ht, hf⟩
        exact ⟨t', by rw [ht], hf⟩
      · rintro ⟨t', ht, hf⟩
        cases htr : tok.transfer t token self collector fee with
        | none => simp [htr] at ht
        | some t₁ =>
          rw [htr] at ht
          cases ht
          exact ⟨t', rfl, hf⟩
    · simp [hfee, Token.settle]

theorem payShare_ok {provider token : Address} {id : ℕ} {reward share : ℤ}
    (h : payShare tok self provider id token reward share s = .ok s') :
    ∃ tokens, tok.settle s.tokens (shareLeg self provider token share) = some tokens ∧
      s' = { s with
        lpRewardBalance := afterShare s.lpRewardBalance id token reward share, tokens } := by
  unfold payShare at h
  unfold shareLeg afterShare
  split at h
  · rename_i hpos
    simp only [Token.pay_bind, I128.sub_bind] at h
    obtain ⟨tokens, hpaid, -, h⟩ := h
    cases h
    simp only [hpos, if_true]
    exact ⟨tokens, Token.settle_one hpaid, rfl⟩
  · rename_i hzero
    cases h
    simp only [hzero, if_false]
    exact ⟨s.tokens, rfl, rfl⟩

end Helpers

section Inversion

variable {tok : Token τ} {self : Address} {env : Env} {s s' : State τ}

/-- A completed swap, with its quote, its fee and its transfers. -/
theorem swapInternal_ok {user tokenIn : Address} {id : ℕ} {amountIn least : ℤ}
    {collect : Bool} {r : ℤ × State τ}
    (h : swapInternal tok self user id tokenIn amountIn least collect s = .ok r) :
    ∃ pool aToB fee payments tokens, s.pool.get? id = some pool ∧ tokenIn = pool.tokenIn aToB ∧
      swapSide pool tokenIn = .ok (pool.reserveIn aToB, pool.reserveOut aToB, aToB) ∧ 0 < r.1 ∧
      getAmountOut amountIn (pool.reserveIn aToB) (pool.reserveOut aToB) pool.feeBps = .ok r.1 ∧
      protocolFee collect amountIn pool.feeBps s.protocolFeeShareBps = .ok fee ∧
      payments.Perm (⟨pool.tokenIn aToB, user, self, amountIn⟩ ::
        ⟨pool.tokenOut aToB, self, user, r.1⟩ ::
        skim self s.governanceCollector (pool.tokenIn aToB) fee) ∧
      tok.settle s.tokens payments = some tokens ∧
      r.2 = { s with
        pool := s.pool.set pool.poolId (pool.traded aToB (amountIn - fee) r.1), tokens } := by
  unfold swapInternal at h
  simp only [panicIf_bind, getPool_bind] at h
  obtain ⟨-, pool, hstored, -, h⟩ := h
  obtain ⟨⟨reserveIn, reserveOut, aToB⟩, hside, h⟩ := bind_ok.mp h
  have hpair : reserveIn = pool.reserveIn aToB ∧ reserveOut = pool.reserveOut aToB ∧
      tokenIn = pool.tokenIn aToB := by
    have hsplit := hside
    unfold swapSide at hsplit
    split at hsplit
    · cases hsplit
      exact ⟨rfl, rfl, by assumption⟩
    · split at hsplit
      · cases hsplit
        exact ⟨rfl, rfl, by assumption⟩
      · cases hsplit
  obtain ⟨rfl, rfl, rfl⟩ := hpair
  obtain ⟨out, hquote, h⟩ := bind_ok.mp h
  simp only [panicIf_bind, Token.pay_bind, not_le] at h
  obtain ⟨-, hpos, tokens₁, hin, h⟩ := h
  obtain ⟨fee, hfee, h⟩ := bind_ok.mp h
  simp only [payCollector_bind, I128.sub_bind, Token.pay_bind] at h
  obtain ⟨tokens₂, hskim, -, tokens₃, hout, h⟩ := h
  have hsettled := settleReserves_bind h
  cases hsettled
  simp only [setPool_traded]
  refine ⟨pool, aToB, fee, _, tokens₃, hstored, rfl, hside, hpos, hquote, hfee, ?_,
    Token.settle_cons hin (Token.settle_append hskim (Token.settle_one hout)), rfl⟩
  exact List.Perm.cons _ (List.perm_append_singleton _ _)

theorem swapInternal_trade {user tokenIn : Address} {id : ℕ} {amountIn least : ℤ}
    {collect : Bool} {r : ℤ × State τ}
    (h : swapInternal tok self user id tokenIn amountIn least collect s = .ok r) :
    Trade tok self user s r.2 := by
  obtain ⟨pool, aToB, fee, payments, tokens, hstored, -, -, hpos, hquote, hfee, hlegs, hpaid, hr⟩ :=
    swapInternal_ok h
  rw [hr]
  exact .mk id pool aToB collect amountIn r.1 fee payments tokens hstored (.exactIn hpos hquote)
    hfee hlegs hpaid

/-- The reserves of a pair are those of one direction. -/
theorem reservesForPair_ok {pool : Pool} {tokenIn tokenOut : Address} {reserveIn reserveOut : ℤ}
    {outIsA : Bool}
    (h : reservesForPair pool tokenIn tokenOut = .ok (reserveIn, reserveOut, outIsA)) :
    reserveIn = pool.reserveIn (!outIsA) ∧ reserveOut = pool.reserveOut (!outIsA) ∧
      tokenIn = pool.tokenIn (!outIsA) ∧ tokenOut = pool.tokenOut (!outIsA) := by
  unfold reservesForPair at h
  obtain ⟨u, hvalid, h⟩ := bind_ok.mp h
  have htokens := not_not.mp (panicIf_ok hvalid)
  split at h
  · rename_i hab
    cases h
    exact ⟨rfl, rfl, hab.1, hab.2⟩
  · rename_i hab
    cases h
    have hba := htokens.resolve_left hab
    exact ⟨rfl, rfl, hba.1, hba.2⟩

theorem flashSwapInternal_trade {user tokenIn tokenOut : Address} {id : ℕ} {out most : ℤ}
    {r : ℤ × State τ}
    (h : flashSwapInternal tok self user id tokenOut out tokenIn most s = .ok r) :
    Trade tok self user s r.2 ∧ ∃ pool aToB, s.pool.get? id = some pool ∧
      tokenIn = pool.tokenIn aToB ∧ tokenOut = pool.tokenOut aToB ∧
      getAmountIn out (pool.reserveIn aToB) (pool.reserveOut aToB) pool.feeBps = .ok r.1 := by
  unfold flashSwapInternal at h
  simp only [getPool_bind] at h
  obtain ⟨pool, hstored, h⟩ := h
  obtain ⟨-, -, h⟩ := bind_ok.mp h
  obtain ⟨⟨reserveIn, reserveOut, outIsA⟩, hside, h⟩ := bind_ok.mp h
  have hpair := reservesForPair_ok hside
  generalize (!outIsA) = aToB at hpair h
  obtain ⟨rfl, rfl, rfl, rfl⟩ := hpair
  rw [panicIf_bind] at h
  obtain ⟨amountIn, hquote, h⟩ := bind_ok.mp h.2
  simp only [panicIf_bind, Token.pay_bind] at h
  obtain ⟨-, tokens₁, hout, tokens₂, hin, h⟩ := h
  obtain ⟨fee, hfee, h⟩ := bind_ok.mp h
  simp only [payCollector_bind, I128.sub_bind] at h
  obtain ⟨tokens₃, hskim, -, h⟩ := h
  have hsettled := settleReserves_bind h
  cases hsettled
  simp only [setPool_traded]
  refine ⟨?_, pool, aToB, hstored, rfl, rfl, hquote⟩
  refine .mk id pool aToB true amountIn out fee _ tokens₃ hstored (.exactOut hquote) hfee ?_
    (Token.settle_cons hout (Token.settle_cons hin hskim))
  exact List.Perm.swap _ _ _

theorem executeHop_trade {user : Address} {i : ℕ} {hop : Hop} {progress : Progress}
    {r : Progress × State τ} (h : executeHop tok self user i hop progress s = .ok r) :
    Trade tok self user s r.2 := by
  unfold executeHop at h
  simp only [panicIf_bind, getPool_bind] at h
  obtain ⟨-, -, pool, -, h⟩ := h
  obtain ⟨⟨out, s₁⟩, hswap, h⟩ := bind_ok.mp h
  rw [U32.add_bind] at h
  cases h.2
  exact swapInternal_trade hswap

theorem executeHops_trades {user : Address} {i : ℕ} {hops : List Hop} {progress : Progress}
    {r : Progress × State τ} (h : executeHops tok self user i hops progress s = .ok r) :
    Trades tok self user s r.2 := by
  induction hops generalizing i progress s with
  | nil =>
    cases h
    exact Relation.ReflTransGen.refl
  | cons hop rest ih =>
    obtain ⟨⟨progress₁, s₁⟩, hhop, hrest⟩ := bind_ok.mp h
    exact Relation.ReflTransGen.head (executeHop_trade hhop) (ih hrest)

theorem addLiquidity_effect {provider : Address} {id : ℕ} {a b : ℤ} {r : ℤ × State τ}
    (h : addLiquidity tok self env provider id a b s = .ok r) :
    Effect tok self s (.call env (.addLiquidity provider id a b)) r.2 := by
  unfold addLiquidity at h
  rw [requireAuth_bind] at h
  obtain ⟨s₁, hbody, hr⟩ := withReentrancyGuard_ok h.2
  rw [hr]
  unfold addLiquidityInternal at hbody
  simp only [panicIf_bind, getPool_bind, not_or, not_le] at hbody
  obtain ⟨hpos, pool, hstored, h⟩ := hbody
  obtain ⟨minted, hpriced, h⟩ := bind_ok.mp h
  simp only [panicIf_bind, not_le] at h
  obtain ⟨-, hmints, h⟩ := h
  obtain ⟨-, -, h⟩ := bind_ok.mp h
  simp only [Token.pay_bind, I128.add_bind] at h
  obtain ⟨tokens₁, hpaidA, tokens₂, hpaidB, -, -, -, -, h⟩ := h
  cases h
  exact .addLiquidity env provider id a b pool _ tokens₂ hpos hstored hpriced hmints
    (Token.settle_cons hpaidA (Token.settle_one hpaidB))

theorem removeLiquidity_effect {provider : Address} {id : ℕ} {lp : ℤ}
    {r : (ℤ × ℤ) × State τ} (h : removeLiquidity tok self env provider id lp s = .ok r) :
    Effect tok self s (.call env (.removeLiquidity provider id lp)) r.2 ∧
      ∃ pool, s.pool.get? id = some pool ∧
        r.1.1 = (lp * pool.reserveA).tdiv pool.lpTotalSupply ∧
        r.1.2 = (lp * pool.reserveB).tdiv pool.lpTotalSupply := by
  unfold removeLiquidity at h
  rw [requireAuth_bind] at h
  obtain ⟨s₁, hbody, hr⟩ := withReentrancyGuard_ok h.2
  rw [hr]
  unfold removeLiquidityInternal at hbody
  simp only [panicIf_bind, getPool_bind, not_lt, not_le, I128.sub_bind, I128.mul_bind] at hbody
  obtain ⟨hpos, howned, pool, hstored, hsupply, -, -, -, h⟩ := hbody
  obtain ⟨amountA, hA, h⟩ := bind_ok.mp h
  rw [I128.mul_bind] at h
  obtain ⟨amountB, hB, h⟩ := bind_ok.mp h.2
  simp only [panicIf_bind, not_or, not_le, I128.sub_bind, Token.pay_bind] at h
  obtain ⟨hgains, -, -, -, tokens₁, hpaidA, tokens₂, hpaidB, h⟩ := h
  obtain ⟨-, rfl⟩ := floorDiv_ok hA
  obtain ⟨-, rfl⟩ := floorDiv_ok hB
  obtain ⟨⟨x, y⟩, s₂⟩ := r
  cases h
  refine ⟨?_, pool, hstored, rfl, rfl⟩
  exact .removeLiquidity env provider id lp pool _ _ tokens₂ hpos howned hstored hsupply rfl rfl
    hgains (Token.settle_cons hpaidA (Token.settle_one hpaidB))

theorem swap_effect {user tokenIn : Address} {id : ℕ} {amountIn least : ℤ} {r : ℤ × State τ}
    (h : swap tok self env user id tokenIn amountIn least s = .ok r) :
    Effect tok self s (.call env (.swap user id tokenIn amountIn least)) r.2 := by
  unfold swap at h
  rw [requireAuth_bind] at h
  obtain ⟨s₀, hs₀, h⟩ := bind_ok.mp h.2
  obtain ⟨breaker, rfl⟩ := checkTradingAllowed_ok hs₀
  obtain ⟨s₁, hbody, hr⟩ := withReentrancyGuard_ok h
  rw [hr]
  exact .trades env _ user s₁ breaker s₁.userPosition true false rfl
    (.single (swapInternal_trade hbody))

/-- A completed flash swap charges what its pool quotes for the output. -/
theorem flashSwap_effect {user tokenIn tokenOut : Address} {id : ℕ} {out most : ℤ}
    {r : ℤ × State τ} (h : flashSwap tok self env user id tokenOut out tokenIn most s = .ok r) :
    Effect tok self s (.call env (.flashSwap user id tokenOut out tokenIn most)) r.2 ∧
      ∃ pool aToB, s.pool.get? id = some pool ∧
        tokenIn = pool.tokenIn aToB ∧ tokenOut = pool.tokenOut aToB ∧
        getAmountIn out (pool.reserveIn aToB) (pool.reserveOut aToB) pool.feeBps = .ok r.1 := by
  unfold flashSwap at h
  rw [requireAuth_bind] at h
  obtain ⟨s₀, hs₀, h⟩ := bind_ok.mp h.2
  obtain ⟨breaker, rfl⟩ := checkTradingAllowed_ok hs₀
  rw [panicIf_bind] at h
  obtain ⟨s₁, hbody, hr⟩ := withReentrancyGuard_ok h.2
  obtain ⟨htrade, hquoted⟩ := flashSwapInternal_trade hbody
  rw [hr]
  exact ⟨.trades env _ user s₁ breaker s₁.userPosition true false rfl (.single htrade), hquoted⟩

theorem executeMultiHopSwap_effect {user : Address} {route : Route} {least : ℤ}
    {r : ℤ × State τ} (h : executeMultiHopSwap tok self env user route least s = .ok r) :
    Effect tok self s (.call env (.executeMultiHopSwap user route least)) r.2 := by
  unfold executeMultiHopSwap at h
  simp only [requireAuth_bind, panicIf_bind] at h
  obtain ⟨-, -, -, h⟩ := h
  obtain ⟨s₀, hs₀, h⟩ := bind_ok.mp h
  obtain ⟨breaker, rfl⟩ := checkTradingAllowed_ok hs₀
  obtain ⟨-, -, h⟩ := bind_ok.mp h
  obtain ⟨⟨progress, s₁⟩, hhops, h⟩ := bind_ok.mp h
  simp only [panicIf_bind] at h
  obtain ⟨-, -, h⟩ := h
  obtain ⟨sold, -, h⟩ := bind_ok.mp h
  obtain ⟨s₂, hs₂, h⟩ := bind_ok.mp h
  obtain ⟨s₃, hs₃, h⟩ := bind_ok.mp h
  obtain ⟨positions, rfl⟩ := updateUserPosition_ok hs₂
  obtain ⟨positions', rfl⟩ := updateUserPosition_ok hs₃
  cases h
  exact .trades env _ user s₁ breaker positions' s.reentrancyLock s₁.reentrancyLock rfl
    (executeHops_trades hhops)

theorem claimLpRewards_effect {provider : Address} {id : ℕ} {r : (ℤ × ℤ) × State τ}
    (h : claimLpRewards tok self env provider id s = .ok r) :
    Effect tok self s (.call env (.claimLpRewards provider id)) r.2 := by
  unfold claimLpRewards at h
  rw [requireAuth_bind] at h
  obtain ⟨s₁, hbody, hr⟩ := withReentrancyGuard_ok h.2
  rw [hr]
  unfold claimLpRewardsInternal at hbody
  simp only [getPool_bind, panicIf_bind, not_or, not_le, I128.mul_bind] at hbody
  obtain ⟨pool, hstored, ⟨hholds, hsupply⟩, -, h⟩ := hbody
  obtain ⟨shareA, hA, h⟩ := bind_ok.mp h
  rw [I128.mul_bind] at h
  obtain ⟨shareB, hB, h⟩ := bind_ok.mp h.2
  rw [panicIf_bind] at h
  obtain ⟨s₂, hs₂, h⟩ := bind_ok.mp h.2
  obtain ⟨s₃, hs₃, h⟩ := bind_ok.mp h
  obtain ⟨tokens₁, hpaidA, rfl⟩ := payShare_ok hs₂
  obtain ⟨tokens₂, hpaidB, rfl⟩ := payShare_ok hs₃
  obtain ⟨⟨x, y⟩, s₄⟩ := r
  cases h
  exact .claimLpRewards env provider id pool shareA shareB tokens₂ hstored hholds hsupply
    (floorDiv_ok hA).2 (floorDiv_ok hB).2 (Token.settle_append hpaidA hpaidB)

/-- Every completed invocation has its effect. -/
theorem next_effect {a : Action τ} (h : next tok self a s = .ok s') : Effect tok self s a s' := by
  cases a with
  | transfers tokens =>
    cases h
    exact .transfers tokens
  | call env op =>
    cases op with
    | initializeContract admin collector =>
      simp only [next, invoke, initializeContract, panicIf_bind, requireAuth_bind] at h
      cases h.2.2
      exact .initializeContract env admin collector (by simpa using h.1)
    | createPool admin tokenA tokenB feeBps =>
      obtain ⟨r, hr, rfl⟩ := map_ok.mp h
      simp only [createPool, requireAuth_bind, assertAdmin_bind, panicIf_bind, U64.add_bind,
        not_lt] at hr
      obtain ⟨-, hadmin, hdistinct, hcap, -, hr⟩ := hr
      cases hr
      exact .createPool env admin tokenA tokenB feeBps hadmin hdistinct hcap
    | addLiquidity =>
      obtain ⟨r, hr, rfl⟩ := map_ok.mp h
      exact addLiquidity_effect hr
    | removeLiquidity =>
      obtain ⟨r, hr, rfl⟩ := map_ok.mp h
      exact (removeLiquidity_effect hr).1
    | swap =>
      obtain ⟨r, hr, rfl⟩ := map_ok.mp h
      exact swap_effect hr
    | flashSwap =>
      obtain ⟨r, hr, rfl⟩ := map_ok.mp h
      exact (flashSwap_effect hr).1
    | depositLpRewards admin id token amount =>
      simp only [next, invoke, depositLpRewards, requireAuth_bind, assertAdmin_bind, panicIf_bind,
        getPool_bind, Token.pay_bind, I128.add_bind, not_le] at h
      obtain ⟨-, hadmin, hpos, pool, hstored, hlisted, tokens, hpaid, -, h⟩ := h
      cases h
      exact .depositLpRewards env admin id token amount pool tokens hadmin hpos hstored
        (by tauto) (Token.settle_one hpaid)
    | claimLpRewards =>
      obtain ⟨r, hr, rfl⟩ := map_ok.mp h
      exact claimLpRewards_effect hr
    | findBestRoute tokenIn tokenOut amountIn maxHops =>
      obtain ⟨r, hr, rfl⟩ := map_ok.mp h
      simp only [findBestRoute, panicIf_bind] at hr
      obtain ⟨-, -, -, hr⟩ := hr
      obtain ⟨s₀, hs₀, hr⟩ := bind_ok.mp hr
      obtain ⟨breaker, rfl⟩ := checkTradingAllowed_ok hs₀
      obtain ⟨best, -, hr⟩ := bind_ok.mp hr
      obtain ⟨best', -, hr⟩ := bind_ok.mp hr
      obtain ⟨route, -, hr⟩ := bind_ok.mp hr
      cases hr
      exact .findBestRoute env tokenIn tokenOut amountIn maxHops breaker
    | executeMultiHopSwap =>
      obtain ⟨r, hr, rfl⟩ := map_ok.mp h
      exact executeMultiHopSwap_effect hr
    | pauseTrading admin =>
      simp only [next, invoke, pauseTrading, switchTrading, requireAuth_bind,
        assertAdmin_bind] at h
      cases h.2.2
      exact .pauseTrading env admin h.2.1
    | resumeTrading admin =>
      simp only [next, invoke, resumeTrading, switchTrading, requireAuth_bind,
        assertAdmin_bind] at h
      cases h.2.2
      exact .resumeTrading env admin h.2.1
    | setAdmin admin newAdmin =>
      simp only [next, invoke, setAdmin, requireAuth_bind, assertAdmin_bind] at h
      cases h.2.2
      exact .setAdmin env admin newAdmin h.2.1
    | setFeeConfig admin collector share =>
      simp only [next, invoke, setFeeConfig, requireAuth_bind, assertAdmin_bind, panicIf_bind,
        not_lt] at h
      cases h.2.2.2
      exact .setFeeConfig env admin collector share h.2.1 h.2.2.1
    | setRiskParameters admin params =>
      simp only [next, invoke, setRiskParameters, requireAuth_bind, assertAdmin_bind,
        panicIf_bind] at h
      obtain ⟨-, hadmin, -, -, -, -, -, -, h⟩ := h
      cases h
      exact .setRiskParameters env admin params hadmin
    | triggerCircuitBreaker admin reason =>
      simp only [next, invoke, triggerCircuitBreaker, requireAuth_bind, assertAdmin_bind,
        U64.add_bind] at h
      cases h.2.2.2
      exact .triggerCircuitBreaker env admin reason _ h.2.1

end Inversion

end Amm
