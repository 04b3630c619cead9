import StellAIverse.Amm.Math
import StellAIverse.Soroban.Token

/-!
# The automated market maker

Constant-product pools with LP tokens, swaps, flash swaps, multi-hop swaps and
bonus rewards for liquidity providers. Storage and every entry point, in the
order of the source; events, the query caches and the read-only views are left
out.
-/

namespace Amm

open Soroban

def maxFeeBps : ℕ := 1000

def maxProtocolFeeShareBps : ℕ := 5000

def depositRatioToleranceBps : ℤ := 500

structure Pool where
  poolId : ℕ
  tokenA : Address
  tokenB : Address
  reserveA : ℤ
  reserveB : ℤ
  lpTotalSupply : ℤ
  feeBps : ℕ

structure Hop where
  poolId : ℕ
  tokenIn : Address
  tokenOut : Address
  amountIn : ℤ
  minAmountOut : ℤ

structure Route where
  tokenIn : Address
  tokenOut : Address
  amountIn : ℤ
  amountOut : ℤ
  totalFeeBps : ℕ
  hops : List Hop
  createdAt : ℕ

structure RiskParams where
  maxPositionPerUser : ℤ
  maxPositionPerAsset : ℤ
  concentrationThresholdBps : ℕ
  circuitBreakerThresholdBps : ℕ
  circuitBreakerCooldown : ℕ
  minLpTokenThreshold : ℤ

structure UserPosition where
  user : Address
  token : Address
  positionSize : ℤ
  lastUpdated : ℕ

structure CircuitBreakerState where
  isActive : Bool
  triggeredAt : ℕ
  reason : String
  cooldownUntil : ℕ

/-- Contract storage together with the token state. -/
structure State (τ : Type) where
  admin : Option Address
  poolCounter : ℕ
  pool : Store ℕ Pool
  lpBalance : Store (ℕ × Address) ℤ
  tradingPaused : Bool
  circuitBreakerState : Option CircuitBreakerState
  riskParams : RiskParams
  userPosition : Store (Address × Address) UserPosition
  governanceCollector : Option Address
  protocolFeeShareBps : ℕ
  lpRewardBalance : Store (ℕ × Address) ℤ
  reentrancyLock : Bool
  tokens : τ

variable {τ : Type}

def defaultRiskParams : RiskParams where
  maxPositionPerUser := 1000000000
  maxPositionPerAsset := 10000000000
  concentrationThresholdBps := 3000
  circuitBreakerThresholdBps := 1500
  circuitBreakerCooldown := 3600
  minLpTokenThreshold := 1000

/-- Empty storage, with the default of every getter. -/
def deployed (tokens : τ) : State τ where
  admin := none
  poolCounter := 0
  pool := .empty
  lpBalance := .empty
  tradingPaused := false
  circuitBreakerState := none
  riskParams := defaultRiskParams
  userPosition := .empty
  governanceCollector := none
  protocolFeeShareBps := 0
  lpRewardBalance := .empty
  reentrancyLock := false
  tokens := tokens

def getPool (s : State τ) (poolId : ℕ) : Result Pool := expect (s.pool.get? poolId) "Pool not found"

def setPool (s : State τ) (pool : Pool) : State τ :=
  { s with pool := s.pool.set pool.poolId pool }

def getLpBalance (s : State τ) (poolId : ℕ) (provider : Address) : ℤ :=
  s.lpBalance.amount (poolId, provider)

def setLpBalance (s : State τ) (poolId : ℕ) (provider : Address) (amount : ℤ) : State τ :=
  { s with lpBalance := s.lpBalance.set (poolId, provider) amount }

def getLpRewardBalance (s : State τ) (poolId : ℕ) (token : Address) : ℤ :=
  s.lpRewardBalance.amount (poolId, token)

def setLpRewardBalance (s : State τ) (poolId : ℕ) (token : Address) (amount : ℤ) : State τ :=
  { s with lpRewardBalance := s.lpRewardBalance.set (poolId, token) amount }

/-- An absent admin and a different one both trap with the same message. -/
def assertAdmin (s : State τ) (caller : Address) : Result Unit :=
  panicIf (s.admin ≠ some caller) "Unauthorized"

def withReentrancyGuard {α : Type} (f : State τ → Result (α × State τ)) (s : State τ) :
    Result (α × State τ) := do
  panicIf (s.reentrancyLock = true) "Reentrancy detected"
  let (result, s) ← f { s with reentrancyLock := true }
  .ok (result, { s with reentrancyLock := false })

/-- An expired breaker is switched off on the way. -/
def checkTradingAllowed (env : Env) (s : State τ) : Result (State τ) := do
  panicIf (s.tradingPaused = true) "Trading is currently paused"
  match s.circuitBreakerState with
  | some state =>
    if state.isActive = true then
      if env.timestamp < state.cooldownUntil then .error (.panic "Circuit breaker is active")
      else .ok { s with circuitBreakerState := some { state with isActive := false } }
    else .ok s
  | none => .ok s

def validatePoolTokens (pool : Pool) (tokenA tokenB : Address) : Result Unit :=
  panicIf (¬ ((tokenA = pool.tokenA ∧ tokenB = pool.tokenB) ∨
    (tokenA = pool.tokenB ∧ tokenB = pool.tokenA))) "Token not in pool"

/-- The reserves in the order in, out, and whether the output is token A. -/
def reservesForPair (pool : Pool) (tokenIn tokenOut : Address) : Result (ℤ × ℤ × Bool) := do
  validatePoolTokens pool tokenIn tokenOut
  if tokenIn = pool.tokenA ∧ tokenOut = pool.tokenB then
    .ok (pool.reserveA, pool.reserveB, false)
  else .ok (pool.reserveB, pool.reserveA, true)

/-- LP tokens for a deposit: the root of the product at first, then the smaller of
the two shares, each rounded up. -/
def lpTokensFor (pool : Pool) (amountA amountB : ℤ) : Result ℤ :=
  if pool.lpTotalSupply = 0 then do
    let product ← I128.mul amountA amountB
    isqrt product
  else do
    let scaledA ← I128.mul amountA pool.lpTotalSupply
    let lpA ← ceilDiv scaledA pool.reserveA
    let scaledB ← I128.mul amountB pool.lpTotalSupply
    let lpB ← ceilDiv scaledB pool.reserveB
    .ok (if lpA < lpB then lpA else lpB)

def ratioDiff (poolRatio depositRatio : ℤ) : Result ℤ :=
  if poolRatio > depositRatio then I128.sub poolRatio depositRatio
  else I128.sub depositRatio poolRatio

def checkDepositRatio (pool : Pool) (amountA amountB : ℤ) : Result Unit :=
  if pool.reserveA > 0 ∧ pool.reserveB > 0 then do
    let scaledPool ← I128.mul pool.reserveA 10000
    let poolRatio ← I128.div scaledPool pool.reserveB
    let scaledDeposit ← I128.mul amountA 10000
    let depositRatio ← I128.div scaledDeposit amountB
    let diff ← ratioDiff poolRatio depositRatio
    panicIf (diff > depositRatioToleranceBps) "Deposit ratio deviates too much from pool ratio"
  else .ok ()

/-- The reserves after a swap in one direction. -/
def settleReserves (pool : Pool) (aToB : Bool) (netAmountIn amountOut : ℤ) : Result Pool :=
  if aToB = true then do
    let reserveA ← I128.add pool.reserveA netAmountIn
    let reserveB ← I128.sub pool.reserveB amountOut
    .ok { pool with reserveA, reserveB }
  else do
    let reserveB ← I128.add pool.reserveB netAmountIn
    let reserveA ← I128.sub pool.reserveA amountOut
    .ok { pool with reserveA, reserveB }

section Positions

def getUserPositionForToken (s : State τ) (user token : Address) : ℤ :=
  ((s.userPosition.get? (user, token)).map (·.positionSize)).getD 0

def updateUserPosition (env : Env) (s : State τ) (user token : Address) (amountChange : ℤ) :
    Result (State τ) := do
  let newPosition ← I128.add (getUserPositionForToken s user token) amountChange
  if newPosition = 0 then .ok { s with userPosition := s.userPosition.remove (user, token) }
  else .ok { s with
    userPosition := s.userPosition.set (user, token)
      { user, token, positionSize := newPosition, lastUpdated := env.timestamp } }

/-- `total += pos.position_size.abs()`, where a position is stored. -/
def addPosition (s : State τ) (user token : Address) (total : ℤ) : Result ℤ :=
  match s.userPosition.get? (user, token) with
  | some pos => do
    let size ← I128.fit |pos.positionSize|
    I128.add total size
  | none => .ok total

/-- The loop of `get_user_total_position` over the pool ids. -/
def totalPosition (s : State τ) (user : Address) : List ℕ → ℤ → Result ℤ
  | [], total => .ok total
  | poolId :: rest, total => do
    let pool ← getPool s poolId
    let total ← addPosition s user pool.tokenA total
    let total ← addPosition s user pool.tokenB total
    totalPosition s user rest total

def getUserTotalPosition (s : State τ) (user : Address) : Result ℤ :=
  totalPosition s user (List.range s.poolCounter) 0

/-- `max_concentration.max(concentration as u32)`, where a position is stored. -/
def raiseConcentration (s : State τ) (user token : Address) (total : ℤ) (highest : ℕ) :
    Result ℕ :=
  match s.userPosition.get? (user, token) with
  | some pos => do
    let size ← I128.fit |pos.positionSize|
    let scaled ← I128.mul size 10000
    let concentration ← I128.div scaled total
    .ok (max highest (concentration % 2 ^ 32).toNat)
  | none => .ok highest

/-- The loop of `calculate_concentration_score` over the pool ids. -/
def maxConcentration (s : State τ) (user : Address) (total : ℤ) : List ℕ → ℕ → Result ℕ
  | [], highest => .ok highest
  | poolId :: rest, highest => do
    let pool ← getPool s poolId
    let highest ← raiseConcentration s user pool.tokenA total highest
    let highest ← raiseConcentration s user pool.tokenB total highest
    maxConcentration s user total rest highest

def calculateConcentrationScore (s : State τ) (user : Address) : Result ℕ := do
  let total ← getUserTotalPosition s user
  if total = 0 then .ok 0 else maxConcentration s user total (List.range s.poolCounter) 0

def checkPositionLimits (s : State τ) (user token : Address) (amount : ℤ) : Result Unit := do
  let newPosition ← I128.add (getUserPositionForToken s user token) amount
  let userTotal ← getUserTotalPosition s user
  let newTotal ← I128.add userTotal amount
  panicIf (newTotal > s.riskParams.maxPositionPerUser) "Exceeds maximum position per user"
  panicIf (newPosition > s.riskParams.maxPositionPerAsset) "Exceeds maximum position per asset"
  let concentration ← calculateConcentrationScore s user
  panicIf (concentration > s.riskParams.concentrationThresholdBps)
    "Portfolio concentration too high"

end Positions

section Routes

variable (env : Env) (s : State τ)

/-- `try_direct_route`: nothing where the pool does not trade the pair, has no
liquidity or would give nothing. -/
def tryDirectRoute (poolId : ℕ) (tokenIn tokenOut : Address) (amountIn : ℤ) :
    Result (Option Route) := do
  let pool ← getPool s poolId
  let reserves :=
    if tokenIn = pool.tokenA ∧ tokenOut = pool.tokenB then some (pool.reserveA, pool.reserveB)
    else if tokenIn = pool.tokenB ∧ tokenOut = pool.tokenA then
      some (pool.reserveB, pool.reserveA)
    else none
  match reserves with
  | none => .ok none
  | some (reserveIn, reserveOut) =>
    if reserveIn ≤ 0 ∨ reserveOut ≤ 0 then .ok none else do
      let amountOut ← getAmountOut amountIn reserveIn reserveOut pool.feeBps
      if amountOut ≤ 0 then .ok none else do
        let scaled ← I128.mul amountOut 95
        let minAmountOut ← I128.div scaled 100
        .ok (some {
          tokenIn, tokenOut, amountIn, amountOut, totalFeeBps := pool.feeBps
          hops := [{ poolId, tokenIn, tokenOut, amountIn, minAmountOut }]
          createdAt := env.timestamp })

def findIntermediateToken (pool₁ pool₂ : Pool) (tokenIn tokenOut : Address) : Option Address :=
  [pool₁.tokenA, pool₁.tokenB].find? fun t =>
    ¬ (t = tokenIn ∨ t = tokenOut) ∧ (t = pool₂.tokenA ∨ t = pool₂.tokenB)

def tryTwoHopRoute (poolId₁ poolId₂ : ℕ) (tokenIn tokenOut : Address) (amountIn : ℤ) :
    Result (Option Route) := do
  let pool₁ ← getPool s poolId₁
  let pool₂ ← getPool s poolId₂
  match findIntermediateToken pool₁ pool₂ tokenIn tokenOut with
  | none => .ok none
  | some intermediate => do
    let route₁ ← tryDirectRoute env s poolId₁ tokenIn intermediate amountIn
    match route₁ with
    | none => .ok none
    | some route₁ => do
      let route₂ ← tryDirectRoute env s poolId₂ intermediate tokenOut route₁.amountOut
      match route₂ with
      | none => .ok none
      | some route₂ => do
        let hop₁ ← expect route₁.hops.head? "called `Option::unwrap()` on a `None` value"
        let hop₂ ← expect route₂.hops.head? "called `Option::unwrap()` on a `None` value"
        let totalFeeBps ← U32.add pool₁.feeBps pool₂.feeBps
        .ok (some {
          tokenIn, tokenOut, amountIn, amountOut := route₂.amountOut, totalFeeBps
          hops := [hop₁, hop₂], createdAt := env.timestamp })

/-- The running best of a search: a route and its output, at first none and zero. -/
def better (best : Option Route × ℤ) (candidate : Option Route) : Option Route × ℤ :=
  match candidate with
  | some route => if route.amountOut > best.2 then (some route, route.amountOut) else best
  | none => best

/-- The loop of `find_best_route` over single pools. -/
def bestDirect (tokenIn tokenOut : Address) (amountIn : ℤ) :
    List ℕ → Option Route × ℤ → Result (Option Route × ℤ)
  | [], best => .ok best
  | poolId :: rest, best => do
    let candidate ← tryDirectRoute env s poolId tokenIn tokenOut amountIn
    bestDirect tokenIn tokenOut amountIn rest (better best candidate)

/-- Its nested loops, over pairs of pools; a pool is not paired with itself. -/
def bestTwoHop (tokenIn tokenOut : Address) (amountIn : ℤ) :
    List (ℕ × ℕ) → Option Route × ℤ → Result (Option Route × ℤ)
  | [], best => .ok best
  | (poolId₁, poolId₂) :: rest, best =>
    if poolId₁ ≠ poolId₂ then do
      let candidate ← tryTwoHopRoute env s poolId₁ poolId₂ tokenIn tokenOut amountIn
      bestTwoHop tokenIn tokenOut amountIn rest (better best candidate)
    else bestTwoHop tokenIn tokenOut amountIn rest best

end Routes

variable (tok : Token τ) (self : Address)

def initializeContract (env : Env) (admin : Address) (governanceCollector : Option Address)
    (s : State τ) : Result (State τ) := do
  panicIf (s.admin.isSome = true) "Contract already initialized"
  requireAuth env admin
  .ok { s with
    admin := some admin, poolCounter := 0, tradingPaused := false, protocolFeeShareBps := 0
    reentrancyLock := false
    governanceCollector := governanceCollector.or s.governanceCollector }

def createPool (env : Env) (admin tokenA tokenB : Address) (feeBps : ℕ) (s : State τ) :
    Result (ℕ × State τ) := do
  requireAuth env admin
  assertAdmin s admin
  panicIf (tokenA = tokenB) "Token addresses must differ"
  panicIf (feeBps > maxFeeBps) "Fee cannot exceed 10%"
  let poolId := s.poolCounter
  let s := setPool s {
    poolId, tokenA, tokenB, reserveA := 0, reserveB := 0, lpTotalSupply := 0, feeBps }
  let poolCounter ← U64.add poolId 1
  .ok (poolId, { s with poolCounter })

def addLiquidityInternal (provider : Address) (poolId : ℕ) (amountA amountB : ℤ) (s : State τ) :
    Result (ℤ × State τ) := do
  panicIf (amountA ≤ 0 ∨ amountB ≤ 0) "Amounts must be positive"
  let pool ← getPool s poolId
  let lpMinted ← lpTokensFor pool amountA amountB
  panicIf (lpMinted < s.riskParams.minLpTokenThreshold)
    "Liquidity too small - minimum LP tokens required"
  panicIf (lpMinted ≤ 0) "Insufficient liquidity minted"
  checkDepositRatio pool amountA amountB
  let tokens ← tok.pay s.tokens pool.tokenA provider self amountA
  let tokens ← tok.pay tokens pool.tokenB provider self amountB
  let reserveA ← I128.add pool.reserveA amountA
  let reserveB ← I128.add pool.reserveB amountB
  let lpTotalSupply ← I128.add pool.lpTotalSupply lpMinted
  let s := setPool { s with tokens } { pool with reserveA, reserveB, lpTotalSupply }
  let newLp ← I128.add (getLpBalance s poolId provider) lpMinted
  .ok (lpMinted, setLpBalance s poolId provider newLp)

def addLiquidity (env : Env) (provider : Address) (poolId : ℕ) (amountA amountB : ℤ)
    (s : State τ) : Result (ℤ × State τ) := do
  requireAuth env provider
  withReentrancyGuard (addLiquidityInternal tok self provider poolId amountA amountB) s

def removeLiquidityInternal (provider : Address) (poolId : ℕ) (lpAmount : ℤ) (s : State τ) :
    Result ((ℤ × ℤ) × State τ) := do
  panicIf (lpAmount ≤ 0) "LP amount must be positive"
  let currentLp := getLpBalance s poolId provider
  panicIf (currentLp < lpAmount) "Insufficient LP balance"
  let pool ← getPool s poolId
  panicIf (pool.lpTotalSupply ≤ 0) "Pool has no liquidity"
  let remainingLp ← I128.sub currentLp lpAmount
  panicIf (remainingLp > 0 ∧ remainingLp < s.riskParams.minLpTokenThreshold)
    "Remaining LP tokens below minimum threshold"
  let scaledA ← I128.mul lpAmount pool.reserveA
  let amountA ← floorDiv scaledA pool.lpTotalSupply
  let scaledB ← I128.mul lpAmount pool.reserveB
  let amountB ← floorDiv scaledB pool.lpTotalSupply
  panicIf (amountA ≤ 0 ∨ amountB ≤ 0) "Withdrawal amounts too small"
  let reserveA ← I128.sub pool.reserveA amountA
  let reserveB ← I128.sub pool.reserveB amountB
  let lpTotalSupply ← I128.sub pool.lpTotalSupply lpAmount
  let s := setPool s { pool with reserveA, reserveB, lpTotalSupply }
  let s := setLpBalance s poolId provider remainingLp
  let tokens ← tok.pay s.tokens pool.tokenA self provider amountA
  let tokens ← tok.pay tokens pool.tokenB self provider amountB
  .ok ((amountA, amountB), { s with tokens })

def removeLiquidity (env : Env) (provider : Address) (poolId : ℕ) (lpAmount : ℤ) (s : State τ) :
    Result ((ℤ × ℤ) × State τ) := do
  requireAuth env provider
  withReentrancyGuard (removeLiquidityInternal tok self provider poolId lpAmount) s

/-- The transfer of a positive protocol fee, where a collector is set. An amount
that is not collected stays with the contract. -/
def payCollector (s : State τ) (tokens : τ) (token : Address) (fee : ℤ) : Result τ :=
  if fee > 0 then
    match s.governanceCollector with
    | some collector => tok.pay tokens token self collector fee
    | none => .ok tokens
  else .ok tokens

/-- The direction of a swap: reserves in and out, and whether A is sold for B. -/
def swapSide (pool : Pool) (tokenIn : Address) : Result (ℤ × ℤ × Bool) :=
  if tokenIn = pool.tokenA then .ok (pool.reserveA, pool.reserveB, true)
  else if tokenIn = pool.tokenB then .ok (pool.reserveB, pool.reserveA, false)
  else .error (.panic "Token not in pool")

def swapInternal (user : Address) (poolId : ℕ) (tokenIn : Address) (amountIn minAmountOut : ℤ)
    (collectProtocolFee : Bool) (s : State τ) : Result (ℤ × State τ) := do
  panicIf (amountIn ≤ 0) "Input amount must be positive"
  let pool ← getPool s poolId
  panicIf (pool.reserveA ≤ 0 ∨ pool.reserveB ≤ 0) "Pool has no liquidity"
  let (reserveIn, reserveOut, isAToB) ← swapSide pool tokenIn
  let amountOut ← getAmountOut amountIn reserveIn reserveOut pool.feeBps
  panicIf (amountOut < minAmountOut) "Slippage tolerance exceeded"
  panicIf (amountOut ≤ 0) "Output amount is zero"
  let tokens ← tok.pay s.tokens tokenIn user self amountIn
  let tokenOut := if isAToB = true then pool.tokenB else pool.tokenA
  let fee ← protocolFee collectProtocolFee amountIn pool.feeBps s.protocolFeeShareBps
  let tokens ← payCollector tok self s tokens tokenIn fee
  let netAmountIn ← I128.sub amountIn fee
  let tokens ← tok.pay tokens tokenOut self user amountOut
  let pool ← settleReserves pool isAToB netAmountIn amountOut
  .ok (amountOut, setPool { s with tokens } pool)

def swap (env : Env) (user : Address) (poolId : ℕ) (tokenIn : Address)
    (amountIn minAmountOut : ℤ) (s : State τ) : Result (ℤ × State τ) := do
  requireAuth env user
  let s ← checkTradingAllowed env s
  withReentrancyGuard (swapInternal tok self user poolId tokenIn amountIn minAmountOut true) s

/-- The body of `flash_swap` under the reentrancy guard: lend, then collect. -/
def flashSwapInternal (borrower : Address) (poolId : ℕ) (tokenOut : Address) (amountOut : ℤ)
    (tokenIn : Address) (maxAmountIn : ℤ) (s : State τ) : Result (ℤ × State τ) := do
  let pool ← getPool s poolId
  validatePoolTokens pool tokenIn tokenOut
  let (reserveIn, reserveOut, outIsA) ← reservesForPair pool tokenIn tokenOut
  panicIf (reserveOut ≤ amountOut) "Insufficient pool liquidity for flash swap"
  let amountInRequired ← getAmountIn amountOut reserveIn reserveOut pool.feeBps
  panicIf (amountInRequired > maxAmountIn) "Flash swap repayment exceeds max_amount_in"
  let tokens ← tok.pay s.tokens tokenOut self borrower amountOut
  let tokens ← tok.pay tokens tokenIn borrower self amountInRequired
  let fee ← protocolFee true amountInRequired pool.feeBps s.protocolFeeShareBps
  let tokens ← payCollector tok self s tokens tokenIn fee
  let netIn ← I128.sub amountInRequired fee
  let pool ← settleReserves pool (!outIsA) netIn amountOut
  .ok (amountInRequired, setPool { s with tokens } pool)

def flashSwap (env : Env) (borrower : Address) (poolId : ℕ) (tokenOut : Address) (amountOut : ℤ)
    (tokenIn : Address) (maxAmountIn : ℤ) (s : State τ) : Result (ℤ × State τ) := do
  requireAuth env borrower
  let s ← checkTradingAllowed env s
  panicIf (amountOut ≤ 0) "Flash swap amount must be positive"
  withReentrancyGuard
    (flashSwapInternal tok self borrower poolId tokenOut amountOut tokenIn maxAmountIn) s

def depositLpRewards (env : Env) (admin : Address) (poolId : ℕ) (token : Address) (amount : ℤ)
    (s : State τ) : Result (State τ) := do
  requireAuth env admin
  assertAdmin s admin
  panicIf (amount ≤ 0) "Reward amount must be positive"
  let pool ← getPool s poolId
  panicIf (token ≠ pool.tokenA ∧ token ≠ pool.tokenB) "Token not in pool"
  let tokens ← tok.pay s.tokens token admin self amount
  let s := { s with tokens }
  let balance ← I128.add (getLpRewardBalance s poolId token) amount
  .ok (setLpRewardBalance s poolId token balance)

/-- `if share > 0 { .. }`: pay a share and take it off the reward balance that was
read before. -/
def payShare (provider : Address) (poolId : ℕ) (token : Address) (reward share : ℤ)
    (s : State τ) : Result (State τ) :=
  if share > 0 then do
    let tokens ← tok.pay s.tokens token self provider share
    let balance ← I128.sub reward share
    .ok (setLpRewardBalance { s with tokens } poolId token balance)
  else .ok s

def claimLpRewardsInternal (provider : Address) (poolId : ℕ) (s : State τ) :
    Result ((ℤ × ℤ) × State τ) := do
  let pool ← getPool s poolId
  let lpBalance := getLpBalance s poolId provider
  panicIf (lpBalance ≤ 0 ∨ pool.lpTotalSupply ≤ 0) "No LP tokens to claim rewards"
  let rewardA := getLpRewardBalance s poolId pool.tokenA
  let rewardB := getLpRewardBalance s poolId pool.tokenB
  let scaledA ← I128.mul rewardA lpBalance
  let shareA ← floorDiv scaledA pool.lpTotalSupply
  let scaledB ← I128.mul rewardB lpBalance
  let shareB ← floorDiv scaledB pool.lpTotalSupply
  panicIf (shareA ≤ 0 ∧ shareB ≤ 0) "No rewards to claim"
  let s ← payShare tok self provider poolId pool.tokenA rewardA shareA s
  let s ← payShare tok self provider poolId pool.tokenB rewardB shareB s
  .ok ((shareA, shareB), s)

def claimLpRewards (env : Env) (provider : Address) (poolId : ℕ) (s : State τ) :
    Result ((ℤ × ℤ) × State τ) := do
  requireAuth env provider
  withReentrancyGuard (claimLpRewardsInternal tok self provider poolId) s

def findBestRoute (env : Env) (tokenIn tokenOut : Address) (amountIn : ℤ) (maxHops : ℕ)
    (s : State τ) : Result (Route × State τ) := do
  panicIf (amountIn ≤ 0) "Input amount must be positive"
  panicIf (tokenIn = tokenOut) "Tokens must be different"
  panicIf (maxHops = 0 ∨ maxHops > 5) "Invalid max hops (1-5)"
  let s ← checkTradingAllowed env s
  let pools := List.range s.poolCounter
  let best ← bestDirect env s tokenIn tokenOut amountIn pools (none, 0)
  let pairs := if maxHops ≥ 2 then pools ×ˢ pools else []
  let best ← bestTwoHop env s tokenIn tokenOut amountIn pairs best
  let route ← expect best.1 "No valid route found"
  .ok (route, s)

/-- What `execute_multi_hop_swap` carries from hop to hop. -/
structure Progress where
  currentAmount : ℤ
  currentToken : Address
  totalFees : ℕ

/-- One iteration of the loop of `execute_multi_hop_swap`. -/
def executeHop (user : Address) (hopIndex : ℕ) (hop : Hop) (progress : Progress) (s : State τ) :
    Result (Progress × State τ) := do
  panicIf (hop.amountIn ≠ progress.currentAmount) s!"Hop amount mismatch at hop {hopIndex}"
  panicIf (hop.tokenIn ≠ progress.currentToken) s!"Hop token mismatch at hop {hopIndex}"
  let pool ← getPool s hop.poolId
  let (actualOutput, s) ←
    swapInternal tok self user hop.poolId hop.tokenIn hop.amountIn hop.minAmountOut false s
  let totalFees ← U32.add progress.totalFees pool.feeBps
  .ok ({ currentAmount := actualOutput, currentToken := hop.tokenOut, totalFees }, s)

def executeHops (user : Address) : ℕ → List Hop → Progress → State τ →
    Result (Progress × State τ)
  | _, [], progress, s => .ok (progress, s)
  | hopIndex, hop :: rest, progress, s => do
    let (progress, s) ← executeHop tok self user hopIndex hop progress s
    executeHops user (hopIndex + 1) rest progress s

def executeMultiHopSwap (env : Env) (user : Address) (route : Route) (minAmountOut : ℤ)
    (s : State τ) : Result (ℤ × State τ) := do
  requireAuth env user
  panicIf (route.amountIn ≤ 0) "Invalid route amount"
  panicIf (route.amountOut < minAmountOut) "Route output below slippage tolerance"
  let s ← checkTradingAllowed env s
  checkPositionLimits s user route.tokenIn route.amountIn
  let (progress, s) ← executeHops tok self user 0 route.hops
    { currentAmount := route.amountIn, currentToken := route.tokenIn, totalFees := 0 } s
  panicIf (progress.currentAmount < minAmountOut) "Final output below slippage tolerance"
  panicIf (progress.currentToken ≠ route.tokenOut) "Final token mismatch"
  let sold ← I128.fit (-route.amountIn)
  let s ← updateUserPosition env s user route.tokenIn sold
  let s ← updateUserPosition env s user route.tokenOut progress.currentAmount
  .ok (progress.currentAmount, s)

/-- Both trading switches. -/
def switchTrading (env : Env) (admin : Address) (paused : Bool) (s : State τ) :
    Result (State τ) := do
  requireAuth env admin
  assertAdmin s admin
  .ok { s with tradingPaused := paused }

def pauseTrading (env : Env) (admin : Address) (s : State τ) : Result (State τ) :=
  switchTrading env admin true s

def resumeTrading (env : Env) (admin : Address) (s : State τ) : Result (State τ) :=
  switchTrading env admin false s

def setAdmin (env : Env) (currentAdmin newAdmin : Address) (s : State τ) : Result (State τ) := do
  requireAuth env currentAdmin
  assertAdmin s currentAdmin
  .ok { s with admin := some newAdmin }

def setFeeConfig (env : Env) (admin governanceCollector : Address) (protocolFeeShareBps : ℕ)
    (s : State τ) : Result (State τ) := do
  requireAuth env admin
  assertAdmin s admin
  panicIf (protocolFeeShareBps > maxProtocolFeeShareBps) "Protocol fee share cannot exceed 50%"
  .ok { s with governanceCollector := some governanceCollector, protocolFeeShareBps }

def setRiskParameters (env : Env) (admin : Address) (params : RiskParams) (s : State τ) :
    Result (State τ) := do
  requireAuth env admin
  assertAdmin s admin
  panicIf (params.maxPositionPerUser ≤ 0) "Invalid max position per user"
  panicIf (params.maxPositionPerAsset ≤ 0) "Invalid max position per asset"
  panicIf (params.concentrationThresholdBps > 10000) "Invalid concentration threshold"
  panicIf (params.circuitBreakerThresholdBps > 10000) "Invalid circuit breaker threshold"
  panicIf (params.circuitBreakerCooldown = 0) "Invalid cooldown period"
  panicIf (params.minLpTokenThreshold ≤ 0) "Invalid LP token threshold"
  .ok { s with riskParams := params }

def triggerCircuitBreaker (env : Env) (admin : Address) (reason : String) (s : State τ) :
    Result (State τ) := do
  requireAuth env admin
  assertAdmin s admin
  let cooldownUntil ← U64.add env.timestamp s.riskParams.circuitBreakerCooldown
  .ok { s with
    circuitBreakerState := some
      { isActive := true, triggeredAt := env.timestamp, reason, cooldownUntil } }

inductive Op where
  | initializeContract (admin : Address) (governanceCollector : Option Address)
  | createPool (admin tokenA tokenB : Address) (feeBps : ℕ)
  | addLiquidity (provider : Address) (poolId : ℕ) (amountA amountB : ℤ)
  | removeLiquidity (provider : Address) (poolId : ℕ) (lpAmount : ℤ)
  | swap (user : Address) (poolId : ℕ) (tokenIn : Address) (amountIn minAmountOut : ℤ)
  | flashSwap (borrower : Address) (poolId : ℕ) (tokenOut : Address) (amountOut : ℤ)
      (tokenIn : Address) (maxAmountIn : ℤ)
  | depositLpRewards (admin : Address) (poolId : ℕ) (token : Address) (amount : ℤ)
  | claimLpRewards (provider : Address) (poolId : ℕ)
  | findBestRoute (tokenIn tokenOut : Address) (amountIn : ℤ) (maxHops : ℕ)
  | executeMultiHopSwap (user : Address) (route : Route) (minAmountOut : ℤ)
  | pauseTrading (admin : Address)
  | resumeTrading (admin : Address)
  | setAdmin (currentAdmin newAdmin : Address)
  | setFeeConfig (admin governanceCollector : Address) (protocolFeeShareBps : ℕ)
  | setRiskParameters (admin : Address) (params : RiskParams)
  | triggerCircuitBreaker (admin : Address) (reason : String)

/-- The state an invocation leaves behind. -/
def invoke (env : Env) (op : Op) (s : State τ) : Result (State τ) :=
  match op with
  | .initializeContract admin collector => initializeContract env admin collector s
  | .createPool admin tokenA tokenB feeBps =>
    (createPool env admin tokenA tokenB feeBps s).map (·.2)
  | .addLiquidity provider poolId amountA amountB =>
    (addLiquidity tok self env provider poolId amountA amountB s).map (·.2)
  | .removeLiquidity provider poolId lpAmount =>
    (removeLiquidity tok self env provider poolId lpAmount s).map (·.2)
  | .swap user poolId tokenIn amountIn minAmountOut =>
    (swap tok self env user poolId tokenIn amountIn minAmountOut s).map (·.2)
  | .flashSwap borrower poolId tokenOut amountOut tokenIn maxAmountIn =>
    (flashSwap tok self env borrower poolId tokenOut amountOut tokenIn maxAmountIn s).map (·.2)
  | .depositLpRewards admin poolId token amount =>
    depositLpRewards tok self env admin poolId token amount s
  | .claimLpRewards provider poolId => (claimLpRewards tok self env provider poolId s).map (·.2)
  | .findBestRoute tokenIn tokenOut amountIn maxHops =>
    (findBestRoute env tokenIn tokenOut amountIn maxHops s).map (·.2)
  | .executeMultiHopSwap user route minAmountOut =>
    (executeMultiHopSwap tok self env user route minAmountOut s).map (·.2)
  | .pauseTrading admin => pauseTrading env admin s
  | .resumeTrading admin => resumeTrading env admin s
  | .setAdmin currentAdmin newAdmin => setAdmin env currentAdmin newAdmin s
  | .setFeeConfig admin collector share => setFeeConfig env admin collector share s
  | .setRiskParameters admin params => setRiskParameters env admin params s
  | .triggerCircuitBreaker admin reason => triggerCircuitBreaker env admin reason s

/-- An invocation, or transfers of tokens in which the contract has no part. -/
inductive Action (τ : Type) where
  | call (env : Env) (op : Op)
  | transfers (tokens : τ)

def next (a : Action τ) (s : State τ) : Result (State τ) :=
  match a with
  | .call env op => invoke tok self env op s
  | .transfers tokens => .ok { s with tokens }

end Amm
