import StellAIverse.CollateralManagement.Math
import StellAIverse.Soroban.Token

/-!
# The collateral and lending contract

Users deposit collateral of registered types, borrow any token the contract
holds against it, and are liquidated when the position becomes unhealthy.
Collateral, borrowed and repaid tokens share the contract's account. Storage and
every entry point that writes, in the order of the source; events and getters are
left out.
-/

namespace CollateralManagement

open Soroban

def maxLtvBps : ℕ := 9500

def maxLiqThresholdBps : ℕ := 9800

def maxLiqBonusBps : ℕ := 2000

/-- Configuration of a supported collateral type. -/
structure CollateralTypeConfig where
  token : Address
  oracleFeed : String
  ltvBps : ℕ
  liqThresholdBps : ℕ
  liqBonusBps : ℕ
  /-- Max total deposit across all users, 0 for unlimited. -/
  collateralCap : ℤ
  isActive : Bool
  priceScale : ℤ

structure UserCollateral where
  user : Address
  token : Address
  amount : ℤ
  lastUpdated : ℕ

structure Loan where
  loanId : ℕ
  borrower : Address
  borrowToken : Address
  principal : ℤ
  accruedInterest : ℤ
  totalDebt : ℤ
  interestRateBps : ℕ
  createdAt : ℕ
  lastAccrualUpdate : ℕ
  isLiquidated : Bool
  isRepaid : Bool

/-- Contract storage together with the token state. -/
structure State (τ : Type) where
  initialized : Bool
  admin : Option Address
  oracle : Option Address
  treasury : Option Address
  loanCounter : ℕ
  collateralType : Store Address CollateralTypeConfig
  collateralTokens : List Address
  userCollateral : Store (Address × Address) UserCollateral
  protocolParams : ProtocolParams
  totalDebt : Store Address ℤ
  paused : Bool
  reentrancyLock : Bool
  totalCollateral : Store Address ℤ
  lendingPoolDeposits : Store Address ℤ
  loan : Store ℕ Loan
  userLoanIds : Store Address (List ℕ)
  priceCache : Store String ℤ
  tokens : τ

variable {τ : Type}

/-- Empty storage, with the default of every getter. -/
def deployed (tokens : τ) : State τ where
  initialized := false
  admin := none
  oracle := none
  treasury := none
  loanCounter := 0
  collateralType := .empty
  collateralTokens := []
  userCollateral := .empty
  protocolParams := {
    debtCeiling := 0
    liqHealthThresholdBps := 10000
    baseInterestRateBps := 200
    interestSlope1Bps := 400
    interestSlope2Bps := 7500
    optimalUtilizationBps := 8000
    maxBorrowPerUser := 0
    maxCollateralPerUser := 0 }
  totalDebt := .empty
  paused := false
  reentrancyLock := false
  totalCollateral := .empty
  lendingPoolDeposits := .empty
  loan := .empty
  userLoanIds := .empty
  priceCache := .empty
  tokens := tokens

/-- What the host and the linked oracle contract tell one invocation. -/
structure Ledger extends Env where
  /-- The answer of the contract at the address to `get_price`; `none` if that call fails. -/
  getPrice : Address → String → Option ℤ

def getUserCollateral (s : State τ) (user token : Address) : UserCollateral :=
  (s.userCollateral.get? (user, token)).getD ⟨user, token, 0, 0⟩

def setUserCollateral (collateral : UserCollateral) (s : State τ) : State τ :=
  { s with userCollateral := s.userCollateral.set (collateral.user, collateral.token) collateral }

def getUserLoanIds (s : State τ) (user : Address) : List ℕ := (s.userLoanIds.get? user).getD []

def addUserLoanId (user : Address) (loanId : ℕ) (s : State τ) : State τ :=
  { s with userLoanIds := s.userLoanIds.set user (getUserLoanIds s user ++ [loanId]) }

def setLoan (loan : Loan) (s : State τ) : State τ :=
  { s with loan := s.loan.set loan.loanId loan }

def setTotalDebt (token : Address) (amount : ℤ) (s : State τ) : State τ :=
  { s with totalDebt := s.totalDebt.set token amount }

def setTotalCollateralForType (token : Address) (amount : ℤ) (s : State τ) : State τ :=
  { s with totalCollateral := s.totalCollateral.set token amount }

/-- `rbac::require_admin`, whose errors all become the same panic. -/
def assertAdmin (s : State τ) (caller : Address) : Result Unit :=
  panicIf (s.admin ≠ some caller) "Unauthorized"

def checkPaused (s : State τ) : Result Unit := panicIf (s.paused = true) "Protocol is paused"

def withGuard (f : State τ → Result (State τ)) (s : State τ) : Result (State τ) := do
  panicIf (s.reentrancyLock = true) "Reentrancy detected"
  let s ← f { s with reentrancyLock := true }
  .ok { s with reentrancyLock := false }

/-- The loop over the loans of a user, adding up the open ones that count. -/
def sumDebts (counts : Loan → Bool) (s : State τ) : List ℕ → ℤ → Result ℤ
  | [], total => .ok total
  | id :: rest, total => do
    let loan ← expect (s.loan.get? id) "Loan not found"
    if loan.isLiquidated = false ∧ loan.isRepaid = false ∧ counts loan = true then do
      let total ← I128.add total loan.totalDebt
      sumDebts counts s rest total
    else sumDebts counts s rest total

def userTotalDebt (s : State τ) (user : Address) : Result ℤ :=
  sumDebts (fun loan => loan.borrower = user) s (getUserLoanIds s user) 0

def userDebtForToken (s : State τ) (user token : Address) : Result ℤ :=
  sumDebts (fun loan => loan.borrower = user ∧ loan.borrowToken = token) s (getUserLoanIds s user) 0

/-- The cached price of a feed, or else the oracle's. -/
def getOraclePrice (env : Ledger) (s : State τ) (feedId : String) : Result ℤ :=
  match s.priceCache.get? feedId with
  | some price => .ok price
  | none => do
    let oracle ← expect s.oracle "oracle not set"
    let result ← okOr (env.getPrice oracle feedId) .callFailed
    panicIf (result ≤ 0) "Oracle price unavailable"
    .ok result

/-- What an amount of collateral is worth, where there is some of a known type. -/
def collateralWorth (env : Ledger) (s : State τ) (token : Address) (amount : ℤ) :
    Result (Option (CollateralTypeConfig × ℤ)) :=
  if amount > 0 then
    match s.collateralType.get? token with
    | some cfg => do
      let price ← getOraclePrice env s cfg.oracleFeed
      let scaled ← I128.mul amount price
      let value ← I128.div scaled cfg.priceScale
      .ok (some (cfg, value))
    | none => .ok none
  else .ok none

/-- The loop that adds up the worth of the amounts. -/
def sumValues (env : Ledger) (s : State τ) (amountOf : Address → ℤ) : List Address → ℤ → Result ℤ
  | [], total => .ok total
  | token :: rest, total => do
    match ← collateralWorth env s token (amountOf token) with
    | some (_, value) =>
      let total ← I128.add total value
      sumValues env s amountOf rest total
    | none => sumValues env s amountOf rest total

def totalCollateralValue (env : Ledger) (s : State τ) (user : Address) : Result ℤ :=
  sumValues env s (fun token => (getUserCollateral s user token).amount) s.collateralTokens 0

def totalCollateralValueOverride (env : Ledger) (s : State τ) (user overrideToken : Address)
    (overrideAmt : ℤ) : Result ℤ :=
  sumValues env s
    (fun token => if token = overrideToken then overrideAmt
      else (getUserCollateral s user token).amount) s.collateralTokens 0

/-- The loop that weighs the liquidation thresholds with the worth of the amounts. -/
def weighThresholds (env : Ledger) (s : State τ) (amountOf : Address → ℤ) :
    List Address → ℤ → ℤ → Result ℕ
  | [], weightedSum, totalValue =>
    if totalValue ≤ 0 then .ok 0
    else do
      let weighted ← I128.div weightedSum totalValue
      .ok (U32.ofInt (min weighted U32.max))
  | token :: rest, weightedSum, totalValue => do
    match ← collateralWorth env s token (amountOf token) with
    | some (cfg, value) =>
      let totalValue ← I128.add totalValue value
      let weight ← I128.mul value cfg.liqThresholdBps
      let weightedSum ← I128.add weightedSum weight
      weighThresholds env s amountOf rest weightedSum totalValue
    | none => weighThresholds env s amountOf rest weightedSum totalValue

def weightedThreshold (env : Ledger) (s : State τ) (user : Address) : Result ℕ :=
  weighThresholds env s (fun token => (getUserCollateral s user token).amount) s.collateralTokens 0 0

def weightedThresholdOverride (env : Ledger) (s : State τ) (user overrideToken : Address)
    (overrideAmt : ℤ) : Result ℕ :=
  weighThresholds env s
    (fun token => if token = overrideToken then overrideAmt
      else (getUserCollateral s user token).amount) s.collateralTokens 0 0

def calcUserHealth (env : Ledger) (s : State τ) (user : Address) : Result HealthFactor := do
  let debt ← userTotalDebt s user
  let value ← totalCollateralValue env s user
  let wt ← weightedThreshold env s user
  calculateHealthFactor value debt wt

/-- The loop that looks for the collateral of highest value. -/
def seekBest (env : Ledger) (s : State τ) (borrower : Address) :
    List Address → Option (Address × CollateralTypeConfig × ℤ) →
      Result (Option (Address × CollateralTypeConfig × ℤ))
  | [], best => .ok best
  | token :: rest, best => do
    match ← collateralWorth env s token (getUserCollateral s borrower token).amount with
    | some (cfg, value) =>
      match best with
      | none => seekBest env s borrower rest (some (token, cfg, value))
      | some (_, _, bestVal) =>
        seekBest env s borrower rest (if value > bestVal then some (token, cfg, value) else best)
    | none => seekBest env s borrower rest best

def bestSeizeCollateral (env : Ledger) (s : State τ) (borrower : Address) :
    Result (Option (Address × CollateralTypeConfig)) := do
  let best ← seekBest env s borrower s.collateralTokens none
  .ok (best.map fun b => (b.1, b.2.1))

def requireUserLoan (s : State τ) (borrower : Address) (loanId : ℕ) : Result Loan :=
  if loanId ∈ getUserLoanIds s borrower then expect (s.loan.get? loanId) "Loan not found"
  else .error (.panic "Loan not found")

/-- The loan with its interest up to now; the total of its token is written at once, the
loan itself is left to the caller. -/
def accrueLoan (env : Ledger) (loan : Loan) (s : State τ) : Result (Loan × State τ) :=
  if loan.isLiquidated = true ∨ loan.isRepaid = true then .ok (loan, s)
  else
    let delta : ℤ := (env.timestamp : ℤ) - loan.lastAccrualUpdate
    if delta ≤ 0 then .ok (loan, s)
    else do
      let interest ← calculateAccruedInterest loan.principal loan.interestRateBps delta
      if interest > 0 then do
        let accruedInterest ← I128.add loan.accruedInterest interest
        let totalDebt ← I128.add loan.principal accruedInterest
        let current ← I128.add (s.totalDebt.amount loan.borrowToken) interest
        .ok ({ loan with accruedInterest, totalDebt, lastAccrualUpdate := env.timestamp },
          setTotalDebt loan.borrowToken current s)
      else .ok (loan, s)

def accrueOne (env : Ledger) (borrower : Address) (loanId : ℕ) (s : State τ) : Result (State τ) := do
  let loan ← requireUserLoan s borrower loanId
  let (loan, s) ← accrueLoan env loan s
  .ok (setLoan loan s)

/-- The loop over the loans of a borrower. -/
def accrueEach (env : Ledger) (borrower : Address) : List ℕ → State τ → Result (State τ)
  | [], s => .ok s
  | loanId :: rest, s => do
    let s ← accrueOne env borrower loanId s
    accrueEach env borrower rest s

/-- Take a payment off a loan, interest first; `close` marks a loan without remaining debt. -/
def payDown (close : Loan → Loan) (loan : Loan) (amount : ℤ) : Result Loan := do
  let newDebt ← I128.sub loan.totalDebt amount
  let interestPaid := min amount loan.accruedInterest
  let principalPaid ← I128.sub amount interestPaid
  let accruedInterest ← I128.sub loan.accruedInterest interestPaid
  let principal ← I128.sub loan.principal principalPaid
  .ok (if newDebt ≤ 0 then close { loan with totalDebt := 0, principal := 0, accruedInterest := 0 }
    else { loan with accruedInterest, principal, totalDebt := newDebt })

def initializeContract (env : Ledger) (admin oracle : Address) (treasury : Option Address) (s : State τ) :
    Result (State τ) := do
  panicIf (s.initialized = true) "Contract already initialized"
  requireAuth env.toEnv admin
  .ok { s with
    admin := some admin
    oracle := some oracle
    treasury := treasury.or s.treasury
    initialized := true
    paused := false
    reentrancyLock := false
    loanCounter := 0 }

def validateRisk (ltvBps liqThresholdBps liqBonusBps : ℕ) : Result Unit := do
  panicIf (ltvBps > maxLtvBps) "Invalid LTV parameter"
  panicIf (liqThresholdBps > maxLiqThresholdBps ∨ liqThresholdBps < ltvBps)
    "Invalid liquidation parameters"
  panicIf (liqBonusBps > maxLiqBonusBps) "Invalid liquidation parameters"

def registerCollateralType (env : Ledger) (admin token : Address) (oracleFeed : String)
    (ltvBps liqThresholdBps liqBonusBps : ℕ) (collateralCap priceScale : ℤ) (s : State τ) :
    Result (State τ) := do
  requireAuth env.toEnv admin
  assertAdmin s admin
  checkPaused s
  panicIf ((s.collateralType.get? token).isSome = true) "Collateral type already exists"
  validateRisk ltvBps liqThresholdBps liqBonusBps
  panicIf (collateralCap < 0 ∨ priceScale ≤ 0) "Invalid amount"
  let config : CollateralTypeConfig := {
    token, oracleFeed, ltvBps, liqThresholdBps, liqBonusBps, collateralCap
    isActive := true
    priceScale }
  .ok { s with
    collateralType := s.collateralType.set config.token config
    collateralTokens := s.collateralTokens ++ [token] }

def updateCollateralType (env : Ledger) (admin token : Address)
    (ltvBps liqThresholdBps liqBonusBps : ℕ) (collateralCap : ℤ) (s : State τ) :
    Result (State τ) := do
  requireAuth env.toEnv admin
  assertAdmin s admin
  checkPaused s
  let config ← expect (s.collateralType.get? token) "Collateral type not found"
  validateRisk ltvBps liqThresholdBps liqBonusBps
  let config := { config with ltvBps, liqThresholdBps, liqBonusBps, collateralCap }
  .ok { s with collateralType := s.collateralType.set config.token config }

/-- `deactivate_collateral_type` and `reactivate_collateral_type`. -/
def setCollateralActive (isActive : Bool) (env : Ledger) (admin token : Address) (s : State τ) :
    Result (State τ) := do
  requireAuth env.toEnv admin
  assertAdmin s admin
  let config ← expect (s.collateralType.get? token) "Collateral type not found"
  let config := { config with isActive }
  .ok { s with collateralType := s.collateralType.set config.token config }

def deactivateCollateralType (env : Ledger) (admin token : Address) (s : State τ) :
    Result (State τ) :=
  setCollateralActive false env admin token s

def reactivateCollateralType (env : Ledger) (admin token : Address) (s : State τ) :
    Result (State τ) :=
  setCollateralActive true env admin token s

def setProtocolParameters (env : Ledger) (admin : Address) (params : ProtocolParams) (s : State τ) :
    Result (State τ) := do
  requireAuth env.toEnv admin
  assertAdmin s admin
  .ok { s with protocolParams := params }

def setPrice (env : Ledger) (admin : Address) (feedId : String) (price : ℤ) (s : State τ) :
    Result (State τ) := do
  requireAuth env.toEnv admin
  assertAdmin s admin
  panicIf (price ≤ 0) "Invalid amount"
  .ok { s with priceCache := s.priceCache.set feedId price }

/-- `pause` and `unpause`. -/
def setPaused (paused : Bool) (env : Ledger) (admin : Address) (s : State τ) : Result (State τ) := do
  requireAuth env.toEnv admin
  assertAdmin s admin
  .ok { s with paused }

def pause (env : Ledger) (admin : Address) (s : State τ) : Result (State τ) :=
  setPaused true env admin s

def unpause (env : Ledger) (admin : Address) (s : State τ) : Result (State τ) :=
  setPaused false env admin s

variable (tok : Token τ) (self : Address)

/-- The cap of the collateral type and the cap of the user. -/
def checkDepositCaps (config : CollateralTypeConfig) (user token : Address) (amount : ℤ)
    (s : State τ) : Result Unit := do
  if config.collateralCap > 0 then do
    let after ← I128.add (s.totalCollateral.amount token) amount
    panicIf (after > config.collateralCap) "Collateral cap exceeded"
  if s.protocolParams.maxCollateralPerUser > 0 then do
    let after ← I128.add (getUserCollateral s user token).amount amount
    panicIf (after > s.protocolParams.maxCollateralPerUser) "Per-user collateral cap exceeded"

def depositCollateral (env : Ledger) (user token : Address) (amount : ℤ) (s : State τ) :
    Result (State τ) := do
  requireAuth env.toEnv user
  checkPaused s
  panicIf (amount ≤ 0) "Invalid amount"
  let config ← expect (s.collateralType.get? token) "Collateral type not found"
  panicIf (config.isActive = false) "Collateral type inactive"
  checkDepositCaps config user token amount s
  let tokens ← tok.pay s.tokens token user self amount
  let s := { s with tokens }
  let userColl := getUserCollateral s user token
  let recorded ← I128.add userColl.amount amount
  let s := setUserCollateral { userColl with amount := recorded, lastUpdated := env.timestamp } s
  let total ← I128.add (s.totalCollateral.amount token) amount
  .ok (setTotalCollateralForType token total s)

/-- A user with debt keeps a healthy position with what remains of the token. -/
def checkWithdrawal (env : Ledger) (user token : Address) (remaining : ℤ) (s : State τ) :
    Result Unit := do
  let totalDebt ← userTotalDebt s user
  if totalDebt > 0 then do
    let totalValue ← totalCollateralValueOverride env s user token remaining
    let wt ← weightedThresholdOverride env s user token remaining
    let hf ← calculateHealthFactor totalValue totalDebt wt
    panicIf (hf.healthFactorBps < s.protocolParams.liqHealthThresholdBps)
      "Withdrawal would undercollateralize position"

def withdrawInternal (env : Ledger) (user token : Address) (amount : ℤ) (s : State τ) :
    Result (State τ) := do
  panicIf (amount ≤ 0) "Invalid amount"
  let userColl := getUserCollateral s user token
  panicIf (userColl.amount < amount) "Insufficient collateral balance"
  let remaining ← I128.sub userColl.amount amount
  checkWithdrawal env user token remaining s
  let tokens ← tok.pay s.tokens token self user amount
  let s := setUserCollateral { userColl with amount := remaining, lastUpdated := env.timestamp }
    { s with tokens }
  let total ← I128.sub (s.totalCollateral.amount token) amount
  .ok (setTotalCollateralForType token total s)

def withdrawCollateral (env : Ledger) (user token : Address) (amount : ℤ) (s : State τ) :
    Result (State τ) := do
  requireAuth env.toEnv user
  checkPaused s
  withGuard (withdrawInternal tok self env user token amount) s

/-- The checks of a borrow that only look: the caps, with the debts as they are stored. -/
def checkBorrowCaps (user borrowToken : Address) (amount : ℤ) (s : State τ) : Result Unit := do
  if s.protocolParams.maxBorrowPerUser > 0 then do
    let existing ← userDebtForToken s user borrowToken
    let after ← I128.add existing amount
    panicIf (after > s.protocolParams.maxBorrowPerUser) "Per-user borrow cap exceeded"
  if s.protocolParams.debtCeiling > 0 then do
    let after ← I128.add (s.totalDebt.amount borrowToken) amount
    panicIf (after > s.protocolParams.debtCeiling) "Protocol debt ceiling exceeded"

/-- The health of the position after a borrow, with interest accrued. -/
def checkBorrowHealth (env : Ledger) (user : Address) (amount : ℤ) (s : State τ) : Result Unit := do
  let debt ← userTotalDebt s user
  let totalDebtAfter ← I128.add debt amount
  let value ← totalCollateralValue env s user
  if totalDebtAfter > 0 then do
    panicIf (value ≤ 0) "Health factor below liquidation threshold"
    let wt ← weightedThreshold env s user
    let hf ← calculateHealthFactor value totalDebtAfter wt
    panicIf (hf.healthFactorBps < s.protocolParams.liqHealthThresholdBps)
      "Health factor below liquidation threshold"

def borrowInternal (env : Ledger) (user borrowToken : Address) (amount : ℤ) (s : State τ) :
    Result (State τ) := do
  panicIf (amount ≤ 0) "Invalid amount"
  checkBorrowCaps user borrowToken amount s
  let s ← accrueEach env user (getUserLoanIds s user) s
  checkBorrowHealth env user amount s
  let debt := s.totalDebt.amount borrowToken
  let util ← calculateUtilization debt (s.lendingPoolDeposits.amount borrowToken)
  let rate ← calculateInterestRate s.protocolParams util
  let loanId := s.loanCounter
  let loan : Loan := {
    loanId
    borrower := user
    borrowToken
    principal := amount
    accruedInterest := 0
    totalDebt := amount
    interestRateBps := rate
    createdAt := env.timestamp
    lastAccrualUpdate := env.timestamp
    isLiquidated := false
    isRepaid := false }
  let s := addUserLoanId user loanId (setLoan loan s)
  let loanCounter ← U64.add loanId 1
  let total ← I128.add debt amount
  let s := setTotalDebt borrowToken total { s with loanCounter }
  let tokens ← tok.pay s.tokens borrowToken self user amount
  .ok { s with tokens }

def borrow (env : Ledger) (user borrowToken : Address) (amount : ℤ) (s : State τ) :
    Result (State τ) := do
  requireAuth env.toEnv user
  checkPaused s
  withGuard (borrowInternal tok self env user borrowToken amount) s

/-- The loan of a borrower, unless it is closed. -/
def requireOpenLoan (s : State τ) (borrower : Address) (loanId : ℕ) : Result Loan := do
  let loan ← requireUserLoan s borrower loanId
  panicIf (loan.isLiquidated = true) "Loan already liquidated"
  panicIf (loan.isRepaid = true) "Loan already repaid"
  .ok loan

def repayInternal (env : Ledger) (user : Address) (loanId : ℕ) (amount : ℤ) (s : State τ) :
    Result (State τ) := do
  panicIf (amount ≤ 0) "Invalid amount"
  let loan ← requireOpenLoan s user loanId
  let (loan, s) ← accrueLoan env loan s
  panicIf (amount > loan.totalDebt) "Repayment exceeds outstanding debt"
  let tokens ← tok.pay s.tokens loan.borrowToken user self amount
  let loan ← payDown (fun loan => { loan with isRepaid := true }) loan amount
  let s := setLoan loan { s with tokens }
  let current ← I128.sub (s.totalDebt.amount loan.borrowToken) amount
  .ok (setTotalDebt loan.borrowToken current s)

def repayLoan (env : Ledger) (user : Address) (loanId : ℕ) (amount : ℤ) (s : State τ) :
    Result (State τ) := do
  requireAuth env.toEnv user
  checkPaused s
  withGuard (repayInternal tok self env user loanId amount) s

def liquidateInternal (env : Ledger) (liquidator borrower : Address) (loanId : ℕ)
    (debtToCover : ℤ) (s : State τ) : Result (State τ) := do
  panicIf (debtToCover ≤ 0) "Invalid amount"
  let loan ← requireOpenLoan s borrower loanId
  let (loan, s) ← accrueLoan env loan s
  let hf ← calcUserHealth env s borrower
  panicIf (hf.healthFactorBps ≥ s.protocolParams.liqHealthThresholdBps)
    "Health factor below liquidation threshold"
  let actualCovered := min debtToCover loan.totalDebt
  let best ← bestSeizeCollateral env s borrower
  let (collToken, collConfig) ← expect best "No collateral available to seize"
  let oraclePrice ← getOraclePrice env s collConfig.oracleFeed
  let (collSeized, _) ← calculateLiquidationSeizure actualCovered oraclePrice collConfig.liqBonusBps
  let userColl := getUserCollateral s borrower collToken
  panicIf (userColl.amount < collSeized) "No collateral available to seize"
  let tokens ← tok.pay s.tokens loan.borrowToken liquidator self actualCovered
  let tokens ← tok.pay tokens collToken self liquidator collSeized
  let remaining ← I128.sub userColl.amount collSeized
  let s := setUserCollateral { userColl with amount := remaining, lastUpdated := env.timestamp }
    { s with tokens }
  let total ← I128.sub (s.totalCollateral.amount collToken) collSeized
  let s := setTotalCollateralForType collToken total s
  let loan ← payDown (fun loan => { loan with isLiquidated := true }) loan actualCovered
  let s := setLoan loan s
  let currentDebt ← I128.sub (s.totalDebt.amount loan.borrowToken) actualCovered
  .ok (setTotalDebt loan.borrowToken currentDebt s)

def liquidate (env : Ledger) (liquidator borrower : Address) (loanId : ℕ) (debtToCover : ℤ)
    (s : State τ) : Result (State τ) := do
  requireAuth env.toEnv liquidator
  checkPaused s
  withGuard (liquidateInternal tok self env liquidator borrower loanId debtToCover) s

def accrueInterest (env : Ledger) (borrower : Address) (loanId : ℕ) (s : State τ) :
    Result (State τ) :=
  accrueOne env borrower loanId s

def accrueAllInterest (env : Ledger) (borrower : Address) (s : State τ) : Result (State τ) :=
  accrueEach env borrower (getUserLoanIds s borrower) s

inductive Op where
  | initializeContract (admin oracle : Address) (treasury : Option Address)
  | registerCollateralType (admin token : Address) (oracleFeed : String)
      (ltvBps liqThresholdBps liqBonusBps : ℕ) (collateralCap priceScale : ℤ)
  | updateCollateralType (admin token : Address) (ltvBps liqThresholdBps liqBonusBps : ℕ)
      (collateralCap : ℤ)
  | deactivateCollateralType (admin token : Address)
  | reactivateCollateralType (admin token : Address)
  | setProtocolParameters (admin : Address) (params : ProtocolParams)
  | setPrice (admin : Address) (feedId : String) (price : ℤ)
  | pause (admin : Address)
  | unpause (admin : Address)
  | depositCollateral (user token : Address) (amount : ℤ)
  | withdrawCollateral (user token : Address) (amount : ℤ)
  | borrow (user borrowToken : Address) (amount : ℤ)
  | repayLoan (user : Address) (loanId : ℕ) (amount : ℤ)
  | liquidate (liquidator borrower : Address) (loanId : ℕ) (debtToCover : ℤ)
  | accrueInterest (borrower : Address) (loanId : ℕ)
  | accrueAllInterest (borrower : Address)

def invoke (env : Ledger) (op : Op) (s : State τ) : Result (State τ) :=
  match op with
  | .initializeContract admin oracle treasury => initializeContract env admin oracle treasury s
  | .registerCollateralType admin token oracleFeed ltvBps liqThresholdBps liqBonusBps collateralCap
      priceScale =>
    registerCollateralType env admin token oracleFeed ltvBps liqThresholdBps liqBonusBps collateralCap
      priceScale s
  | .updateCollateralType admin token ltvBps liqThresholdBps liqBonusBps collateralCap =>
    updateCollateralType env admin token ltvBps liqThresholdBps liqBonusBps collateralCap s
  | .deactivateCollateralType admin token => deactivateCollateralType env admin token s
  | .reactivateCollateralType admin token => reactivateCollateralType env admin token s
  | .setProtocolParameters admin params => setProtocolParameters env admin params s
  | .setPrice admin feedId price => setPrice env admin feedId price s
  | .pause admin => pause env admin s
  | .unpause admin => unpause env admin s
  | .depositCollateral user token amount => depositCollateral tok self env user token amount s
  | .withdrawCollateral user token amount => withdrawCollateral tok self env user token amount s
  | .borrow user borrowToken amount => borrow tok self env user borrowToken amount s
  | .repayLoan user loanId amount => repayLoan tok self env user loanId amount s
  | .liquidate liquidator borrower loanId debtToCover =>
    liquidate tok self env liquidator borrower loanId debtToCover s
  | .accrueInterest borrower loanId => accrueInterest env borrower loanId s
  | .accrueAllInterest borrower => accrueAllInterest env borrower s

/-- An invocation, or transfers of tokens in which the contract has no part. -/
inductive Action (τ : Type) where
  | call (env : Ledger) (op : Op)
  | transfers (tokens : τ)

def next (a : Action τ) (s : State τ) : Result (State τ) :=
  match a with
  | .call env op => invoke tok self env op s
  | .transfers tokens => .ok { s with tokens }

end CollateralManagement
