import StellAIverse.PortfolioManager.Contract

/-!
# What each call does

A portfolio is created, shares are bought and sold, its assets are revalued, its
targets or its other parameters change. What a revaluation adds to the assets is a
function of the call and of the state it finds.
-/

namespace PortfolioManager

open Soroban

variable {τ : Type}

def priceOf (positions : Positions) (portfolioId assetIndex : ℕ) : ℤ :=
  match positions.get? (portfolioId, assetIndex) with
  | some pos => pos.lastPrice
  | none => 0

/-- What balances are worth at the prices last known, from an index on. -/
def statedValue (positions : Positions) (portfolioId : ℕ) : List ℤ → ℕ → ℤ
  | [], _ => 0
  | balance :: rest, i =>
    (balance * priceOf positions portfolioId i).tdiv precisionFactor +
      statedValue positions portfolioId rest (i + 1)

/-- One of the positions at these indices is in the token. -/
def heldIn (positions : Positions) (portfolioId : ℕ) (indices : List ℕ) (token : Address) : Bool :=
  indices.any fun j =>
    match positions.get? (portfolioId, j) with
    | some pos => decide (pos.token = token)
    | none => false

/-- The dividends that are in a token of the portfolio. -/
def statedDividends (positions : Positions) (portfolioId assets : ℕ)
    (dividends : List (Address × ℤ)) : ℤ :=
  (dividends.map fun d =>
    if heldIn positions portfolioId (List.range' 0 assets) d.1 = true then d.2 else 0).sum

/-- What a rebalance adds to the assets of a portfolio. -/
def rebalanceRise (s : State τ) (portfolioId : ℕ) (newAssetBalances : List ℤ)
    (portfolio : Portfolio) : ℤ :=
  statedValue s.assetPosition portfolioId newAssetBalances 0 - portfolio.totalAssets

/-- The portfolio whose assets a call revalues, and what it adds to them. -/
def Op.rise (env : Env) (s : State τ) : Op → Option (ℕ × ℤ)
  | .rebalance _ portfolioId _ _ newAssetBalances =>
    (s.portfolio.get? portfolioId).map fun portfolio =>
      (portfolioId, rebalanceRise s portfolioId newAssetBalances portfolio)
  | .checkAndRebalance _ portfolioId newAssetBalances _ _ =>
    match rebalanceDue env portfolioId newAssetBalances s with
    | .ok true => (s.portfolio.get? portfolioId).map fun portfolio =>
        (portfolioId, rebalanceRise s portfolioId newAssetBalances portfolio)
    | _ => none
  | .updateAssetPosition _ portfolioId assetIndex newBalance price =>
    (s.assetPosition.get? (portfolioId, assetIndex)).map fun pos =>
      (portfolioId, (newBalance * price).tdiv precisionFactor -
        (pos.balance * pos.lastPrice).tdiv precisionFactor)
  | .collectDividends _ portfolioId dividendAmounts =>
    (s.portfolio.get? portfolioId).map fun portfolio =>
      (portfolioId, statedDividends s.assetPosition portfolioId portfolio.targetWeights.length
        dividendAmounts)
  | _ => none

/-- The position keeps its token and its target. -/
def SameTarget (pos pos' : AssetPosition) : Prop :=
  pos'.token = pos.token ∧ pos'.targetWeightBps = pos.targetWeightBps

theorem SameTarget.refl (pos : AssetPosition) : SameTarget pos pos := ⟨rfl, rfl⟩

/-- The portfolio keeps its number, its targets, its deposit token and its shares. -/
structure Amends (portfolio portfolio' : Portfolio) : Prop where
  portfolioId : portfolio'.portfolioId = portfolio.portfolioId
  targetWeights : portfolio'.targetWeights = portfolio.targetWeights
  depositToken : portfolio'.depositToken = portfolio.depositToken
  totalSupply : portfolio'.totalSupply = portfolio.totalSupply

/-- What weighs in a portfolio for a user. -/
def sharesOf (s : State τ) (user : Address) (portfolioId : ℕ) : ℤ :=
  match s.userPosition.get? (user, portfolioId) with
  | some pos => pos.shares
  | none => 0

inductive Effect (tok : Token τ) (self : Address) (s : State τ) : Action τ → State τ → Prop
  | transfers (tokens : τ) : Effect tok self s (.transfers tokens) { s with tokens }
  | configured (env : Env) (op : Op) (admin : Option Address) (paused reentrancyLock : Option Bool) :
      Effect tok self s (.call env op) { s with admin, paused, reentrancyLock }
  | created (env : Env) (op : Op) (settings : Settings)
      (performanceAccumulator : Store ℕ PerformanceAccumulator)
      (valid : weightSum settings.allocations = bpsDenominator ∨
        ∃ id source, s.portfolio.get? id = some source ∧
          settings.allocations = source.targetWeights) :
      Effect tok self s (.call env op)
        { s with
          portfolioCounter := some (s.portfolioCounter.getD 0 + 1)
          portfolio := s.portfolio.set (s.portfolioCounter.getD 0 + 1)
            (newPortfolio env.timestamp (s.portfolioCounter.getD 0 + 1) settings)
          assetPosition := initPositions env.timestamp (s.portfolioCounter.getD 0 + 1)
            settings.allocations 0 s.assetPosition
          performanceAccumulator }
  | deposited (env : Env) (user : Address) (portfolioId : ℕ) (amount shares : ℤ)
      (portfolio : Portfolio) (pos : UserPosition) (userPortfolioIds : Store Address (List ℕ))
      (tokens : τ) (positive : 0 < amount) (found : s.portfolio.get? portfolioId = some portfolio)
      (paid : tok.transfer s.tokens portfolio.depositToken user self amount = some tokens)
      (minted : pos.shares = sharesOf s user portfolioId + shares)
      (pending : pos.pendingDividends = 0 ∨ ∃ old,
        s.userPosition.get? (user, portfolioId) = some old ∧
          pos.pendingDividends = old.pendingDividends) :
      Effect tok self s (.call env (.deposit user portfolioId amount))
        { s with
          tokens, userPortfolioIds
          portfolio := s.portfolio.set portfolio.portfolioId { portfolio with
            totalAssets := portfolio.totalAssets + amount
            totalSupply := portfolio.totalSupply + shares }
          userPosition := s.userPosition.set (user, portfolioId) pos }
  | withdrawn (env : Env) (user : Address) (portfolioId : ℕ) (shares grossAssets : ℤ)
      (portfolio : Portfolio) (old pos : UserPosition) (reentrancyLock : Option Bool) (tokens : τ)
      (found : s.portfolio.get? portfolioId = some portfolio)
      (holds : s.userPosition.get? (user, portfolioId) = some old)
      (paid : tok.transfer s.tokens portfolio.depositToken self user grossAssets = some tokens)
      (burned : pos.shares = old.shares - shares)
      (pending : pos.pendingDividends = old.pendingDividends) :
      Effect tok self s (.call env (.withdraw user portfolioId shares))
        { s with
          tokens, reentrancyLock
          portfolio := s.portfolio.set portfolio.portfolioId { portfolio with
            totalAssets := portfolio.totalAssets - grossAssets
            totalSupply := portfolio.totalSupply - shares }
          userPosition := s.userPosition.set (user, portfolioId) pos }
  | revalued (env : Env) (op : Op) (portfolioId : ℕ) (rise : ℤ) (portfolio portfolio' : Portfolio)
      (assetPosition : Positions) (rebalanceCounter : Store ℕ ℕ)
      (rebalanceRecord : Store (ℕ × ℕ) RebalanceRecord) (dividendCounter : Store ℕ ℕ)
      (dividendRecord : Store (ℕ × ℕ) DividendRecord) (totalDividendsCollected : Store ℕ ℤ)
      (found : s.portfolio.get? portfolioId = some portfolio)
      (stated : op.rise env s = some (portfolioId, rise)) (amends : Amends portfolio portfolio')
      (raised : portfolio'.totalAssets = portfolio.totalAssets + rise)
      (kept : Store.Extends SameTarget s.assetPosition assetPosition) :
      Effect tok self s (.call env op)
        { s with
          assetPosition, rebalanceCounter, rebalanceRecord, dividendCounter, dividendRecord
          totalDividendsCollected
          portfolio := s.portfolio.set portfolio.portfolioId portfolio' }
  | governed (env : Env) (op : Op) (portfolioId : ℕ) (portfolio portfolio' : Portfolio)
      (found : s.portfolio.get? portfolioId = some portfolio) (amends : Amends portfolio portfolio')
      (same : portfolio'.totalAssets = portfolio.totalAssets) :
      Effect tok self s (.call env op)
        { s with portfolio := s.portfolio.set portfolio'.portfolioId portfolio' }
  | retargeted (env : Env) (admin : Address) (portfolioId : ℕ) (newWeights : List AssetAllocation)
      (portfolio : Portfolio) (assetPosition : Positions)
      (found : s.portfolio.get? portfolioId = some portfolio)
      (valid : weightSum newWeights = bpsDenominator)
      (tokens : portfolio.targetWeights.map (·.token) = newWeights.map (·.token))
      (written : retargetPositions portfolioId portfolio.totalAssets newWeights 0 s.assetPosition =
        .ok assetPosition) :
      Effect tok self s (.call env (.setTargetWeights admin portfolioId newWeights))
        { s with
          assetPosition
          portfolio := s.portfolio.set portfolio.portfolioId
            { portfolio with targetWeights := newWeights } }
  | claimed (env : Env) (user : Address) (portfolioId : ℕ) (old pos : UserPosition)
      (reentrancyLock : Option Bool) (tokens : τ)
      (holds : s.userPosition.get? (user, portfolioId) = some old)
      (due : 0 < old.pendingDividends) :
      Effect tok self s (.call env (.claimDividends user portfolioId))
        { s with
          tokens, reentrancyLock
          userPosition := s.userPosition.set (user, portfolioId) pos }
  | observed (env : Env) (op : Op) (snapshotCounter : Store ℕ ℕ)
      (performanceSnapshot : Store (ℕ × ℕ) PerformanceSnapshot)
      (performanceAccumulator : Store ℕ PerformanceAccumulator) :
      Effect tok self s (.call env op)
        { s with snapshotCounter, performanceSnapshot, performanceAccumulator }

section Effects

variable {tok : Token τ} {self : Address} {env : Env} {s s' : State τ} {β : Type} {r : β}

theorem assertAdmin_bind {caller : Address} {f : Unit → Result β}
    (h : (assertAdmin s caller >>= f) = .ok r) : s.admin = some caller ∧ f () = .ok r := by
  obtain ⟨⟨⟩, hadmin, h⟩ := bind_ok.mp h
  unfold assertAdmin getAdmin at hadmin
  obtain ⟨admin, hsome, hadmin⟩ := expect_bind.mp hadmin
  have he := panicIf_ok hadmin
  rw [not_not.mp he]
  exact ⟨hsome, h⟩

theorem validateWeights_ok {allocations : List AssetAllocation}
    (h : ¬ validateWeights allocations = false) : weightSum allocations = bpsDenominator := by
  simpa [validateWeights] using h

/-- One basis point each for the first `r` of the items numbered from `k`. -/
theorem sum_extra {α : Type} (items : List α) (k r : ℕ) (hk : r ≤ k + items.length) :
    ((items.zipIdx k).map fun e => if (e.2 : ℤ) < r then (1 : ℤ) else 0).sum = (r - k : ℕ) := by
  induction items generalizing k with
  | nil =>
    have hle : r ≤ k := by simpa using hk
    simp [Nat.sub_eq_zero_of_le hle]
  | cons item rest ih =>
    rw [List.zipIdx_cons, List.map_cons, List.sum_cons, ih (k + 1) (by simp at hk; omega)]
    by_cases hlt : k < r
    · rw [if_pos (by exact_mod_cast hlt)]
      omega
    · rw [if_neg (by exact_mod_cast hlt)]
      omega

theorem ofInt_of_small {n : ℤ} (h0 : 0 ≤ n) (h : n < 2 ^ 32) : ((U32.ofInt n : ℕ) : ℤ) = n := by
  unfold U32.ofInt
  rw [Int.emod_eq_of_lt h0 h]
  omega

theorem equalWeightAllocations_sum {tokens : List Address} (hne : tokens ≠ []) :
    weightSum (equalWeightAllocations tokens) = bpsDenominator := by
  have hcount : 0 < tokens.length := List.length_pos_iff.mpr hne
  -- Quotient and remainder as naturals.
  have hdiv := Nat.div_add_mod 10000 tokens.length
  have hmod := Nat.mod_lt 10000 hcount
  have hq : 10000 / tokens.length ≤ 10000 := Nat.div_le_self _ _
  generalize hbase : 10000 / tokens.length = q at hdiv hq
  generalize 10000 % tokens.length = m at hdiv hmod
  have hbaseInt : bpsDenominator.tdiv tokens.length = q := by
    rw [← hbase]
    rfl
  have hrem : bpsDenominator - q * tokens.length = (m : ℤ) := by
    have : ((tokens.length * q + m : ℕ) : ℤ) = 10000 := by exact_mod_cast hdiv
    unfold bpsDenominator
    push_cast at this
    linarith [mul_comm (tokens.length : ℤ) q]
  have hextra := sum_extra tokens 0 m (by omega)
  unfold weightSum equalWeightAllocations
  simp only [hbaseInt, hrem, List.map_map, Function.comp_def]
  calc (tokens.zipIdx.map fun e => ((U32.ofInt (q + if (e.2 : ℤ) < m then 1 else 0) : ℕ) : ℤ)).sum
      = (tokens.zipIdx.map fun e => (q : ℤ) + if (e.2 : ℤ) < m then 1 else 0).sum := by
        congr 1
        apply List.map_congr_left
        intro e _
        apply ofInt_of_small <;> split <;> omega
    _ = tokens.length * q + m := by
        rw [List.sum_map_add, hextra]
        simp
    _ = bpsDenominator := by linarith [mul_comm (tokens.length : ℤ) q]

/-- The weights of a template, whichever tokens fill its slots. -/
theorem zipWith_weightSum (slots : List AllocationSlot) (tokens : List Address)
    (h : slots.length = tokens.length) :
    weightSum (List.zipWith (fun slot token => ⟨token, slot.weightBps, slot.feedId⟩) slots tokens) =
      (slots.map fun slot => (slot.weightBps : ℤ)).sum := by
  induction slots generalizing tokens with
  | nil => rfl
  | cons slot rest ih =>
    cases tokens with
    | nil => cases h
    | cons token tokens =>
      have htail := ih tokens (by simpa using h)
      unfold weightSum at htail ⊢
      simp only [List.zipWith_cons_cons, List.map_cons, List.sum_cons, htail]

theorem getTemplate_sum {templateType : PortfolioType} {template : PortfolioTemplate}
    (h : getTemplate templateType = .ok template) :
    (template.allocationTemplate.map fun slot => (slot.weightBps : ℤ)).sum = bpsDenominator := by
  cases templateType <;> cases h <;> decide

theorem templateToAllocations_sum {templateType : PortfolioType} {template : PortfolioTemplate}
    {tokens : List Address} {allocations : List AssetAllocation}
    (htemplate : getTemplate templateType = .ok template)
    (h : templateToAllocations template tokens = .ok allocations) :
    weightSum allocations = bpsDenominator := by
  unfold templateToAllocations at h
  obtain ⟨hlen, h⟩ := panicIf_bind.mp h
  cases h
  rw [zipWith_weightSum _ _ (not_not.mp hlen), getTemplate_sum htemplate]

theorem createPortfolioInner_effect (op : Op) {settings : Settings} {id : ℕ}
    (h : createPortfolioInner env settings s = .ok (id, s'))
    (hvalid : weightSum settings.allocations = bpsDenominator ∨
      ∃ id source, s.portfolio.get? id = some source ∧
        settings.allocations = source.targetWeights) :
    Effect tok self s (.call env op) s' := by
  unfold createPortfolioInner at h
  obtain ⟨-, h⟩ := U64.add_bind.mp h
  cases h
  exact .created env op settings _ hvalid

theorem createFromTemplate_effect {creator : Address} {name : Symbol}
    {templateType : PortfolioType} {depositToken oracleAddress : Address} {tokens : List Address}
    (hcall : invoke tok self env
      (.createFromTemplate creator name templateType depositToken oracleAddress tokens) s =
        .ok s') :
    Effect tok self s (.call env
      (.createFromTemplate creator name templateType depositToken oracleAddress tokens)) s' := by
  obtain ⟨⟨id, _⟩, h, rfl⟩ := map_ok.mp hcall
  unfold createFromTemplate at h
  obtain ⟨-, h⟩ := requireAuth_bind.mp h
  obtain ⟨-, h⟩ := panicIf_bind.mp h
  obtain ⟨-, h⟩ := panicIf_bind.mp h
  obtain ⟨template, htemplate, h⟩ := bind_ok.mp h
  obtain ⟨allocations, hallocations, h⟩ := bind_ok.mp h
  exact createPortfolioInner_effect _ h (.inl (templateToAllocations_sum htemplate hallocations))

theorem createCustom_effect {creator : Address} {name : Symbol}
    {depositToken oracleAddress : Address} {allocations : List AssetAllocation}
    {weightingStrategy : WeightingStrategy} {rebalanceFrequency : RebalanceFrequency}
    {driftTolerance maxSlippage : Option ℕ}
    (hcall : invoke tok self env (.createCustom creator name depositToken oracleAddress allocations
      weightingStrategy rebalanceFrequency driftTolerance maxSlippage) s = .ok s') :
    Effect tok self s (.call env (.createCustom creator name depositToken oracleAddress allocations
      weightingStrategy rebalanceFrequency driftTolerance maxSlippage)) s' := by
  obtain ⟨⟨id, _⟩, h, rfl⟩ := map_ok.mp hcall
  unfold createCustom at h
  obtain ⟨-, h⟩ := requireAuth_bind.mp h
  obtain ⟨-, h⟩ := panicIf_bind.mp h
  obtain ⟨-, h⟩ := panicIf_bind.mp h
  obtain ⟨hvalid, h⟩ := panicIf_bind.mp h
  exact createPortfolioInner_effect _ h (.inl (validateWeights_ok hvalid))

theorem createEqualWeight_effect {creator : Address} {name : Symbol}
    {depositToken oracleAddress : Address} {tokens : List Address}
    {rebalanceFrequency : RebalanceFrequency}
    (hcall : invoke tok self env
      (.createEqualWeight creator name depositToken oracleAddress tokens rebalanceFrequency) s =
        .ok s') :
    Effect tok self s (.call env
      (.createEqualWeight creator name depositToken oracleAddress tokens rebalanceFrequency))
      s' := by
  obtain ⟨⟨id, _⟩, h, rfl⟩ := map_ok.mp hcall
  unfold createEqualWeight at h
  obtain ⟨-, h⟩ := requireAuth_bind.mp h
  obtain ⟨-, h⟩ := panicIf_bind.mp h
  obtain ⟨-, h⟩ := panicIf_bind.mp h
  obtain ⟨hsome, h⟩ := panicIf_bind.mp h
  exact createPortfolioInner_effect _ h (.inl (equalWeightAllocations_sum hsome))

theorem forkPortfolio_effect {creator : Address} {sourcePortfolioId : ℕ} {name : Symbol}
    {customWeights : Option (List AssetAllocation)}
    {customRebalanceFrequency : Option RebalanceFrequency}
    (hcall : invoke tok self env
      (.forkPortfolio creator sourcePortfolioId name customWeights customRebalanceFrequency) s =
        .ok s') :
    Effect tok self s (.call env
      (.forkPortfolio creator sourcePortfolioId name customWeights customRebalanceFrequency))
      s' := by
  obtain ⟨⟨id, _⟩, h, rfl⟩ := map_ok.mp hcall
  unfold forkPortfolio getPortfolio at h
  obtain ⟨-, h⟩ := requireAuth_bind.mp h
  obtain ⟨source, hsource, h⟩ := expect_bind.mp h
  obtain ⟨-, h⟩ := panicIf_bind.mp h
  obtain ⟨allocations, hallocations, h⟩ := bind_ok.mp h
  refine createPortfolioInner_effect _ h ?_
  cases customWeights with
  | none =>
    cases hallocations
    exact .inr ⟨sourcePortfolioId, source, hsource, rfl⟩
  | some weights =>
    unfold forkAllocations at hallocations
    obtain ⟨hvalid, hallocations⟩ := panicIf_bind.mp hallocations
    obtain ⟨-, hallocations⟩ := panicIf_bind.mp hallocations
    obtain ⟨-, hallocations⟩ := panicIf_bind.mp hallocations
    cases hallocations
    exact .inl (validateWeights_ok hvalid)

theorem creditPosition_ok {now : ℕ} {user : Address} {portfolioId : ℕ} {amount shares : ℤ}
    (h : creditPosition now user portfolioId amount shares s = .ok s') :
    ∃ pos userPortfolioIds, s' = { s with
        userPosition := s.userPosition.set (user, portfolioId) pos, userPortfolioIds } ∧
      pos.shares = sharesOf s user portfolioId + shares ∧
      (pos.pendingDividends = 0 ∨ ∃ old, s.userPosition.get? (user, portfolioId) = some old ∧
        pos.pendingDividends = old.pendingDividends) := by
  unfold creditPosition at h
  unfold sharesOf
  cases hold : s.userPosition.get? (user, portfolioId) with
  | some old =>
    simp only [hold] at h
    obtain ⟨-, h⟩ := I128.checked_bind.mp h
    obtain ⟨-, h⟩ := I128.checked_bind.mp h
    cases h
    exact ⟨_, _, rfl, rfl, .inr ⟨old, rfl, rfl⟩⟩
  | none =>
    simp only [hold] at h
    cases h
    exact ⟨_, _, rfl, (zero_add shares).symm, .inl rfl⟩

theorem deposit_effect {user : Address} {portfolioId : ℕ} {amount : ℤ}
    (hcall : invoke tok self env (.deposit user portfolioId amount) s = .ok s') :
    Effect tok self s (.call env (.deposit user portfolioId amount)) s' := by
  obtain ⟨⟨minted, _⟩, h, rfl⟩ := map_ok.mp hcall
  unfold deposit getPortfolio at h
  obtain ⟨-, h⟩ := requireAuth_bind.mp h
  obtain ⟨hpositive, h⟩ := panicIf_bind.mp h
  obtain ⟨portfolio, hfound, h⟩ := expect_bind.mp h
  obtain ⟨-, h⟩ := panicIf_bind.mp h
  obtain ⟨tokens, hpaid, h⟩ := tok.pay_bind.mp h
  obtain ⟨shares, -, h⟩ := bind_ok.mp h
  obtain ⟨-, h⟩ := I128.checked_bind.mp h
  obtain ⟨-, h⟩ := I128.checked_bind.mp h
  obtain ⟨s₁, hcredit, h⟩ := bind_ok.mp h
  cases h
  obtain ⟨pos, ids, rfl, hshares, hpending⟩ := creditPosition_ok hcredit
  exact .deposited env user portfolioId amount _ portfolio pos ids tokens (by omega) hfound
    hpaid hshares hpending

theorem payGuarded_ok {token user : Address} {amount : ℤ}
    (h : payGuarded tok self token user amount s = .ok s') :
    ∃ tokens, tok.transfer s.tokens token self user amount = some tokens ∧
      s' = { s with tokens, reentrancyLock := some false } := by
  unfold payGuarded enterNonReentrant at h
  obtain ⟨-, h⟩ := panicIf_bind.mp h
  obtain ⟨tokens, hpaid, h⟩ := tok.pay_bind.mp h
  cases h
  exact ⟨tokens, hpaid, rfl⟩

theorem withdraw_effect {user : Address} {portfolioId : ℕ} {shares : ℤ}
    (hcall : invoke tok self env (.withdraw user portfolioId shares) s = .ok s') :
    Effect tok self s (.call env (.withdraw user portfolioId shares)) s' := by
  obtain ⟨⟨paid, _⟩, h, rfl⟩ := map_ok.mp hcall
  unfold withdraw getPortfolio getUserPosition at h
  obtain ⟨-, h⟩ := requireAuth_bind.mp h
  obtain ⟨-, h⟩ := panicIf_bind.mp h
  obtain ⟨portfolio, hfound, h⟩ := expect_bind.mp h
  obtain ⟨old, hholds, h⟩ := expect_bind.mp h
  obtain ⟨-, h⟩ := panicIf_bind.mp h
  obtain ⟨-, h⟩ := panicIf_bind.mp h
  obtain ⟨grossAssets, -, h⟩ := bind_ok.mp h
  obtain ⟨-, h⟩ := I128.checked_bind.mp h
  obtain ⟨-, h⟩ := I128.checked_bind.mp h
  obtain ⟨-, -, h⟩ := bind_ok.mp h
  obtain ⟨-, h⟩ := I128.checked_bind.mp h
  obtain ⟨-, h⟩ := I128.checked_bind.mp h
  obtain ⟨s₁, hpay, h⟩ := bind_ok.mp h
  cases h
  obtain ⟨tokens, hpaid, rfl⟩ := payGuarded_ok hpay
  exact .withdrawn env user portfolioId shares _ portfolio old _ _ tokens hfound hholds
    hpaid rfl rfl

theorem claimDividends_effect {user : Address} {portfolioId : ℕ}
    (hcall : invoke tok self env (.claimDividends user portfolioId) s = .ok s') :
    Effect tok self s (.call env (.claimDividends user portfolioId)) s' := by
  obtain ⟨⟨paid, _⟩, h, rfl⟩ := map_ok.mp hcall
  unfold claimDividends getPortfolio getUserPosition at h
  obtain ⟨-, h⟩ := requireAuth_bind.mp h
  obtain ⟨old, hholds, h⟩ := expect_bind.mp h
  obtain ⟨hdue, h⟩ := panicIf_bind.mp h
  obtain ⟨portfolio, -, h⟩ := expect_bind.mp h
  obtain ⟨s₁, hpay, h⟩ := bind_ok.mp h
  cases h
  obtain ⟨tokens, -, rfl⟩ := payGuarded_ok hpay
  exact .claimed env user portfolioId old _ _ tokens hholds (by omega)

theorem valueAt_bind {balance price : ℤ} {f : ℤ → Result β} (h : (valueAt balance price >>= f) = .ok r) :
    f ((balance * price).tdiv precisionFactor) = .ok r := by
  obtain ⟨value, hvalue, h⟩ := bind_ok.mp h
  unfold valueAt at hvalue
  obtain ⟨-, hvalue⟩ := I128.mul_bind.mp hvalue
  obtain ⟨-, -, hvalue⟩ := I128.div_ok.mp hvalue
  rw [hvalue]
  exact h

/-- A position that keeps its price keeps the prices. -/
theorem priceOf_set {positions : Positions} {portfolioId i : ℕ} {pos pos' : AssetPosition}
    (hpos : positions.get? (portfolioId, i) = some pos) (hprice : pos'.lastPrice = pos.lastPrice)
    (j : ℕ) :
    priceOf (positions.set (portfolioId, i) pos') portfolioId j = priceOf positions portfolioId j := by
  unfold priceOf
  rw [Store.get?_set]
  by_cases hj : (portfolioId, j) = (portfolioId, i)
  · rw [if_pos hj, hj, hpos]
    exact hprice
  · rw [if_neg hj]

theorem statedValue_congr {positions : Positions} {portfolioId : ℕ} (positions' : Positions)
    (h : ∀ j, priceOf positions' portfolioId j = priceOf positions portfolioId j)
    (balances : List ℤ) (i : ℕ) :
    statedValue positions' portfolioId balances i = statedValue positions portfolioId balances i := by
  induction balances generalizing i with
  | nil => rfl
  | cons balance rest ih => simp only [statedValue, h, ih]

theorem Extends.trans_sameTarget {p p' p'' : Positions} (h : Store.Extends SameTarget p p')
    (h' : Store.Extends SameTarget p' p'') : Store.Extends SameTarget p p'' := by
  intro k pos hk
  obtain ⟨pos', hk', htoken, htarget⟩ := h k pos hk
  obtain ⟨pos'', hk'', htoken', htarget'⟩ := h' k pos' hk'
  exact ⟨pos'', hk'', htoken'.trans htoken, htarget'.trans htarget⟩

theorem rebalancePositions_ok {portfolioId : ℕ} {totalAssets total total' : ℤ} {balances : List ℤ}
    {i : ℕ} {positions positions' : Positions}
    (h : rebalancePositions portfolioId totalAssets balances i positions total =
      .ok (positions', total')) :
    total' = total + statedValue positions portfolioId balances i ∧
      Store.Extends SameTarget positions positions' := by
  induction balances generalizing i positions total with
  | nil =>
    cases h
    exact ⟨(add_zero _).symm, .refl SameTarget.refl _⟩
  | cons balance rest ih =>
    unfold rebalancePositions getAssetPosition at h
    obtain ⟨pos, hpos, h⟩ := expect_bind.mp h
    replace h := valueAt_bind h
    obtain ⟨weight, -, h⟩ := bind_ok.mp h
    obtain ⟨-, h⟩ := I128.checked_bind.mp h
    obtain ⟨htotal, hkept⟩ := ih h
    have hprice : priceOf positions portfolioId i = pos.lastPrice := by simp [priceOf, hpos]
    have hone : Store.Extends SameTarget positions (positions.set (portfolioId, i)
        { pos with balance, currentWeightBps := weight }) :=
      Store.extends_old SameTarget.refl hpos ⟨rfl, rfl⟩
    refine ⟨?_, Extends.trans_sameTarget hone hkept⟩
    have hrest := statedValue_congr (positions.set (portfolioId, i)
      { pos with balance, currentWeightBps := weight }) (priceOf_set hpos rfl) rest (i + 1)
    rw [htotal, hrest, statedValue, hprice]
    ring

theorem rebalance_effect (op : Op) {caller : Address} {portfolioId : ℕ} {buys sells : List SwapRecord}
    {newAssetBalances : List ℤ} {record : RebalanceRecord}
    (hrise : ∀ portfolio, s.portfolio.get? portfolioId = some portfolio →
      op.rise env s =
        some (portfolioId, rebalanceRise s portfolioId newAssetBalances portfolio))
    (h : rebalance env caller portfolioId buys sells newAssetBalances s = .ok (record, s')) :
    Effect tok self s (.call env op) s' := by
  unfold rebalance getPortfolio at h
  obtain ⟨-, h⟩ := requireAuth_bind.mp h
  obtain ⟨portfolio, hfound, h⟩ := expect_bind.mp h
  obtain ⟨-, h⟩ := panicIf_bind.mp h
  obtain ⟨-, h⟩ := panicIf_bind.mp h
  obtain ⟨-, h⟩ := U64.add_bind.mp h
  obtain ⟨-, -, h⟩ := bind_ok.mp h
  obtain ⟨-, h⟩ := panicIf_bind.mp h
  obtain ⟨totalSwapped, -, h⟩ := bind_ok.mp h
  obtain ⟨slippageBps, -, h⟩ := bind_ok.mp h
  obtain ⟨-, h⟩ := panicIf_bind.mp h
  obtain ⟨⟨assetPosition, totalAssets⟩, hbooked, h⟩ := bind_ok.mp h
  obtain ⟨-, h⟩ := U32.checked_bind.mp h
  obtain ⟨rebalanceId, -, h⟩ := bind_ok.mp h
  cases h
  obtain ⟨rfl, hkept⟩ := rebalancePositions_ok hbooked
  refine .revalued env op portfolioId _ portfolio _ assetPosition _ _ _ _ _ hfound
    (hrise portfolio hfound) ⟨rfl, rfl, rfl, rfl⟩ ?_ hkept
  unfold rebalanceRise
  ring

theorem checkAndRebalance_effect {caller : Address} {portfolioId : ℕ} {newAssetBalances : List ℤ}
    {buys sells : List SwapRecord}
    (hcall : invoke tok self env
      (.checkAndRebalance caller portfolioId newAssetBalances buys sells) s = .ok s') :
    Effect tok self s
      (.call env (.checkAndRebalance caller portfolioId newAssetBalances buys sells)) s' := by
  obtain ⟨⟨record, _⟩, h, rfl⟩ := map_ok.mp hcall
  unfold checkAndRebalance at h
  obtain ⟨triggered, hdue, h⟩ := bind_ok.mp h
  cases triggered with
  | false =>
    cases h
    exact .configured env _ s.admin s.paused s.reentrancyLock
  | true =>
    rw [if_pos rfl] at h
    obtain ⟨⟨record', s₁⟩, h, hdone⟩ := bind_ok.mp h
    cases hdone
    refine rebalance_effect _ (fun portfolio hfound => ?_) h
    simp [Op.rise, hdue, hfound]

theorem updateAssetPosition_effect {caller : Address} {portfolioId assetIndex : ℕ}
    {newBalance price : ℤ}
    (h : updateAssetPosition env caller portfolioId assetIndex newBalance price s = .ok s') :
    Effect tok self s
      (.call env (.updateAssetPosition caller portfolioId assetIndex newBalance price)) s' := by
  unfold updateAssetPosition getPortfolio getAssetPosition at h
  obtain ⟨-, h⟩ := requireAuth_bind.mp h
  obtain ⟨-, h⟩ := assertAdmin_bind h
  obtain ⟨portfolio, hfound, h⟩ := expect_bind.mp h
  obtain ⟨pos, hpos, h⟩ := expect_bind.mp h
  replace h := valueAt_bind h
  replace h := valueAt_bind h
  obtain ⟨-, h⟩ := I128.sub_bind.mp h
  obtain ⟨weight, -, h⟩ := bind_ok.mp h
  obtain ⟨-, h⟩ := I128.checked_bind.mp h
  cases h
  exact .revalued env _ portfolioId _ portfolio _ _ _ _ _ _ _ hfound (by simp only [Op.rise, hpos]; rfl)
    ⟨rfl, rfl, rfl, rfl⟩ rfl (Store.extends_old SameTarget.refl hpos ⟨rfl, rfl⟩)

/-- Positions that keep their tokens are in the same tokens. -/
theorem heldIn_congr {positions positions' : Positions} {portfolioId : ℕ} {pos pos' : AssetPosition}
    {j : ℕ} (hpos : positions.get? (portfolioId, j) = some pos)
    (hset : positions' = positions.set (portfolioId, j) pos') (htoken : pos'.token = pos.token)
    (indices : List ℕ) (token : Address) :
    heldIn positions' portfolioId indices token = heldIn positions portfolioId indices token := by
  unfold heldIn
  congr 1
  funext k
  rw [hset, Store.get?_set]
  by_cases hk : (portfolioId, k) = (portfolioId, j)
  · rw [if_pos hk, hk, hpos]
    simp only [htoken]
  · rw [if_neg hk]

theorem addDividend_ok {portfolioId : ℕ} {token : Address} {amount : ℤ}
    {weights : List AssetAllocation} {j : ℕ} {positions positions' : Positions} {total total' : ℤ}
    (h : addDividend portfolioId token amount weights j positions total =
      .ok (positions', total')) :
    total' = total + (if heldIn positions portfolioId (List.range' j weights.length) token = true
      then amount else 0) ∧
    Store.Extends SameTarget positions positions' ∧
    ∀ indices t, heldIn positions' portfolioId indices t = heldIn positions portfolioId indices t := by
  induction weights generalizing j with
  | nil =>
    cases h
    exact ⟨by simp [heldIn], .refl SameTarget.refl _, fun _ _ => rfl⟩
  | cons weight rest ih =>
    unfold addDividend getAssetPosition at h
    obtain ⟨pos, hpos, h⟩ := expect_bind.mp h
    split at h
    · rename_i htoken
      obtain ⟨-, h⟩ := I128.checked_bind.mp h
      obtain ⟨-, h⟩ := I128.checked_bind.mp h
      cases h
      have hheld : heldIn positions portfolioId (List.range' j (weight :: rest).length) token =
          true := by
        simp [heldIn, List.range'_succ, hpos, htoken]
      rw [if_pos hheld]
      exact ⟨rfl, Store.extends_old SameTarget.refl hpos ⟨rfl, rfl⟩, heldIn_congr hpos rfl rfl⟩
    · rename_i htoken
      obtain ⟨htotal, hkept, hsame⟩ := ih h
      have hskip : heldIn positions portfolioId (List.range' j (weight :: rest).length) token =
          heldIn positions portfolioId (List.range' (j + 1) rest.length) token := by
        simp [heldIn, List.range'_succ, hpos, htoken]
      rw [hskip]
      exact ⟨htotal, hkept, hsame⟩

theorem addDividends_ok {portfolioId : ℕ} {weights : List AssetAllocation}
    {dividends : List (Address × ℤ)} {positions positions' : Positions} {total total' : ℤ}
    (h : addDividends portfolioId weights dividends positions total = .ok (positions', total')) :
    total' = total + statedDividends positions portfolioId weights.length dividends ∧
      Store.Extends SameTarget positions positions' := by
  induction dividends generalizing positions total with
  | nil =>
    cases h
    exact ⟨(add_zero _).symm, .refl SameTarget.refl _⟩
  | cons dividend rest ih =>
    obtain ⟨token, amount⟩ := dividend
    unfold addDividends at h
    obtain ⟨⟨positions₁, total₁⟩, hone, h⟩ := bind_ok.mp h
    obtain ⟨htotal, hkept, hsame⟩ := addDividend_ok hone
    obtain ⟨htotal', hkept'⟩ := ih h
    refine ⟨?_, Extends.trans_sameTarget hkept hkept'⟩
    unfold statedDividends at htotal' ⊢
    simp only [hsame] at htotal'
    rw [htotal', htotal, List.map_cons, List.sum_cons]
    ring

theorem collectDividends_effect {caller : Address} {portfolioId : ℕ}
    {dividendAmounts : List (Address × ℤ)}
    (hcall : invoke tok self env (.collectDividends caller portfolioId dividendAmounts) s =
      .ok s') :
    Effect tok self s (.call env (.collectDividends caller portfolioId dividendAmounts)) s' := by
  obtain ⟨⟨record, _⟩, h, rfl⟩ := map_ok.mp hcall
  unfold collectDividends getPortfolio at h
  obtain ⟨-, h⟩ := requireAuth_bind.mp h
  obtain ⟨-, h⟩ := assertAdmin_bind h
  obtain ⟨portfolio, hfound, h⟩ := expect_bind.mp h
  obtain ⟨-, h⟩ := panicIf_bind.mp h
  obtain ⟨⟨assetPosition, totalDividend⟩, hbooked, h⟩ := bind_ok.mp h
  obtain ⟨-, h⟩ := I128.checked_bind.mp h
  obtain ⟨-, h⟩ := I128.checked_bind.mp h
  obtain ⟨-, h⟩ := I128.checked_bind.mp h
  obtain ⟨perShareAmount, -, h⟩ := bind_ok.mp h
  obtain ⟨recordId, -, h⟩ := bind_ok.mp h
  cases h
  obtain ⟨rfl, hkept⟩ := addDividends_ok hbooked
  exact .revalued env _ portfolioId _ portfolio _ assetPosition _ _ _ _ _ hfound
    (by simp only [Op.rise, hfound]; rfl) ⟨rfl, rfl, rfl, rfl⟩ (by simp only [zero_add]) hkept

theorem initializeContract_effect {admin : Address} (h : initializeContract env admin s = .ok s') :
    Effect tok self s (.call env (.initializeContract admin)) s' := by
  unfold initializeContract at h
  obtain ⟨-, h⟩ := panicIf_bind.mp h
  obtain ⟨-, h⟩ := requireAuth_bind.mp h
  cases h
  exact .configured env _ _ _ _

theorem setPaused_effect (op : Op) {paused : Bool} {admin : Address}
    (h : setPaused paused env admin s = .ok s') : Effect tok self s (.call env op) s' := by
  unfold setPaused at h
  obtain ⟨-, h⟩ := requireAuth_bind.mp h
  obtain ⟨-, h⟩ := assertAdmin_bind h
  cases h
  exact .configured env op _ _ _

theorem recordPerformanceSnapshot_effect {caller : Address} {portfolioId : ℕ}
    (hcall : invoke tok self env (.recordPerformanceSnapshot caller portfolioId) s = .ok s') :
    Effect tok self s (.call env (.recordPerformanceSnapshot caller portfolioId)) s' := by
  obtain ⟨⟨snapshot, _⟩, h, rfl⟩ := map_ok.mp hcall
  unfold recordPerformanceSnapshot getPortfolio at h
  obtain ⟨-, h⟩ := requireAuth_bind.mp h
  obtain ⟨portfolio, -, h⟩ := expect_bind.mp h
  obtain ⟨navPerShare, -, h⟩ := bind_ok.mp h
  obtain ⟨periodicReturn, -, h⟩ := bind_ok.mp h
  obtain ⟨-, h⟩ := I128.checked_bind.mp h
  obtain ⟨-, h⟩ := I128.mul_bind.mp h
  obtain ⟨-, -, h⟩ := I128.div_bind.mp h
  obtain ⟨-, h⟩ := I128.checked_bind.mp h
  obtain ⟨-, h⟩ := U32.checked_bind.mp h
  obtain ⟨drawdown, -, h⟩ := bind_ok.mp h
  obtain ⟨sharpeRatio, -, h⟩ := bind_ok.mp h
  obtain ⟨twrBps, -, h⟩ := bind_ok.mp h
  obtain ⟨annualized, -, h⟩ := bind_ok.mp h
  obtain ⟨snapshotId, -, h⟩ := bind_ok.mp h
  cases h
  exact .observed env _ _ _ _

/-- A change of a portfolio that leaves assets, shares and targets alone. -/
theorem govern_effect (op : Op) {admin : Address} {portfolioId : ℕ}
    {change : Portfolio → Result Portfolio}
    (hchange : ∀ portfolio portfolio', change portfolio = .ok portfolio' →
      Amends portfolio portfolio' ∧ portfolio'.totalAssets = portfolio.totalAssets)
    (h : govern env admin portfolioId change s = .ok s') :
    Effect tok self s (.call env op) s' := by
  unfold govern getPortfolio at h
  obtain ⟨-, h⟩ := requireAuth_bind.mp h
  obtain ⟨-, h⟩ := assertAdmin_bind h
  obtain ⟨portfolio, hfound, h⟩ := expect_bind.mp h
  obtain ⟨portfolio', hdone, h⟩ := bind_ok.mp h
  cases h
  obtain ⟨hamends, hsame⟩ := hchange portfolio portfolio' hdone
  exact .governed env op portfolioId portfolio portfolio' hfound hamends hsame

theorem setTargetWeights_effect {admin : Address} {portfolioId : ℕ}
    {newWeights : List AssetAllocation}
    (h : setTargetWeights env admin portfolioId newWeights s = .ok s') :
    Effect tok self s (.call env (.setTargetWeights admin portfolioId newWeights)) s' := by
  unfold setTargetWeights getPortfolio at h
  obtain ⟨-, h⟩ := requireAuth_bind.mp h
  obtain ⟨-, h⟩ := assertAdmin_bind h
  obtain ⟨hvalid, h⟩ := panicIf_bind.mp h
  obtain ⟨portfolio, hfound, h⟩ := expect_bind.mp h
  obtain ⟨-, h⟩ := panicIf_bind.mp h
  obtain ⟨htokens, h⟩ := panicIf_bind.mp h
  obtain ⟨assetPosition, hwritten, h⟩ := bind_ok.mp h
  cases h
  exact .retargeted env admin portfolioId newWeights portfolio assetPosition hfound
    (validateWeights_ok hvalid) (not_not.mp htokens) hwritten

theorem invoke_effect {op : Op} (h : invoke tok self env op s = .ok s') :
    Effect tok self s (.call env op) s' := by
  cases op with
  | initializeContract => exact initializeContract_effect h
  | createFromTemplate => exact createFromTemplate_effect h
  | createCustom => exact createCustom_effect h
  | createEqualWeight => exact createEqualWeight_effect h
  | deposit => exact deposit_effect h
  | withdraw => exact withdraw_effect h
  | rebalance caller portfolioId buys sells newAssetBalances =>
    obtain ⟨⟨record, s₁⟩, hdone, hs⟩ := map_ok.mp h
    cases hs
    exact rebalance_effect _ (fun portfolio hfound => by simp [Op.rise, hfound]) hdone
  | checkAndRebalance => exact checkAndRebalance_effect h
  | updateAssetPosition => exact updateAssetPosition_effect h
  | collectDividends => exact collectDividends_effect h
  | claimDividends => exact claimDividends_effect h
  | recordPerformanceSnapshot => exact recordPerformanceSnapshot_effect h
  | forkPortfolio => exact forkPortfolio_effect h
  | setDriftTolerance | setRebalanceFrequency | setMaxSlippage =>
    refine govern_effect _ (fun portfolio portfolio' hdone => ?_) h
    cases hdone
    exact ⟨⟨rfl, rfl, rfl, rfl⟩, rfl⟩
  | setTargetWeights => exact setTargetWeights_effect h
  | pausePortfolio | unpausePortfolio | closePortfolio =>
    refine govern_effect _ (fun portfolio portfolio' hdone => ?_) h
    obtain ⟨-, hdone⟩ := panicIf_bind.mp hdone
    cases hdone
    exact ⟨⟨rfl, rfl, rfl, rfl⟩, rfl⟩
  | pause | unpause => exact setPaused_effect _ h

theorem next_effect {a : Action τ} (h : next tok self a s = .ok s') : Effect tok self s a s' := by
  cases a with
  | transfers tokens =>
    cases h
    exact .transfers tokens
  | call env op => exact invoke_effect h

end Effects

end PortfolioManager
