import StellAIverse.Soroban.Run
import StellAIverse.Vault.Contract

/-!
# What a completed invocation does

`Effect` says once, for every entry point of the vault, which guards held and
which entries were rewritten; `next_effect` connects it to the entry points.
-/

namespace Vault

open Soroban

variable {τ : Type}

/-- Shares minted for `amount`. -/
def sharesFor (amount totalAssets totalSupply : ℤ) : ℤ :=
  if totalAssets ≤ 0 ∨ totalSupply ≤ 0 then amount else (amount * totalSupply).tdiv totalAssets

/-- Assets paid for `shares`. -/
def assetsFor (shares totalAssets totalSupply : ℤ) : ℤ :=
  (shares * totalAssets).tdiv totalSupply

/-- Performance fee on `gains`. -/
def feeOn (gains : ℤ) (feeBps : ℕ) : ℤ := (gains * feeBps).tdiv bpsDenominator

theorem calculateSharesForDeposit_ok {amount A S shares : ℤ}
    (h : calculateSharesForDeposit amount A S = .ok shares) : shares = sharesFor amount A S := by
  unfold calculateSharesForDeposit at h
  unfold sharesFor
  split at h
  · rename_i hempty
    cases h
    rw [if_pos hempty]
  · rename_i hempty
    rw [I128.checked_bind, I128.div_ok] at h
    rw [if_neg hempty]
    exact h.2.2.2.symm

theorem calculateAssetsForWithdrawal_bind {shares A S : ℤ} {β : Type} {f : ℤ → Result β} {r : β} :
    (calculateAssetsForWithdrawal shares A S >>= f) = .ok r ↔
      (S ≠ 0 ∧ I128.InRange (shares * A) ∧ I128.InRange (assetsFor shares A S)) ∧
        f (assetsFor shares A S) = .ok r := by
  simp only [calculateAssetsForWithdrawal, bind_assoc, I128.checked_bind, I128.div_bind, assetsFor]
  tauto

theorem withdrawalFee_ok {s : State τ} {fee : ℤ} (h : withdrawalFee s = .ok fee) :
    fee = if s.totalAssets > s.highWaterMark then
      feeOn (s.totalAssets - s.highWaterMark) s.performanceFeeBps else 0 := by
  unfold withdrawalFee at h
  split at h
  · rename_i hgain
    simp only [I128.checked_bind, I128.div_ok] at h
    rw [if_pos hgain]
    exact h.2.2.2.2.symm
  · rename_i hgain
    cases h
    rw [if_neg hgain]

theorem gainFee_ok {s : State τ} {gains fee : ℤ} (h : gainFee s gains = .ok fee) :
    fee = if gains > 0 then feeOn gains s.performanceFeeBps else 0 := by
  unfold gainFee at h
  split at h
  · rename_i hgain
    simp only [I128.checked_bind, I128.div_ok] at h
    rw [if_pos hgain]
    exact h.2.2.2.symm
  · rename_i hgain
    cases h
    rw [if_neg hgain]

theorem positivePart_ok {a b r : ℤ} {message : String} (h : positivePart a b message = .ok r) :
    r = max (a - b) 0 := by
  unfold positivePart at h
  split at h
  · rw [I128.checked_ok] at h
    omega
  · cases h
    omega

theorem assetsAfterHarvest_ok {A before reported fee r : ℤ}
    (h : assetsAfterHarvest A before reported (max (reported - before) 0) fee = .ok r)
    (hfee : reported ≤ before → fee = 0) :
    r = A + (reported - before) - fee ∧ (I128.InRange A → I128.InRange r) := by
  unfold assetsAfterHarvest at h
  split at h
  · rw [I128.checked_bind, I128.checked_ok] at h
    obtain ⟨-, hfits, rfl⟩ := h
    exact ⟨by omega, fun _ => hfits⟩
  · have hzero := hfee (by omega)
    split at h
    · rw [I128.checked_bind, I128.checked_ok] at h
      obtain ⟨-, hfits, rfl⟩ := h
      exact ⟨by omega, fun _ => hfits⟩
    · cases h
      exact ⟨by omega, id⟩

theorem collectFee_ok {s s' : State τ} {fee : ℤ} (h : collectFee s fee = .ok s') :
    s' = { s with totalFeesCollected := s.totalFeesCollected + max fee 0 } := by
  unfold collectFee at h
  split at h
  · rename_i hfee
    cases h
    rw [max_eq_right hfee, add_zero]
  · rename_i hfee
    rw [I128.checked_bind] at h
    cases h.2
    rw [max_eq_left (by omega)]

theorem transferToken_bind {tok : Token τ} {s : State τ} {token source target : Address}
    {amount : ℤ} {β : Type} {f : State τ → Result β} {r : β} :
    (transferToken tok s token source target amount >>= f) = .ok r ↔
      (s.reentrancyLock = false ∧ 0 < amount) ∧
      ∃ tokens, tok.transfer s.tokens token source target amount = some tokens ∧
        f { s with tokens, reentrancyLock := false } = .ok r := by
  simp only [transferToken, transferTokenUnchecked, bind_assoc, panicIf_bind, Token.pay_bind,
    ok_bind, not_le, Bool.not_eq_true]
  tauto

theorem transferToken_ok {tok : Token τ} {s s' : State τ} {token source target : Address}
    {amount : ℤ} (h : transferToken tok s token source target amount = .ok s') :
    (s.reentrancyLock = false ∧ 0 < amount) ∧
      ∃ tokens, tok.transfer s.tokens token source target amount = some tokens ∧
        s' = { s with tokens, reentrancyLock := false } := by
  have hbind : (transferToken tok s token source target amount >>= .ok) = .ok s' := by
    rw [h]
    rfl
  rw [transferToken_bind] at hbind
  obtain ⟨hguard, tokens, hpaid, heq⟩ := hbind
  exact ⟨hguard, tokens, hpaid, (Except.ok.inj heq).symm⟩

/-- A user's record after `shares` and `amount` are added. -/
def VaultUserDeposit.credited (d : VaultUserDeposit) (shares amount : ℤ) (now : ℕ) :
    VaultUserDeposit :=
  { d with
    shares := d.shares + shares, totalDeposited := d.totalDeposited + amount
    lastDepositAt := now }

/-- A user's record after `shares` are taken for a payment of `amount`. -/
def VaultUserDeposit.debited (d : VaultUserDeposit) (shares amount : ℤ) (now : ℕ) :
    VaultUserDeposit :=
  { d with
    shares := d.shares - shares, totalWithdrawn := d.totalWithdrawn + amount
    lastWithdrawalAt := now }

/-- Burning `shares` for `gross` assets, of which `net` is paid. -/
def burned (s : State τ) (shares gross net : ℤ) (tokens : τ) : State τ :=
  { s with
    totalSupply := s.totalSupply - shares, totalAssets := s.totalAssets - gross
    totalWithdrawals := s.totalWithdrawals + net, tokens, reentrancyLock := false }

inductive Effect (tok : Token τ) (self : Address) (s : State τ) : Action τ → State τ → Prop
  | transfers (tokens : τ) : Effect tok self s (.transfers tokens) { s with tokens }
  | initializeContract (env : Env) (admin token : Address) (fresh : s.admin = none) :
      Effect tok self s (.call env (.initializeContract admin token))
        { s with
          admin := some admin, token := some token, paused := false
          performanceFeeBps := defaultPerformanceFeeBps
          totalAssets := 0, totalSupply := 0, totalDeposits := 0, totalWithdrawals := 0
          totalFeesCollected := 0, highWaterMark := 0, strategyCounter := 0, strategyIds := []
          withdrawalQueueCounter := 0, withdrawalQueueIds := []
          minQueuedWithdrawal := defaultMinQueuedWithdrawal, reentrancyLock := false }
  | deposit (env : Env) (user token : Address) (amount shares : ℤ) (tokens : τ)
      (unpaused : s.paused = false) (positive : 0 < amount)
      (minted : shares = sharesFor amount s.totalAssets s.totalSupply)
      (asset : s.token = some token)
      (paid : tok.transfer s.tokens token user self amount = some tokens)
      (fits : I128.InRange (s.totalAssets + amount) ∧ I128.InRange (s.totalSupply + shares)) :
      Effect tok self s (.call env (.deposit user amount))
        { s with
          tokens, reentrancyLock := false, totalAssets := s.totalAssets + amount
          totalSupply := s.totalSupply + shares, totalDeposits := s.totalDeposits + amount
          highWaterMark := if s.totalAssets + amount > s.highWaterMark then
            s.totalAssets + amount else s.highWaterMark
          userDeposit := s.userDeposit.set user
            ((loadUserDeposit s user).credited shares amount env.timestamp) }
  | withdraw (env : Env) (user token : Address) (shares gross fee : ℤ) (tokens : τ)
      (positive : 0 < shares) (owned : shares ≤ (loadUserDeposit s user).shares)
      (supplied : 0 < s.totalSupply)
      (gross_eq : gross = assetsFor shares s.totalAssets s.totalSupply)
      (fee_eq : fee = if s.totalAssets > s.highWaterMark then
        feeOn (s.totalAssets - s.highWaterMark) s.performanceFeeBps else 0)
      (asset : s.token = some token) (net_pos : 0 < gross - fee)
      (paid : tok.transfer s.tokens token self user (gross - fee) = some tokens)
      (fits : I128.InRange (s.totalAssets - gross)) :
      Effect tok self s (.call env (.withdraw user shares))
        { burned s shares gross (gross - fee) tokens with
          totalFeesCollected := s.totalFeesCollected + max fee 0
          userDeposit := s.userDeposit.set user
            ((loadUserDeposit s user).debited shares (gross - fee) env.timestamp) }
  | emergencyWithdraw (env : Env) (user token : Address) (shares gross : ℤ) (tokens : τ)
      (all : shares = (loadUserDeposit s user).shares) (positive : 0 < shares)
      (supplied : 0 < s.totalSupply)
      (gross_eq : gross = assetsFor shares s.totalAssets s.totalSupply)
      (asset : s.token = some token) (gross_pos : 0 < gross)
      (paid : tok.transfer s.tokens token self user gross = some tokens)
      (fits : I128.InRange (s.totalAssets - gross)) :
      Effect tok self s (.call env (.emergencyWithdraw user))
        { burned s shares gross gross tokens with
          userDeposit := s.userDeposit.set user
            ((loadUserDeposit s user).debited shares gross env.timestamp) }
  | governanceWithdraw (env : Env) (admin recipient token : Address) (amount : ℤ) (tokens : τ)
      (authorized : s.admin = some admin) (positive : 0 < amount)
      (covered : amount ≤ s.totalAssets) (asset : s.token = some token)
      (paid : tok.transfer s.tokens token self recipient amount = some tokens) :
      Effect tok self s (.call env (.governanceWithdraw admin recipient amount))
        { s with totalAssets := s.totalAssets - amount, tokens, reentrancyLock := false }
  | pause (env : Env) (admin : Address) (authorized : s.admin = some admin) :
      Effect tok self s (.call env (.pause admin)) { s with paused := true }
  | unpause (env : Env) (admin : Address) (authorized : s.admin = some admin) :
      Effect tok self s (.call env (.unpause admin)) { s with paused := false }
  | setPerformanceFee (env : Env) (admin : Address) (feeBps : ℕ)
      (authorized : s.admin = some admin) (bounded : feeBps ≤ 5000) :
      Effect tok self s (.call env (.setPerformanceFee admin feeBps))
        { s with performanceFeeBps := feeBps }
  | withdrawFees (env : Env) (admin recipient token : Address) (tokens : τ)
      (authorized : s.admin = some admin) (collected : 0 < s.totalFeesCollected)
      (asset : s.token = some token)
      (paid : tok.transfer s.tokens token self recipient s.totalFeesCollected = some tokens) :
      Effect tok self s (.call env (.withdrawFees admin recipient))
        { s with tokens, reentrancyLock := false, totalFeesCollected := 0 }
  | addStrategy (env : Env) (admin : Address) (id : String) (address : Address)
      (authorized : s.admin = some admin) (fresh : s.strategy.get? id = none)
      (room : s.strategyIds.length < maxStrategies) :
      Effect tok self s (.call env (.addStrategy admin id address))
        { s with
          strategy := s.strategy.set id
            ⟨id, address, 0, 0, 0, 0, true, env.timestamp, 0⟩
          strategyAllocBps := s.strategyAllocBps.set id 0
          strategyCounter := s.strategyCounter + 1, strategyIds := s.strategyIds ++ [id] }
  | removeStrategy (env : Env) (admin : Address) (id : String) (config : StrategyConfig)
      (authorized : s.admin = some admin) (stored : s.strategy.get? id = some config)
      (active : config.isActive = true) (empty : config.allocatedAssets ≤ 0) :
      Effect tok self s (.call env (.removeStrategy admin id))
        { s with
          strategy := s.strategy.set id { config with isActive := false }
          strategyAllocBps := s.strategyAllocBps.set id 0 }
  | setStrategyAllocation (env : Env) (admin : Address) (id : String) (allocBps total : ℕ)
      (config : StrategyConfig) (authorized : s.admin = some admin)
      (stored : s.strategy.get? id = some config) (active : config.isActive = true)
      (allocated : totalAllocationBps s s.strategyIds 0 = .ok total)
      (bounded : (total : ℤ) - getStrategyAllocBps s id + allocBps ≤ bpsDenominator) :
      Effect tok self s (.call env (.setStrategyAllocation admin id allocBps))
        { s with
          strategyAllocBps := s.strategyAllocBps.set id allocBps
          strategy := s.strategy.set id { config with
            allocatedAssets := (s.totalAssets * allocBps).tdiv bpsDenominator
            currentBalance := (s.totalAssets * allocBps).tdiv bpsDenominator } }
  | migrateStrategy (env : Env) (admin : Address) (source target : String)
      (fromConfig toConfig : StrategyConfig) (authorized : s.admin = some admin)
      (stored : s.strategy.get? source = some fromConfig)
      (stored' : s.strategy.get? target = some toConfig)
      (active : fromConfig.isActive = true ∧ toConfig.isActive = true)
      (allocated : 0 < fromConfig.allocatedAssets) :
      Effect tok self s (.call env (.migrateStrategy admin source target))
        { s with
          strategy := (s.strategy.set source { fromConfig with allocatedAssets := 0 }).set target
            { toConfig with
              allocatedAssets := toConfig.allocatedAssets + fromConfig.allocatedAssets } }
  | harvestStrategy (env : Env) (id : String) (reported gains fee : ℤ) (config : StrategyConfig)
      (stored : s.strategy.get? id = some config) (active : config.isActive = true)
      (gains_eq : gains = max (reported - config.currentBalance) 0)
      (fee_eq : fee = if gains > 0 then feeOn gains s.performanceFeeBps else 0)
      (fits : I128.InRange s.totalAssets →
        I128.InRange (s.totalAssets + (reported - config.currentBalance) - fee)) :
      Effect tok self s (.call env (.harvestStrategy id reported))
        { s with
          strategy := s.strategy.set id { config with
            currentBalance := reported, totalGains := config.totalGains + gains
            totalLosses := config.totalLosses + max (config.currentBalance - reported) 0
            lastHarvestAt := env.timestamp }
          totalAssets := s.totalAssets + (reported - config.currentBalance) - fee
          highWaterMark :=
            if s.totalAssets + (reported - config.currentBalance) - fee > s.highWaterMark then
              s.totalAssets + (reported - config.currentBalance) - fee else s.highWaterMark
          totalFeesCollected := s.totalFeesCollected + max fee 0 }
  | emergencyStrategyWithdrawal (env : Env) (admin : Address) (id : String)
      (config : StrategyConfig) (authorized : s.admin = some admin)
      (stored : s.strategy.get? id = some config) (active : config.isActive = true) :
      Effect tok self s (.call env (.emergencyStrategyWithdrawal admin id))
        (if config.allocatedAssets ≤ 0 then s else
          { s with
            strategy := s.strategy.set id
              { config with allocatedAssets := 0, currentBalance := 0 } })
  | queueWithdrawal (env : Env) (user : Address) (shares estimated : ℤ) (positive : 0 < shares)
      (owned : shares ≤ (loadUserDeposit s user).shares) (supplied : 0 < s.totalSupply)
      (estimated_eq : estimated = assetsFor shares s.totalAssets s.totalSupply)
      (least : s.minQueuedWithdrawal ≤ estimated) :
      Effect tok self s (.call env (.queueWithdrawal user shares))
        { s with
          userDeposit := s.userDeposit.set user { loadUserDeposit s user with
            shares := (loadUserDeposit s user).shares - shares
            lastWithdrawalAt := env.timestamp }
          withdrawalQueueCounter := s.withdrawalQueueCounter + 1
          withdrawalQueueItem := s.withdrawalQueueItem.set (s.withdrawalQueueCounter + 1)
            ⟨s.withdrawalQueueCounter + 1, user, shares, estimated, env.timestamp, false⟩
          withdrawalQueueIds := s.withdrawalQueueIds ++ [s.withdrawalQueueCounter + 1] }
  | processWithdrawalQueue (env : Env) (id : ℕ) (token : Address) (gross : ℤ)
      (item : WithdrawalQueueItem) (tokens : τ)
      (stored : s.withdrawalQueueItem.get? id = some item) (pending : item.processed = false)
      (gross_eq : gross = assetsFor item.shares s.totalAssets s.totalSupply)
      (asset : s.token = some token) (gross_pos : 0 < gross)
      (paid : tok.transfer s.tokens token self item.user gross = some tokens)
      (fits : I128.InRange (s.totalAssets - gross)) :
      Effect tok self s (.call env (.processWithdrawalQueue id))
        { burned s item.shares gross gross tokens with
          withdrawalQueueItem := s.withdrawalQueueItem.set id { item with processed := true } }

section Inversion

variable {tok : Token τ} {self : Address} {env : Env} {s s' : State τ}

theorem assertAdmin_bind {caller : Address} {β : Type} {f : Unit → Result β} {r : β} :
    (assertAdmin s caller >>= f) = .ok r ↔ s.admin = some caller ∧ f () = .ok r := by
  simp only [assertAdmin, bind_assoc, expect_bind, panicIf_bind, ne_eq, not_not]
  constructor
  · rintro ⟨admin, hadmin, rfl, h⟩
    exact ⟨hadmin, h⟩
  · rintro ⟨hadmin, h⟩
    exact ⟨caller, hadmin, rfl, h⟩

theorem deposit_effect {user : Address} {amount : ℤ} {r : ℤ × State τ}
    (h : deposit tok self env user amount s = .ok r) :
    Effect tok self s (.call env (.deposit user amount)) r.2 := by
  unfold deposit at h
  simp only [requireAuth_bind, panicIf_bind, not_le, Bool.not_eq_true] at h
  obtain ⟨-, hpaused, hpos, h⟩ := h
  obtain ⟨shares, hshares, h⟩ := bind_ok.mp h
  simp only [getToken, expect_bind, transferToken_bind, I128.checked_bind] at h
  obtain ⟨token, htoken, -, tokens, hpaid, hassets, hsupply, -, -, -, h⟩ := h
  cases h
  exact .deposit env user token amount shares tokens hpaused hpos
    (calculateSharesForDeposit_ok hshares) htoken hpaid ⟨hassets, hsupply⟩

theorem withdraw_effect {user : Address} {shares : ℤ} {r : ℤ × State τ}
    (h : withdraw tok self env user shares s = .ok r) :
    Effect tok self s (.call env (.withdraw user shares)) r.2 := by
  unfold withdraw at h
  simp only [requireAuth_bind, panicIf_bind, not_le, not_lt,
    calculateAssetsForWithdrawal_bind] at h
  obtain ⟨-, hpos, howned, hsupply, -, h⟩ := h
  obtain ⟨fee, hfee, h⟩ := bind_ok.mp h
  simp only [I128.checked_bind] at h
  obtain ⟨-, -, hassets, -, h⟩ := h
  obtain ⟨s₁, hs₁, h⟩ := bind_ok.mp h
  rw [collectFee_ok hs₁] at h
  simp only [I128.checked_bind, getToken, expect_bind, transferToken_bind] at h
  obtain ⟨-, -, token, htoken, hnet, tokens, hpaid, h⟩ := h
  cases h
  exact .withdraw env user token shares _ fee tokens hpos howned hsupply rfl
    (withdrawalFee_ok hfee) htoken hnet.2 hpaid hassets

theorem emergencyWithdraw_effect {user : Address} {r : ℤ × State τ}
    (h : emergencyWithdraw tok self env user s = .ok r) :
    Effect tok self s (.call env (.emergencyWithdraw user)) r.2 := by
  unfold emergencyWithdraw at h
  simp only [requireAuth_bind, panicIf_bind, not_le, calculateAssetsForWithdrawal_bind,
    I128.checked_bind, getToken, expect_bind, transferToken_bind] at h
  obtain ⟨-, hpos, hsupply, -, -, hassets, -, -, token, htoken, hnet, tokens, hpaid, h⟩ := h
  cases h
  have heff : Effect tok self s _ _ := .emergencyWithdraw env user token _ _ tokens rfl
    hpos hsupply rfl htoken hnet.2 hpaid hassets
  simp only [VaultUserDeposit.debited, sub_self] at heff
  exact heff

theorem governanceWithdraw_effect {admin recipient : Address} {amount : ℤ}
    (h : governanceWithdraw tok self env admin recipient amount s = .ok s') :
    Effect tok self s (.call env (.governanceWithdraw admin recipient amount)) s' := by
  unfold governanceWithdraw at h
  simp only [requireAuth_bind, assertAdmin_bind, panicIf_bind, not_le, not_lt, I128.checked_bind,
    getToken, expect_bind] at h
  obtain ⟨-, hadmin, hpos, hcovered, -, token, htoken, h⟩ := h
  obtain ⟨-, tokens, hpaid, rfl⟩ := transferToken_ok h
  exact .governanceWithdraw env admin recipient token amount tokens hadmin hpos hcovered htoken
    hpaid

theorem withdrawFees_effect {admin recipient : Address}
    (h : withdrawFees tok self env admin recipient s = .ok s') :
    Effect tok self s (.call env (.withdrawFees admin recipient)) s' := by
  unfold withdrawFees at h
  simp only [requireAuth_bind, assertAdmin_bind, panicIf_bind, not_le, getToken, expect_bind,
    transferToken_bind] at h
  obtain ⟨-, hadmin, hfees, token, htoken, -, tokens, hpaid, h⟩ := h
  cases h
  exact .withdrawFees env admin recipient token tokens hadmin hfees htoken hpaid

theorem addStrategy_effect {admin address : Address} {id : String}
    (h : addStrategy env admin id address s = .ok s') :
    Effect tok self s (.call env (.addStrategy admin id address)) s' := by
  unfold addStrategy at h
  simp only [requireAuth_bind, assertAdmin_bind, panicIf_bind, not_le, U32.add_bind,
    Bool.not_eq_true, Option.isSome_eq_false_iff, Option.isNone_iff_eq_none] at h
  obtain ⟨-, hadmin, hfresh, hroom, -, h⟩ := h
  cases h
  exact .addStrategy env admin id address hadmin hfresh hroom

theorem removeStrategy_effect {admin : Address} {id : String}
    (h : removeStrategy env admin id s = .ok s') :
    Effect tok self s (.call env (.removeStrategy admin id)) s' := by
  unfold removeStrategy at h
  simp only [requireAuth_bind, assertAdmin_bind, loadStrategy, expect_bind, panicIf_bind, not_lt,
    Bool.not_eq_false] at h
  obtain ⟨-, hadmin, config, hstored, hactive, hempty, h⟩ := h
  cases h
  exact .removeStrategy env admin id config hadmin hstored hactive hempty

theorem setStrategyAllocation_effect {admin : Address} {id : String} {allocBps : ℕ}
    (h : setStrategyAllocation env admin id allocBps s = .ok s') :
    Effect tok self s (.call env (.setStrategyAllocation admin id allocBps)) s' := by
  unfold setStrategyAllocation at h
  simp only [requireAuth_bind, assertAdmin_bind, loadStrategy, expect_bind, panicIf_bind,
    Bool.not_eq_false] at h
  obtain ⟨-, hadmin, config, hstored, hactive, h⟩ := h
  obtain ⟨total, htotal, h⟩ := bind_ok.mp h
  simp only [I128.checked_bind, panicIf_bind, not_lt, I128.div_bind] at h
  obtain ⟨-, -, hbounded, -, -, -, h⟩ := h
  cases h
  exact .setStrategyAllocation env admin id allocBps total config hadmin hstored hactive htotal
    hbounded

theorem migrateStrategy_effect {admin : Address} {source target : String}
    (h : migrateStrategy env admin source target s = .ok s') :
    Effect tok self s (.call env (.migrateStrategy admin source target)) s' := by
  unfold migrateStrategy at h
  simp only [requireAuth_bind, assertAdmin_bind, loadStrategy, expect_bind, panicIf_bind, not_le,
    Bool.not_eq_false, I128.checked_bind] at h
  obtain ⟨-, hadmin, fromConfig, hfrom, hactive, toConfig, hto, hactive', hpos, -, h⟩ := h
  cases h
  exact .migrateStrategy env admin source target fromConfig toConfig hadmin hfrom hto
    ⟨hactive, hactive'⟩ hpos

theorem harvestStrategy_effect {id : String} {reported : ℤ} {r : HarvestResult × State τ}
    (h : harvestStrategy env id reported s = .ok r) :
    Effect tok self s (.call env (.harvestStrategy id reported)) r.2 := by
  unfold harvestStrategy at h
  simp only [loadStrategy, expect_bind, panicIf_bind, Bool.not_eq_false] at h
  obtain ⟨config, hstored, hactive, h⟩ := h
  obtain ⟨gains, hgains, h⟩ := bind_ok.mp h
  obtain ⟨losses, hlosses, h⟩ := bind_ok.mp h
  obtain ⟨fee, hfee, h⟩ := bind_ok.mp h
  obtain ⟨assets, hassets, h⟩ := bind_ok.mp h
  simp only [I128.checked_bind] at h
  obtain ⟨-, -, h⟩ := h
  obtain ⟨s₁, hs₁, h⟩ := bind_ok.mp h
  cases h
  have hg := positivePart_ok hgains
  have hl := positivePart_ok hlosses
  have hf := gainFee_ok hfee
  rw [hg] at hassets
  obtain ⟨ha, hfits⟩ := assetsAfterHarvest_ok hassets (by
    intro hle
    rw [hf, if_neg (by omega)])
  rw [ha] at hfits
  rw [collectFee_ok hs₁, ha, hl]
  exact .harvestStrategy env id reported gains fee config hstored hactive hg hf hfits

theorem emergencyStrategyWithdrawal_effect {admin : Address} {id : String}
    (h : emergencyStrategyWithdrawal env admin id s = .ok s') :
    Effect tok self s (.call env (.emergencyStrategyWithdrawal admin id)) s' := by
  unfold emergencyStrategyWithdrawal at h
  simp only [requireAuth_bind, assertAdmin_bind, loadStrategy, expect_bind, panicIf_bind,
    Bool.not_eq_false] at h
  obtain ⟨-, hadmin, config, hstored, hactive, h⟩ := h
  have heff : Effect tok self s _ _ := .emergencyStrategyWithdrawal env admin id config
    hadmin hstored hactive
  split at h <;> rename_i hempty
  · cases h
    rw [if_pos hempty] at heff
    exact heff
  · cases h
    rw [if_neg hempty] at heff
    exact heff

theorem queueWithdrawal_effect {user : Address} {shares : ℤ} {r : ℕ × State τ}
    (h : queueWithdrawal env user shares s = .ok r) :
    Effect tok self s (.call env (.queueWithdrawal user shares)) r.2 := by
  unfold queueWithdrawal at h
  simp only [requireAuth_bind, panicIf_bind, not_le, not_lt, calculateAssetsForWithdrawal_bind,
    I128.checked_bind, U64.checked_bind] at h
  obtain ⟨-, hpos, howned, hsupply, -, hleast, -, -, h⟩ := h
  cases h
  exact .queueWithdrawal env user shares _ hpos howned hsupply rfl hleast

theorem processWithdrawalQueue_effect {id : ℕ} {r : ℤ × State τ}
    (h : processWithdrawalQueue tok self id s = .ok r) :
    Effect tok self s (.call env (.processWithdrawalQueue id)) r.2 := by
  unfold processWithdrawalQueue at h
  simp only [loadQueueItem, expect_bind, panicIf_bind, Bool.not_eq_true,
    calculateAssetsForWithdrawal_bind, I128.checked_bind, getToken, transferToken_bind] at h
  obtain ⟨item, hstored, hpending, -, -, hassets, -, token, htoken, hnet, tokens, hpaid, h⟩ := h
  cases h
  exact .processWithdrawalQueue env id token _ item tokens hstored hpending rfl htoken hnet.2 hpaid
    hassets

/-- Every completed invocation has its effect. -/
theorem next_effect {a : Action τ} (h : next tok self a s = .ok s') : Effect tok self s a s' := by
  cases a with
  | transfers tokens =>
    cases h
    exact .transfers tokens
  | call env op =>
    cases op with
    | initializeContract admin token =>
      simp only [next, invoke, initializeContract, panicIf_bind, requireAuth_bind] at h
      cases h.2.2
      exact .initializeContract env admin token (by simpa using h.1)
    | deposit user amount =>
      obtain ⟨r, hr, rfl⟩ := map_ok.mp h
      exact deposit_effect hr
    | withdraw user shares =>
      obtain ⟨r, hr, rfl⟩ := map_ok.mp h
      exact withdraw_effect hr
    | emergencyWithdraw user =>
      obtain ⟨r, hr, rfl⟩ := map_ok.mp h
      exact emergencyWithdraw_effect hr
    | governanceWithdraw admin recipient amount => exact governanceWithdraw_effect h
    | pause admin =>
      simp only [next, invoke, pause, requireAuth_bind, assertAdmin_bind, panicIf_bind] at h
      cases h.2.2.2
      exact .pause env admin h.2.1
    | unpause admin =>
      simp only [next, invoke, unpause, requireAuth_bind, assertAdmin_bind, panicIf_bind] at h
      cases h.2.2.2
      exact .unpause env admin h.2.1
    | setPerformanceFee admin feeBps =>
      simp only [next, invoke, setPerformanceFee, requireAuth_bind, assertAdmin_bind, panicIf_bind,
        not_lt] at h
      cases h.2.2.2
      exact .setPerformanceFee env admin feeBps h.2.1 h.2.2.1
    | withdrawFees admin recipient => exact withdrawFees_effect h
    | addStrategy admin id address => exact addStrategy_effect h
    | removeStrategy admin id => exact removeStrategy_effect h
    | setStrategyAllocation admin id allocBps => exact setStrategyAllocation_effect h
    | migrateStrategy admin source target => exact migrateStrategy_effect h
    | harvestStrategy id reported =>
      obtain ⟨r, hr, rfl⟩ := map_ok.mp h
      exact harvestStrategy_effect hr
    | emergencyStrategyWithdrawal admin id => exact emergencyStrategyWithdrawal_effect h
    | queueWithdrawal user shares =>
      obtain ⟨r, hr, rfl⟩ := map_ok.mp h
      exact queueWithdrawal_effect hr
    | processWithdrawalQueue id =>
      obtain ⟨r, hr, rfl⟩ := map_ok.mp h
      exact processWithdrawalQueue_effect hr

end Inversion

end Vault
