import StellAIverse.Soroban.History
import StellAIverse.CrossChainBridge.Contract

/-!
# What each call does

Every completed invocation is one of the effects below, with the guards it
passed. Before its initialization the contract does nothing.
-/

namespace CrossChainBridge

open Soroban

variable {τ : Type}

/-- The counters of the day at a moment, anew when more than a day has passed. -/
def RateLimitState.day (now : ℕ) (state : RateLimitState) : RateLimitState :=
  if now - state.lastDailyReset > secondsPerDay then
    { state with dailyUsed := 0, lastDailyReset := now, perUserDaily := .empty }
  else state

def RateLimitState.month (now : ℕ) (state : RateLimitState) : RateLimitState :=
  if now - state.lastMonthlyReset > secondsPerMonth then
    { state with monthlyUsed := 0, lastMonthlyReset := now }
  else state

/-- The counters with one more transfer. -/
def RateLimitState.count (user : Address) (amount : ℤ) (state : RateLimitState) : RateLimitState :=
  { state with
    dailyUsed := state.dailyUsed + amount
    monthlyUsed := state.monthlyUsed + amount
    perUserDaily := state.perUserDaily.set user (state.perUserDaily.amount user + amount) }

/-- A transfer that the limits let pass, and the counters after it. -/
structure Passes (now : ℕ) (config : RateLimitConfig) (user : Address) (amount : ℤ)
    (state state' : RateLimitState) : Prop where
  daily_past : state.lastDailyReset ≤ now
  monthly_past : state.lastMonthlyReset ≤ now
  daily : ((state.day now).month now).dailyUsed + amount ≤ config.dailyLimit
  monthly : ((state.day now).month now).monthlyUsed + amount ≤ config.monthlyLimit
  counted : state' = ((state.day now).month now).count user amount

theorem resetDaily_ok {now : ℕ} {state state' : RateLimitState} :
    resetDaily now state = .ok state' ↔ state.lastDailyReset ≤ now ∧ state.day now = state' := by
  unfold resetDaily
  rw [U64.sub_bind]
  simp [RateLimitState.day]

theorem resetMonthly_ok {now : ℕ} {state state' : RateLimitState} :
    resetMonthly now state = .ok state' ↔
      state.lastMonthlyReset ≤ now ∧ state.month now = state' := by
  unfold resetMonthly
  rw [U64.sub_bind]
  simp [RateLimitState.month]

theorem day_lastMonthlyReset (now : ℕ) (state : RateLimitState) :
    (state.day now).lastMonthlyReset = state.lastMonthlyReset := by
  unfold RateLimitState.day
  split <;> rfl

theorem checkRateLimits_ok {env : Env} {user : Address} {amount : ℤ} {s s' : State τ}
    (h : checkRateLimits env user amount s = .ok s') :
    ∃ config state state', s.rateLimitConfig = some config ∧ s.rateLimitState = some state ∧
      Passes env.timestamp config user amount state state' ∧
      s' = { s with rateLimitState := some state' } := by
  unfold checkRateLimits at h
  obtain ⟨config, hconfig, h⟩ := okOr_bind.mp h
  obtain ⟨state, hstate, h⟩ := okOr_bind.mp h
  obtain ⟨_, hday, h⟩ := bind_ok.mp h
  obtain ⟨hdaily, rfl⟩ := resetDaily_ok.mp hday
  obtain ⟨_, hmonth, h⟩ := bind_ok.mp h
  obtain ⟨hmonthly, rfl⟩ := resetMonthly_ok.mp hmonth
  obtain ⟨-, h⟩ := failIf_bind.mp h
  obtain ⟨-, h⟩ := failIf_bind.mp h
  obtain ⟨-, h⟩ := I128.add_bind.mp h
  obtain ⟨hday, h⟩ := failIf_bind.mp h
  obtain ⟨-, h⟩ := I128.add_bind.mp h
  obtain ⟨hmonth, h⟩ := failIf_bind.mp h
  obtain ⟨-, h⟩ := I128.add_bind.mp h
  cases h
  rw [day_lastMonthlyReset] at hmonthly
  exact ⟨config, state, _, hconfig, hstate,
    ⟨hdaily, hmonthly, not_lt.mp hday, not_lt.mp hmonth, rfl⟩, rfl⟩

section Effects

variable (tok : MintToken τ) (host : Host) (self : Address)

/-- The record that an accepted transfer leaves. -/
def accepted (env : Env) (transferId : ℕ) (sourceChain destinationChain : ChainID)
    (recipient : Bytes) (tokenAddress : Address) (amount fee : ℤ) (nonce : ℕ) (sender : Address)
    (token : SupportedToken) : BridgeTransfer where
  transferId := transferId
  sourceChain := sourceChain
  destinationChain := destinationChain
  sender := sender
  recipient := recipient
  tokenAddress := tokenAddress
  amount := amount
  fee := fee
  nonce := nonce
  timestamp := env.timestamp
  status := .locked
  direction := if token.isLocked = true then .lockAndMint else .burnAndUnlock
  signatures := []

inductive Effect (s : State τ) : Action τ → State τ → Prop
  | initializeContract (env : Env) (admin : Address) (chainId : ChainID)
      (signatureConfig : SignatureConfig) (feeConfig : FeeConfig) (rateLimitConfig : RateLimitConfig)
      (fresh : s.initialized = false) (majority : 51 ≤ signatureConfig.quorumPercentage)
      (percentage : signatureConfig.quorumPercentage ≤ 100) :
      Effect s
        (.call env (.initializeContract admin chainId signatureConfig feeConfig rateLimitConfig))
        { s with
          admin := some admin
          chainId := some chainId
          signatureConfig := some signatureConfig
          feeConfig := some feeConfig
          rateLimitConfig := some rateLimitConfig
          rateLimitState := some ⟨0, 0, env.timestamp, env.timestamp, .empty⟩
          transferCounter := some 0
          validatorCount := some 0
          validatorList := some []
          tokenCount := some 0
          totalFees := some 0
          initialized := true
          paused := some false }
  | addValidator (env : Env) (validatorAddress : Address) (publicKey : Bytes) (power : ℕ)
      (config : SignatureConfig) (new : s.validator.get? validatorAddress = none)
      (bounded : s.validatorCount.getD 0 + 1 < 2 ^ 32) (configured : s.signatureConfig = some config) :
      Effect s (.call env (.addValidator validatorAddress publicKey power))
        { s with
          validator := s.validator.set validatorAddress
            ⟨validatorAddress, publicKey, true, power, env.timestamp⟩
          validatorList := some (s.validatorList.getD [] ++ [validatorAddress])
          validatorCount := some (s.validatorCount.getD 0 + 1)
          signatureConfig := some { config with
            totalValidators := s.validatorCount.getD 0 + 1
            requiredSignatures :=
              requiredOf (s.validatorCount.getD 0 + 1) config.quorumPercentage } }
  | removeValidator (env : Env) (validatorAddress : Address) (validator : Validator)
      (config : SignatureConfig) (found : s.validator.get? validatorAddress = some validator)
      (active : validator.isActive = true) (configured : s.signatureConfig = some config) :
      Effect s (.call env (.removeValidator validatorAddress))
        { s with
          validator := s.validator.set validatorAddress { validator with isActive := false }
          signatureConfig := some { config with
            totalValidators := config.totalValidators - 1
            requiredSignatures :=
              requiredOf (config.totalValidators - 1) config.quorumPercentage } }
  | addSupportedToken (env : Env) (token : SupportedToken) (ruled : s.admin.isSome = true)
      (new : s.token.get? token.tokenAddress = none) :
      Effect s (.call env (.addSupportedToken token.tokenAddress token.symbol token.decimals
          token.isMintable token.isLocked token.bridgeAddressOnOtherChains))
        { s with
          token := s.token.set token.tokenAddress token
          tokenCount := some (s.tokenCount.getD 0 + 1) }
  | initiateTransfer (env : Env) (destinationChain : ChainID) (recipient : Bytes)
      (tokenAddress : Address) (amount : ℤ) (nonce : ℕ) (sender : Address) (token : SupportedToken)
      (sourceChain : ChainID) (limits : RateLimitConfig) (rates rates' : RateLimitState)
      (config : FeeConfig) (fee : ℤ) (tokens : τ)
      (supported : s.token.get? tokenAddress = some token) (chain : s.chainId = some sourceChain)
      (abroad : sourceChain ≠ destinationChain) (positive : 0 < amount)
      (limited : s.rateLimitConfig = some limits) (counters : s.rateLimitState = some rates)
      (passes : Passes env.timestamp limits sender amount rates rates')
      (priced : s.feeConfig = some config) (charged : feeOf config amount = .ok fee)
      (taken : lockOrBurn tok self token tokenAddress sender (amount + fee) s.tokens = .ok tokens) :
      Effect s
        (.call env (.initiateTransfer destinationChain recipient tokenAddress amount nonce sender))
        { s with
          rateLimitState := some rates'
          tokens := tokens
          nonce := s.nonce.set (sender, nonce) true
          totalFees := some (s.totalFees.getD 0 + fee)
          transfer := s.transfer.set (s.transferCounter.getD 0 + 1)
            (accepted env (s.transferCounter.getD 0 + 1) sourceChain destinationChain recipient
              tokenAddress amount fee nonce sender token)
          transferCounter := some (s.transferCounter.getD 0 + 1) }
  | completeTransfer (env : Env) (transferId : ℕ) (signatures : List Bytes)
      (transfer : BridgeTransfer) (token : SupportedToken) (recipient : Address)
      (status : TransactionStatus) (tokens : τ)
      (found : s.transfer.get? transferId = some transfer) (locked : transfer.status = .locked)
      (here : s.chainId = some transfer.destinationChain)
      (supported : s.token.get? transfer.tokenAddress = some token)
      (released : mintOrUnlock tok self token transfer recipient s.tokens = .ok (status, tokens)) :
      Effect s (.call env (.completeTransfer transferId signatures))
        { s with
          tokens := tokens
          transfer := s.transfer.set transferId { transfer with status, signatures } }
  | pauseBridge (env : Env) (ruled : s.admin.isSome = true) :
      Effect s (.call env .pauseBridge) { s with paused := some true }
  | unpauseBridge (env : Env) (ruled : s.admin.isSome = true) :
      Effect s (.call env .unpauseBridge) { s with paused := some false }
  | collectFees (env : Env) (tokenAddress : Address) (config : FeeConfig) (tokens : τ)
      (priced : s.feeConfig = some config) (due : 0 < s.totalFees.getD 0)
      (paid : tok.transfer s.tokens tokenAddress self config.feeCollector (s.totalFees.getD 0) =
        some tokens) :
      Effect s (.call env (.collectFees tokenAddress)) { s with tokens, totalFees := some 0 }
  | collectNothing (env : Env) (tokenAddress : Address) (none_due : s.totalFees.getD 0 ≤ 0) :
      Effect s (.call env (.collectFees tokenAddress)) s
  | transfers (tokens : τ) : Effect s (.transfers tokens) { s with tokens }

end Effects

section Calls

variable {tok : MintToken τ} {host : Host} {self : Address} {env : Env} {s s' : State τ}

theorem requireAdmin_bind {β : Type} {f : Unit → Result β} {r : β}
    (h : (requireAdmin env s >>= f) = .ok r) : s.admin.isSome = true ∧ f () = .ok r := by
  unfold requireAdmin at h
  rw [bind_assoc] at h
  obtain ⟨admin, hadmin, h⟩ := okOr_bind.mp h
  obtain ⟨-, h⟩ := requireAuth_bind.mp h
  exact ⟨by simp [hadmin], h⟩

theorem ensureNotPaused_bind {β : Type} {f : Unit → Result β} {r : β}
    (h : (ensureNotPaused s >>= f) = .ok r) : f () = .ok r :=
  (failIf_bind.mp h).2

theorem initializeContract_effect {admin : Address} {chainId : ChainID}
    {signatureConfig : SignatureConfig} {feeConfig : FeeConfig} {rateLimitConfig : RateLimitConfig}
    (h : initializeContract env admin chainId signatureConfig feeConfig rateLimitConfig s =
      .ok s') :
    Effect tok self s
      (.call env (.initializeContract admin chainId signatureConfig feeConfig rateLimitConfig))
      s' := by
  unfold initializeContract at h
  obtain ⟨hfresh, h⟩ := failIf_bind.mp h
  obtain ⟨hquorum, h⟩ := failIf_bind.mp h
  obtain ⟨-, h⟩ := failIf_bind.mp h
  cases h
  exact .initializeContract env admin chainId signatureConfig feeConfig rateLimitConfig
    (by simpa using hfresh) (by omega) (by omega)

theorem addValidator_effect {validatorAddress : Address} {publicKey : Bytes} {power : ℕ}
    (h : addValidator env validatorAddress publicKey power s = .ok s') :
    Effect tok self s (.call env (.addValidator validatorAddress publicKey power)) s' := by
  unfold addValidator at h
  obtain ⟨-, h⟩ := requireAdmin_bind h
  have h := ensureNotPaused_bind h
  obtain ⟨hnew, h⟩ := failIf_bind.mp h
  obtain ⟨hbounded, h⟩ := U32.add_bind.mp h
  obtain ⟨config, hconfig, h⟩ := okOr_bind.mp h
  cases h
  exact .addValidator env validatorAddress publicKey power config (by simpa using hnew) hbounded
    hconfig

theorem removeValidator_effect {validatorAddress : Address}
    (h : removeValidator env validatorAddress s = .ok s') :
    Effect tok self s (.call env (.removeValidator validatorAddress)) s' := by
  unfold removeValidator at h
  obtain ⟨-, h⟩ := requireAdmin_bind h
  have h := ensureNotPaused_bind h
  obtain ⟨validator, hfound, h⟩ := okOr_bind.mp h
  obtain ⟨hactive, h⟩ := failIf_bind.mp h
  obtain ⟨config, hconfig, h⟩ := okOr_bind.mp h
  cases h
  exact .removeValidator env validatorAddress validator config hfound (by simpa using hactive)
    hconfig

theorem addSupportedToken_effect {tokenAddress : Address} {symbol : String} {decimals : ℕ}
    {isMintable isLocked : Bool} {bridgeAddresses : List (ChainID × Bytes)}
    (h : addSupportedToken env tokenAddress symbol decimals isMintable isLocked bridgeAddresses s =
      .ok s') :
    Effect tok self s (.call env
      (.addSupportedToken tokenAddress symbol decimals isMintable isLocked bridgeAddresses)) s' := by
  unfold addSupportedToken at h
  obtain ⟨hruled, h⟩ := requireAdmin_bind h
  have h := ensureNotPaused_bind h
  obtain ⟨hnew, h⟩ := failIf_bind.mp h
  obtain ⟨-, h⟩ := U32.add_bind.mp h
  cases h
  exact .addSupportedToken env
    ⟨tokenAddress, symbol, decimals, isMintable, isLocked, bridgeAddresses⟩ hruled
    (by simpa using hnew)

theorem initiateTransfer_effect {destinationChain : ChainID} {recipient : Bytes}
    {tokenAddress sender : Address} {amount : ℤ} {nonce n : ℕ}
    (h : initiateTransfer tok self env destinationChain recipient tokenAddress amount nonce sender s =
      .ok (n, s')) :
    Effect tok self s
      (.call env (.initiateTransfer destinationChain recipient tokenAddress amount nonce sender))
      s' := by
  unfold initiateTransfer at h
  have h := ensureNotPaused_bind h
  obtain ⟨-, h⟩ := requireAuth_bind.mp h
  obtain ⟨-, h⟩ := failIf_bind.mp h
  obtain ⟨-, h⟩ := failIf_bind.mp h
  obtain ⟨token, htoken, h⟩ := okOr_bind.mp h
  obtain ⟨sourceChain, hchain, h⟩ := okOr_bind.mp h
  obtain ⟨habroad, h⟩ := failIf_bind.mp h
  obtain ⟨hpositive, h⟩ := failIf_bind.mp h
  obtain ⟨s₁, hchecked, h⟩ := bind_ok.mp h
  obtain ⟨limits, rates, rates', hlimits, hrates, hpasses, rfl⟩ := checkRateLimits_ok hchecked
  obtain ⟨config, hconfig, h⟩ := okOr_bind.mp h
  obtain ⟨fee, hfee, h⟩ := bind_ok.mp h
  obtain ⟨-, h⟩ := I128.add_bind.mp h
  obtain ⟨tokens, htaken, h⟩ := bind_ok.mp h
  obtain ⟨-, h⟩ := I128.add_bind.mp h
  obtain ⟨-, h⟩ := U64.add_bind.mp h
  cases h
  exact .initiateTransfer env destinationChain recipient tokenAddress amount nonce sender token
    sourceChain limits rates rates' config fee tokens htoken hchain habroad (not_le.mp hpositive)
    hlimits hrates hpasses hconfig hfee htaken

theorem completeTransfer_effect {transferId : ℕ} {signatures : List Bytes}
    (h : completeTransfer tok host self transferId signatures s = .ok s') :
    Effect tok self s (.call env (.completeTransfer transferId signatures)) s' := by
  unfold completeTransfer at h
  have h := ensureNotPaused_bind h
  obtain ⟨transfer, hfound, h⟩ := okOr_bind.mp h
  obtain ⟨-, h⟩ := failIf_bind.mp h
  obtain ⟨hlocked, h⟩ := failIf_bind.mp h
  obtain ⟨⟨⟩, -, h⟩ := bind_ok.mp h
  obtain ⟨chain, hchain, h⟩ := okOr_bind.mp h
  obtain ⟨hhere, h⟩ := failIf_bind.mp h
  obtain ⟨token, htoken, h⟩ := okOr_bind.mp h
  obtain ⟨recipient, -, h⟩ := okOr_bind.mp h
  obtain ⟨⟨status, tokens⟩, hreleased, h⟩ := bind_ok.mp h
  cases h
  obtain rfl := not_not.mp hhere
  exact .completeTransfer env transferId signatures transfer token recipient status tokens hfound
    (not_not.mp hlocked) hchain htoken hreleased

theorem pauseBridge_effect (h : pauseBridge env s = .ok s') :
    Effect tok self s (.call env .pauseBridge) s' := by
  unfold pauseBridge at h
  obtain ⟨hruled, h⟩ := requireAdmin_bind h
  obtain ⟨-, h⟩ := failIf_bind.mp h
  cases h
  exact .pauseBridge env hruled

theorem unpauseBridge_effect (h : unpauseBridge env s = .ok s') :
    Effect tok self s (.call env .unpauseBridge) s' := by
  unfold unpauseBridge at h
  obtain ⟨hruled, h⟩ := requireAdmin_bind h
  obtain ⟨-, h⟩ := failIf_bind.mp h
  cases h
  exact .unpauseBridge env hruled

theorem collectFees_effect {tokenAddress : Address}
    (h : collectFees tok self env tokenAddress s = .ok s') :
    Effect tok self s (.call env (.collectFees tokenAddress)) s' := by
  unfold collectFees at h
  obtain ⟨-, h⟩ := requireAdmin_bind h
  obtain ⟨config, hconfig, h⟩ := okOr_bind.mp h
  split at h
  · rename_i hdue
    obtain ⟨tokens, hpaid, h⟩ := tok.pay_bind.mp h
    cases h
    exact .collectFees env tokenAddress config tokens hconfig hdue hpaid
  · rename_i hnone
    cases h
    exact .collectNothing env tokenAddress (not_lt.mp hnone)

theorem next_effect {a : Action τ} (h : next tok host self a s = .ok s') :
    Effect tok self s a s' := by
  cases a with
  | transfers tokens =>
    cases h
    exact .transfers tokens
  | call env op =>
    cases op with
    | initializeContract => exact initializeContract_effect h
    | addValidator => exact addValidator_effect h
    | removeValidator => exact removeValidator_effect h
    | addSupportedToken => exact addSupportedToken_effect h
    | initiateTransfer =>
      obtain ⟨⟨n, t⟩, hinitiate, rfl⟩ := map_ok.mp h
      exact initiateTransfer_effect hinitiate
    | completeTransfer => exact completeTransfer_effect h
    | pauseBridge => exact pauseBridge_effect h
    | unpauseBridge => exact unpauseBridge_effect h
    | collectFees => exact collectFees_effect h

end Calls

/-- Until it is initialized the contract's storage is empty. -/
def Fresh (s : State τ) : Prop := s.initialized = false → s = deployed s.tokens

/-- Who finds something stored finds the contract initialized. -/
theorem Fresh.initialized_of {s : State τ} (h : Fresh s) {β : Type} (field : State τ → Option β)
    (hempty : field (deployed s.tokens) = none) (hfound : (field s).isSome = true) :
    s.initialized = true := by
  cases hs : s.initialized with
  | true => rfl
  | false =>
    rw [h hs, hempty] at hfound
    cases hfound

theorem fresh_step {tok : MintToken τ} {self : Address} {s s' : State τ} {a : Action τ}
    (h : Fresh s) (heffect : Effect tok self s a s') : Fresh s' := by
  have initialized {t : State τ} (ht : t.initialized = true) : Fresh t := by
    intro hs
    cases ht.symm.trans hs
  cases heffect with
  | initializeContract => exact initialized rfl
  | addValidator env validatorAddress publicKey power config new bounded configured =>
    exact initialized (h.initialized_of State.signatureConfig rfl (by simp [configured]))
  | removeValidator env validatorAddress validator config found active configured =>
    exact initialized (h.initialized_of State.signatureConfig rfl (by simp [configured]))
  | addSupportedToken env token ruled => exact initialized (h.initialized_of State.admin rfl ruled)
  | initiateTransfer env destinationChain recipient tokenAddress amount nonce sender token
      sourceChain limits rates rates' config fee tokens supported chain =>
    exact initialized (h.initialized_of State.chainId rfl (by simp [chain]))
  | completeTransfer env transferId signatures transfer token recipient status tokens found locked
      here =>
    exact initialized (h.initialized_of State.chainId rfl (by simp [here]))
  | pauseBridge env ruled => exact initialized (h.initialized_of State.admin rfl ruled)
  | unpauseBridge env ruled => exact initialized (h.initialized_of State.admin rfl ruled)
  | collectFees env tokenAddress config tokens priced =>
    exact initialized (h.initialized_of State.feeConfig rfl (by simp [priced]))
  | collectNothing => exact h
  | transfers tokens =>
    intro hinitialized
    rw [h hinitialized]
    rfl

/-- Invariants of the contract speak of a state whose storage is empty before the
initialization. -/
theorem run_preserves {tok : MintToken τ} {host : Host} {self : Address}
    {ok : List (State τ × Action τ) → State τ → Action τ → Prop} {start : τ}
    {log : List (State τ × Action τ)} {s : State τ} {P : List (State τ × Action τ) → State τ → Prop}
    (hrun : History (next tok host self) ok (deployed start) log s) (hstart : P [] (deployed start))
    (step : ∀ log s a s', Fresh s → ok log s a → Effect tok self s a s' → P log s →
      P ((s, a) :: log) s') : P log s := by
  have hall := hrun.preserves (P := fun log s => Fresh s ∧ P log s) ⟨fun _ => rfl, hstart⟩ ?_
  · exact hall.2
  · rintro log s a s' hok hn ⟨hfresh, hp⟩
    have heffect := next_effect hn
    exact ⟨fresh_step hfresh heffect, step log s a s' hfresh hok heffect hp⟩

end CrossChainBridge
