import StellAIverse.Bridge.Contract
import StellAIverse.Soroban.History

/-!
# What each call does

Every completed invocation, as an equation between the states before and after.
The settings of the administrator are one case; a transaction is opened, approved,
completed, released, disputed or cancelled by a case of its own. Records are kept
under their own keys, in every run.
-/

namespace Bridge

open Soroban

/-- Every record carries the key it is stored under. -/
structure Keyed (s : State) : Prop where
  tx : ∀ id tx, s.tx.get? id = some tx → tx.txId = id
  wrappedAsset : ∀ k asset, s.wrappedAsset.get? k = some asset → (asset.assetCode, asset.chain) = k
  liquidityPool : ∀ id pool, s.liquidityPool.get? id = some pool → pool.poolId = id
  dispute : ∀ id dispute, s.dispute.get? id = some dispute → dispute.disputeId = id

/-- The calls that leave assets, transactions, disputes and pools alone. -/
def Op.quiet : Op → Bool
  | .updateConfig .. | .transferAdmin .. | .addChain .. | .removeChain .. | .registerValidatorSet ..
  | .updateValidatorThreshold .. | .addValidator .. | .removeValidator .. | .setFeeTier ..
  | .pauseBridge .. | .unpauseBridge .. => true
  | _ => false

/-- The counters are the same, and a new rate is within the maximum. -/
structure Reconfigured (config config' : BridgeConfig) : Prop where
  txCounter : config'.txCounter = config.txCounter
  disputeCounter : config'.disputeCounter = config.disputeCounter
  lpCounter : config'.lpCounter = config.lpCounter
  fee : config'.defaultFeeBps = config.defaultFeeBps ∨ config'.defaultFeeBps ≤ maxFeeBps

/-- A fee, at the default rate or at the rate of a tier. -/
def FeeOf (s : State) (config : BridgeConfig) (amount fee : ℤ) : Prop :=
  ∃ feeBps : ℕ, fee = (amount * feeBps).tdiv 10000 ∧
    (feeBps = config.defaultFeeBps ∨ ∃ k tier, s.feeTier.get? k = some tier ∧ feeBps = tier.feeBps)

inductive Effect (s : State) : Action → State → Prop
  | settings (env : Env) (op : Op) (config config' : BridgeConfig)
      (validatorSet : Store SupportedChain ValidatorSetConfig)
      (feeTier : Store (SupportedChain × ℕ) BridgeFeeTier) (emergency : Option EmergencyConfig)
      (supportedChains : Option (List SupportedChain)) (quiet : op.quiet = true)
      (found : s.config = some config) (reconfigured : Reconfigured config config')
      (tiers : ∀ k tier, feeTier.get? k = some tier →
        s.feeTier.get? k = some tier ∨ tier.feeBps ≤ maxFeeBps) :
      Effect s ⟨env, op⟩
        { s with config := some config', validatorSet, feeTier, emergency, supportedChains }
  | initializeContract (env : Env) (admin : Address) (config : BridgeConfig)
      (found : s.config = some config) (unused : config.txCounter = 0) :
      Effect s ⟨env, .initializeContract admin⟩ (initializeBridge admin s)
  | registerWrappedAsset (env : Env) (admin : Address) (code : String) (issuer : Address)
      (chain : SupportedChain) :
      Effect s ⟨env, .registerWrappedAsset admin code issuer chain⟩
        { s with wrappedAsset :=
          s.wrappedAsset.set (code, chain) ⟨code, issuer, "", chain, 0, 0, true⟩ }
  | deactivateWrappedAsset (env : Env) (admin : Address) (code : String) (chain : SupportedChain)
      (asset : WrappedAsset) (found : s.wrappedAsset.get? (code, chain) = some asset) :
      Effect s ⟨env, .deactivateWrappedAsset admin code chain⟩
        { s with wrappedAsset := s.wrappedAsset.set (code, chain) { asset with active := false } }
  | lockAssets (env : Env) (sender : Address) (chain : SupportedChain) (code : String) (amount : ℤ)
      (destAddress hash : String) (config : BridgeConfig) (asset : WrappedAsset) (fee : ℤ)
      (emergency : Option EmergencyConfig) (found : s.config = some config)
      (unused : s.txHash.get? hash = none)
      (registered : s.wrappedAsset.get? (code, chain) = some asset)
      (fees : FeeOf s config amount fee)
      (fits : I128.InRange (asset.totalLocked + (amount - fee))) :
      Effect s ⟨env, .lockAssets sender chain code amount destAddress hash⟩
        { s with
          config := some { config with txCounter := config.txCounter + 1 }
          tx := s.tx.set (config.txCounter + 1) (outboundTransaction env (config.txCounter + 1) sender
            chain code (amount - fee) fee hash)
          txHash := s.txHash.set hash (config.txCounter + 1)
          wrappedAsset := s.wrappedAsset.set (code, chain)
            { asset with totalLocked := asset.totalLocked + (amount - fee) }
          emergency }
  | approveTransaction (env : Env) (validator : Address) (id : ℕ) (chain : SupportedChain)
      (signature : String) (tx : BridgeTransaction) (vs : ValidatorSetConfig)
      (vsig : Store (ℕ × ℕ) ValidatorSignature) (emergency : Option EmergencyConfig)
      (found : s.tx.get? id = some tx) (pending : tx.status = .pending)
      (validators : s.validatorSet.get? chain = some vs) (member : validator ∈ vs.validators) :
      Effect s ⟨env, .approveTransaction validator id chain signature⟩
        { s with
          vsig
          emergency
          tx := s.tx.set id { tx with
            validatorApprovals := tx.validatorApprovals + 1
            status := if tx.validatorApprovals + 1 ≥ vs.requiredApprovals then .validated
              else tx.status } }
  | completeTransaction (env : Env) (admin : Address) (id : ℕ) (hash : String)
      (tx : BridgeTransaction) (asset : WrappedAsset) (found : s.tx.get? id = some tx)
      (validated : tx.status = .validated)
      (registered : s.wrappedAsset.get? (tx.assetCode, tx.destChain) = some asset) :
      Effect s ⟨env, .completeTransaction admin id hash⟩
        { s with
          wrappedAsset := s.wrappedAsset.set (tx.assetCode, tx.destChain)
            { asset with totalSupply := asset.totalSupply + tx.amount }
          tx := s.tx.set id { tx with status := .completed, destTxHash := some hash } }
  | mintAssets (env : Env) (sender : Address) (chain : SupportedChain) (code : String) (amount : ℤ)
      (hash merkleRoot : String) (config : BridgeConfig) (asset : WrappedAsset)
      (emergency : Option EmergencyConfig) (found : s.config = some config)
      (unused : s.txHash.get? hash = none)
      (registered : s.wrappedAsset.get? (code, chain) = some asset) :
      Effect s ⟨env, .mintAssets sender chain code amount hash merkleRoot⟩
        { s with
          config := some { config with txCounter := config.txCounter + 1 }
          tx := s.tx.set (config.txCounter + 1) (inboundTransaction env (config.txCounter + 1) sender
            chain code amount hash merkleRoot)
          txHash := s.txHash.set hash (config.txCounter + 1)
          emergency }
  | releaseAssets (env : Env) (admin : Address) (id : ℕ) (tx : BridgeTransaction)
      (asset : WrappedAsset) (found : s.tx.get? id = some tx) (validated : tx.status = .validated)
      (inbound : tx.direction = .inbound)
      (registered : s.wrappedAsset.get? (tx.assetCode, tx.sourceChain) = some asset) :
      Effect s ⟨env, .releaseAssets admin id⟩
        { s with
          wrappedAsset := s.wrappedAsset.set (tx.assetCode, tx.sourceChain) { asset with
            totalSupply := I128.saturatingSub asset.totalSupply tx.amount
            totalLocked := I128.saturatingSub asset.totalLocked tx.amount }
          tx := s.tx.set id { tx with status := .completed } }
  | createLiquidityPool (env : Env) (admin : Address) (code : String) (chain : SupportedChain)
      (config : BridgeConfig) (found : s.config = some config) :
      Effect s ⟨env, .createLiquidityPool admin code chain⟩
        { s with
          config := some { config with lpCounter := config.lpCounter + 1 }
          liquidityPool := s.liquidityPool.set (config.lpCounter + 1)
            ⟨config.lpCounter + 1, code, chain, 0, 0, 0, true⟩ }
  | addLiquidity (env : Env) (provider : Address) (id : ℕ) (amount lpTokens : ℤ)
      (pool : LiquidityPool) (lpDeposit : Store (ℕ × ℕ) LiquidityProviderDeposit)
      (positive : 0 < amount) (found : s.liquidityPool.get? id = some pool)
      (tokens : lpTokensFor pool amount = .ok lpTokens) :
      Effect s ⟨env, .addLiquidity provider id amount⟩
        { s with
          liquidityPool := s.liquidityPool.set id { pool with
            totalLiquidity := pool.totalLiquidity + amount
            lpTokenBalance := pool.lpTokenBalance + lpTokens }
          lpDeposit }
  | removeLiquidity (env : Env) (provider : Address) (id : ℕ) (lpAmount : ℤ) (pool : LiquidityPool)
      (positive : 0 < lpAmount) (found : s.liquidityPool.get? id = some pool)
      (enough : lpAmount ≤ pool.lpTokenBalance) :
      Effect s ⟨env, .removeLiquidity provider id lpAmount⟩
        { s with
          liquidityPool := s.liquidityPool.set id { pool with
            totalLiquidity := pool.totalLiquidity -
              (lpAmount * pool.totalLiquidity).tdiv pool.lpTokenBalance
            lpTokenBalance := pool.lpTokenBalance - lpAmount } }
  | fileDispute (env : Env) (disputer : Address) (id : ℕ) (reason : String) (tx : BridgeTransaction)
      (config : BridgeConfig) (found : s.tx.get? id = some tx)
      (undecided : tx.status = .pending ∨ tx.status = .validated)
      (configured : s.config = some config) :
      Effect s ⟨env, .fileDispute disputer id reason⟩
        { s with
          config := some { config with disputeCounter := config.disputeCounter + 1 }
          dispute := s.dispute.set (config.disputeCounter + 1)
            ⟨config.disputeCounter + 1, id, disputer, reason, false, none, env.timestamp, none⟩
          tx := s.tx.set id { tx with status := .disputed } }
  | resolveCancel (env : Env) (admin : Address) (id : ℕ) (dispute : BridgeDispute)
      (tx : BridgeTransaction) (found : s.dispute.get? id = some dispute)
      (unresolved : dispute.resolved = false) (about : s.tx.get? dispute.txId = some tx) :
      Effect s ⟨env, .resolveDispute admin id "cancel"⟩
        { s with
          dispute := s.dispute.set id { dispute with
            resolved := true, resolution := some "cancel", resolvedAt := some env.timestamp }
          tx := s.tx.set dispute.txId { tx with status := .cancelled } }
  | resolveOther (env : Env) (admin : Address) (id : ℕ) (resolution : String)
      (dispute : BridgeDispute) (found : s.dispute.get? id = some dispute)
      (unresolved : dispute.resolved = false)
      (other : resolution = "cancel" → s.tx.get? dispute.txId = none) :
      Effect s ⟨env, .resolveDispute admin id resolution⟩
        { s with dispute := s.dispute.set id { dispute with
          resolved := true, resolution := some resolution, resolvedAt := some env.timestamp } }
  | cancelOutbound (env : Env) (caller : Address) (id : ℕ) (tx : BridgeTransaction)
      (asset : WrappedAsset) (found : s.tx.get? id = some tx) (pending : tx.status = .pending)
      (outbound : tx.direction = .outbound)
      (registered : s.wrappedAsset.get? (tx.assetCode, tx.destChain) = some asset) :
      Effect s ⟨env, .cancelTransaction caller id⟩
        { s with
          tx := s.tx.set id { tx with status := .cancelled }
          wrappedAsset := s.wrappedAsset.set (tx.assetCode, tx.destChain)
            { asset with totalLocked := I128.saturatingSub asset.totalLocked tx.amount } }
  | cancelInbound (env : Env) (caller : Address) (id : ℕ) (tx : BridgeTransaction)
      (found : s.tx.get? id = some tx) (pending : tx.status = .pending)
      (inbound : tx.direction = .inbound) :
      Effect s ⟨env, .cancelTransaction caller id⟩
        { s with tx := s.tx.set id { tx with status := .cancelled } }

section Helpers

variable {env : Env} {s s' : State} {β : Type} {r : β}

theorem getConfig_bind {f : BridgeConfig → Result β} :
    (getConfig s >>= f) = .ok r ↔ ∃ config, s.config = some config ∧ f config = .ok r :=
  expect_bind

theorem requireAdmin_bind {admin : Address} {f : BridgeConfig → Result β}
    (h : (requireAdmin env admin s >>= f) = .ok r) :
    ∃ config, s.config = some config ∧ f config = .ok r := by
  obtain ⟨config, hadmin, h⟩ := bind_ok.mp h
  unfold requireAdmin at hadmin
  obtain ⟨-, hadmin⟩ := requireAuth_bind.mp hadmin
  obtain ⟨config', hconfig, hadmin⟩ := getConfig_bind.mp hadmin
  obtain ⟨-, hadmin⟩ := panicIf_bind.mp hadmin
  cases hadmin
  exact ⟨config, hconfig, h⟩

theorem requireNotPaused_bind {f : State → Result β} (h : (requireNotPaused env s >>= f) = .ok r) :
    ∃ emergency, f { s with emergency } = .ok r := by
  obtain ⟨s₁, hpaused, h⟩ := bind_ok.mp h
  unfold requireNotPaused at hpaused
  dsimp only at hpaused
  split at hpaused
  · split at hpaused
    · split at hpaused
      · cases hpaused
      · cases hpaused
        exact ⟨_, h⟩
    · cases hpaused
  · cases hpaused
    exact ⟨s.emergency, h⟩

theorem isDuplicateTx_false {hash : String} (h : ¬ isDuplicateTx s hash = true) :
    s.txHash.get? hash = none := by
  simpa [isDuplicateTx] using h

theorem matchFeeTier_ok {chain : SupportedChain} {amount : ℤ} {feeBps left index rate : ℕ}
    (h : matchFeeTier s chain amount feeBps left index = .ok rate) :
    rate = feeBps ∨ ∃ k tier, s.feeTier.get? k = some tier ∧ rate = tier.feeBps := by
  induction left generalizing index with
  | zero => cases h
  | succ left ih =>
    unfold matchFeeTier at h
    split at h
    · cases h
      exact .inl rfl
    · rename_i tier htier
      split at h
      · cases h
        exact .inr ⟨_, tier, htier, rfl⟩
      · exact ih h

theorem calculateFee_ok {config : BridgeConfig} {chain : SupportedChain} {amount fee : ℤ}
    (hconfig : s.config = some config) (h : calculateFee s chain amount = .ok fee) :
    FeeOf s config amount fee := by
  unfold calculateFee at h
  obtain ⟨config', hconfig', h⟩ := getConfig_bind.mp h
  obtain rfl : config = config' := Option.some.inj (hconfig.symm.trans hconfig')
  obtain ⟨rate, hrate, h⟩ := bind_ok.mp h
  obtain ⟨-, h⟩ := I128.mul_bind.mp h
  obtain ⟨-, -, h⟩ := I128.div_ok.mp h
  exact ⟨rate, h.symm, matchFeeTier_ok hrate⟩

/-- The three counters of the configuration are advanced alike. -/
theorem counter_bind (counter : BridgeConfig → ℕ) (advance : BridgeConfig → ℕ → BridgeConfig)
    {f : ℕ × State → Result β} (h : ((do
      let config ← getConfig s
      let n ← U64.add (counter config) 1
      .ok (n, setConfig (advance config n) s)) >>= f) = .ok r) :
    ∃ config, s.config = some config ∧ f (counter config + 1, { s with
      config := some (advance config (counter config + 1)) }) = .ok r := by
  obtain ⟨p, hnext, h⟩ := bind_ok.mp h
  obtain ⟨config, hconfig, hnext⟩ := getConfig_bind.mp hnext
  obtain ⟨-, hnext⟩ := U64.add_bind.mp hnext
  cases hnext
  exact ⟨config, hconfig, h⟩

theorem nextTxId_bind {f : ℕ × State → Result β} (h : (nextTxId s >>= f) = .ok r) :
    ∃ config, s.config = some config ∧ f (config.txCounter + 1, { s with
      config := some { config with txCounter := config.txCounter + 1 } }) = .ok r :=
  counter_bind BridgeConfig.txCounter (fun config txCounter => { config with txCounter }) h

theorem nextLpId_bind {f : ℕ × State → Result β} (h : (nextLpId s >>= f) = .ok r) :
    ∃ config, s.config = some config ∧ f (config.lpCounter + 1, { s with
      config := some { config with lpCounter := config.lpCounter + 1 } }) = .ok r :=
  counter_bind BridgeConfig.lpCounter (fun config lpCounter => { config with lpCounter }) h

theorem nextDisputeId_bind {f : ℕ × State → Result β} (h : (nextDisputeId s >>= f) = .ok r) :
    ∃ config, s.config = some config ∧ f (config.disputeCounter + 1, { s with
      config := some { config with disputeCounter := config.disputeCounter + 1 } }) = .ok r :=
  counter_bind BridgeConfig.disputeCounter (fun config disputeCounter => { config with disputeCounter })
    h

theorem setLpDeposit_bind {deposit : LiquidityProviderDeposit} {f : State → Result β}
    (h : (setLpDeposit deposit s >>= f) = .ok r) : ∃ lpDeposit, f { s with lpDeposit } = .ok r := by
  obtain ⟨s₁, hset, h⟩ := bind_ok.mp h
  unfold setLpDeposit at hset
  obtain ⟨index, -, hset⟩ := bind_ok.mp hset
  cases hset
  exact ⟨_, h⟩

end Helpers

section Settings

variable {env : Env} {s s' : State} {admin : Address} {chain : SupportedChain}

theorem Reconfigured.refl (config : BridgeConfig) : Reconfigured config config :=
  ⟨rfl, rfl, rfl, .inl rfl⟩

/-- A setting other than fees. -/
theorem effect_setting {op : Op} {config : BridgeConfig} (hquiet : op.quiet = true)
    (hfound : s.config = some config) (validatorSet : Store SupportedChain ValidatorSetConfig)
    (emergency : Option EmergencyConfig) (supportedChains : Option (List SupportedChain)) :
    Effect s ⟨env, op⟩ { s with validatorSet, emergency, supportedChains } := by
  have heffect := Effect.settings (s := s) env op config config validatorSet s.feeTier emergency
    supportedChains hquiet hfound (.refl config) fun _ _ hk => .inl hk
  rw [← hfound] at heffect
  exact heffect

theorem initializeContract_effect (h : initializeContract env admin s = .ok s') :
    Effect s ⟨env, .initializeContract admin⟩ s' := by
  unfold initializeContract at h
  obtain ⟨config, hconfig, h⟩ := getConfig_bind.mp h
  obtain ⟨hunused, h⟩ := panicIf_bind.mp h
  obtain ⟨-, h⟩ := requireAuth_bind.mp h
  cases h
  exact .initializeContract env admin config hconfig (by omega)

theorem updateConfig_effect {timelock fee : Option ℕ} {least most : Option ℤ}
    (h : updateConfig env admin timelock least most fee s = .ok s') :
    Effect s ⟨env, .updateConfig admin timelock least most fee⟩ s' := by
  unfold updateConfig at h
  obtain ⟨config, hconfig, h⟩ := requireAdmin_bind h
  obtain ⟨hfee, h⟩ := panicIf_bind.mp h
  cases h
  refine .settings env _ config _ s.validatorSet s.feeTier s.emergency s.supportedChains rfl hconfig
    ⟨rfl, rfl, rfl, ?_⟩ fun _ _ hk => .inl hk
  cases fee with
  | none => exact .inl rfl
  | some rate =>
    refine .inr ?_
    by_contra hlarge
    exact hfee ⟨rate, rfl, hlarge⟩

theorem transferAdmin_effect {newAdmin : Address} (h : transferAdmin env admin newAdmin s = .ok s') :
    Effect s ⟨env, .transferAdmin admin newAdmin⟩ s' := by
  unfold transferAdmin at h
  obtain ⟨config, hconfig, h⟩ := requireAdmin_bind h
  cases h
  exact .settings env _ config _ s.validatorSet s.feeTier s.emergency s.supportedChains rfl hconfig
    ⟨rfl, rfl, rfl, .inl rfl⟩ fun _ _ hk => .inl hk

theorem addChain_effect (h : addChain env admin chain s = .ok s') :
    Effect s ⟨env, .addChain admin chain⟩ s' := by
  unfold addChain addSupportedChain at h
  obtain ⟨config, hconfig, h⟩ := requireAdmin_bind h
  cases h
  split
  · exact effect_setting rfl hconfig s.validatorSet s.emergency s.supportedChains
  · exact effect_setting rfl hconfig s.validatorSet s.emergency _

theorem removeChain_effect (h : removeChain env admin chain s = .ok s') :
    Effect s ⟨env, .removeChain admin chain⟩ s' := by
  unfold removeChain at h
  obtain ⟨config, hconfig, h⟩ := requireAdmin_bind h
  cases h
  exact effect_setting rfl hconfig s.validatorSet s.emergency _

theorem registerValidatorSet_effect {validators : List Address} {required : ℕ}
    (h : registerValidatorSet env admin chain validators required s = .ok s') :
    Effect s ⟨env, .registerValidatorSet admin chain validators required⟩ s' := by
  unfold registerValidatorSet at h
  obtain ⟨config, hconfig, h⟩ := requireAdmin_bind h
  obtain ⟨-, h⟩ := panicIf_bind.mp h
  obtain ⟨-, h⟩ := panicIf_bind.mp h
  obtain ⟨-, h⟩ := panicIf_bind.mp h
  cases h
  exact effect_setting rfl hconfig _ s.emergency s.supportedChains

theorem updateValidatorThreshold_effect {threshold : ℕ}
    (h : updateValidatorThreshold env admin chain threshold s = .ok s') :
    Effect s ⟨env, .updateValidatorThreshold admin chain threshold⟩ s' := by
  unfold updateValidatorThreshold at h
  obtain ⟨config, hconfig, h⟩ := requireAdmin_bind h
  obtain ⟨vs, -, h⟩ := expect_bind.mp h
  obtain ⟨-, h⟩ := panicIf_bind.mp h
  cases h
  exact effect_setting rfl hconfig _ s.emergency s.supportedChains

theorem addValidator_effect {validator : Address}
    (h : addValidator env admin chain validator s = .ok s') :
    Effect s ⟨env, .addValidator admin chain validator⟩ s' := by
  unfold addValidator at h
  obtain ⟨config, hconfig, h⟩ := requireAdmin_bind h
  obtain ⟨vs, -, h⟩ := expect_bind.mp h
  obtain ⟨-, h⟩ := panicIf_bind.mp h
  obtain ⟨-, h⟩ := panicIf_bind.mp h
  cases h
  exact effect_setting rfl hconfig _ s.emergency s.supportedChains

theorem removeValidator_effect {validator : Address}
    (h : removeValidator env admin chain validator s = .ok s') :
    Effect s ⟨env, .removeValidator admin chain validator⟩ s' := by
  unfold removeValidator at h
  obtain ⟨config, hconfig, h⟩ := requireAdmin_bind h
  obtain ⟨vs, -, h⟩ := expect_bind.mp h
  obtain ⟨-, h⟩ := panicIf_bind.mp h
  obtain ⟨-, h⟩ := panicIf_bind.mp h
  cases h
  exact effect_setting rfl hconfig _ s.emergency s.supportedChains

theorem setFeeTier_effect {index feeBps : ℕ} {least most : ℤ}
    (h : setFeeTier env admin chain index least most feeBps s = .ok s') :
    Effect s ⟨env, .setFeeTier admin chain index least most feeBps⟩ s' := by
  unfold setFeeTier at h
  obtain ⟨config, hconfig, h⟩ := requireAdmin_bind h
  obtain ⟨hfee, h⟩ := panicIf_bind.mp h
  obtain ⟨-, h⟩ := panicIf_bind.mp h
  obtain ⟨-, h⟩ := panicIf_bind.mp h
  cases h
  have heffect := Effect.settings (s := s) env (.setFeeTier admin chain index least most feeBps)
    config config s.validatorSet
    (s.feeTier.set (chain, index) ⟨chain, least, most, feeBps, true⟩) s.emergency s.supportedChains
    rfl hconfig (.refl config) (Store.forall_set (fun _ _ hk => .inl hk) (.inr (not_not.mp hfee)))
  rw [← hconfig] at heffect
  exact heffect

theorem pauseBridge_effect {reason : String} {unpauseAfter : Option ℕ}
    (h : pauseBridge env admin reason unpauseAfter s = .ok s') :
    Effect s ⟨env, .pauseBridge admin reason unpauseAfter⟩ s' := by
  unfold pauseBridge at h
  obtain ⟨config, hconfig, h⟩ := requireAdmin_bind h
  cases h
  exact effect_setting rfl hconfig s.validatorSet _ s.supportedChains

theorem unpauseBridge_effect (h : unpauseBridge env admin s = .ok s') :
    Effect s ⟨env, .unpauseBridge admin⟩ s' := by
  unfold unpauseBridge at h
  obtain ⟨config, hconfig, h⟩ := requireAdmin_bind h
  cases h
  exact effect_setting rfl hconfig s.validatorSet _ s.supportedChains

end Settings

section Transactions

variable {env : Env} {s s' : State} {admin sender : Address} {chain : SupportedChain}
  {code : String} {id r : ℕ} {amount : ℤ} {hash : String}

theorem registerWrappedAsset_effect {issuer : Address}
    (h : registerWrappedAsset env admin code issuer chain s = .ok s') :
    Effect s ⟨env, .registerWrappedAsset admin code issuer chain⟩ s' := by
  unfold registerWrappedAsset at h
  obtain ⟨config, hconfig, h⟩ := requireAdmin_bind h
  obtain ⟨-, h⟩ := panicIf_bind.mp h
  cases h
  exact .registerWrappedAsset env admin code issuer chain

theorem deactivateWrappedAsset_effect (hk : Keyed s)
    (h : deactivateWrappedAsset env admin code chain s = .ok s') :
    Effect s ⟨env, .deactivateWrappedAsset admin code chain⟩ s' := by
  unfold deactivateWrappedAsset at h
  obtain ⟨config, hconfig, h⟩ := requireAdmin_bind h
  obtain ⟨asset, hasset, h⟩ := expect_bind.mp h
  cases h
  obtain ⟨rfl, rfl⟩ := Prod.mk.inj (hk.wrappedAsset _ _ hasset)
  exact .deactivateWrappedAsset env admin _ _ asset hasset

theorem lockAssets_effect (hk : Keyed s) {destAddress : String}
    (h : lockAssets env sender chain code amount destAddress hash s = .ok (r, s')) :
    Effect s ⟨env, .lockAssets sender chain code amount destAddress hash⟩ s' := by
  unfold lockAssets at h
  obtain ⟨-, h⟩ := requireAuth_bind.mp h
  obtain ⟨emergency, h⟩ := requireNotPaused_bind h
  obtain ⟨config, hconfig, h⟩ := getConfig_bind.mp h
  obtain ⟨-, h⟩ := panicIf_bind.mp h
  obtain ⟨-, h⟩ := panicIf_bind.mp h
  obtain ⟨-, h⟩ := panicIf_bind.mp h
  obtain ⟨-, h⟩ := panicIf_bind.mp h
  obtain ⟨-, h⟩ := panicIf_bind.mp h
  obtain ⟨hunused, h⟩ := panicIf_bind.mp h
  obtain ⟨asset, hasset, h⟩ := expect_bind.mp h
  obtain ⟨-, h⟩ := panicIf_bind.mp h
  obtain ⟨fee, hfee, h⟩ := bind_ok.mp h
  have hfees := calculateFee_ok hconfig hfee
  obtain ⟨-, h⟩ := I128.sub_bind.mp h
  obtain ⟨config', hconfig', h⟩ := nextTxId_bind h
  obtain rfl : config = config' := Option.some.inj (hconfig.symm.trans hconfig')
  obtain ⟨hfits, h⟩ := I128.add_bind.mp h
  cases h
  obtain ⟨rfl, rfl⟩ := Prod.mk.inj (hk.wrappedAsset _ _ hasset)
  exact .lockAssets env sender _ _ amount destAddress hash config asset fee emergency hconfig
    (isDuplicateTx_false hunused) hasset hfees hfits

theorem approveTransaction_effect (hk : Keyed s) {validator : Address} {signature : String}
    (h : approveTransaction env validator id chain signature s = .ok (r, s')) :
    Effect s ⟨env, .approveTransaction validator id chain signature⟩ s' := by
  unfold approveTransaction at h
  obtain ⟨-, h⟩ := requireAuth_bind.mp h
  obtain ⟨emergency, h⟩ := requireNotPaused_bind h
  obtain ⟨tx, htx, h⟩ := expect_bind.mp h
  obtain ⟨hpending, h⟩ := panicIf_bind.mp h
  obtain ⟨-, h⟩ := panicIf_bind.mp h
  obtain ⟨vs, hvs, h⟩ := expect_bind.mp h
  obtain ⟨-, h⟩ := panicIf_bind.mp h
  obtain ⟨hmember, h⟩ := panicIf_bind.mp h
  obtain ⟨-, h⟩ := panicIf_bind.mp h
  obtain ⟨-, h⟩ := U32.add_bind.mp h
  cases h
  obtain rfl := hk.tx _ _ htx
  exact .approveTransaction env validator _ chain signature tx vs _ emergency htx
    (not_not.mp hpending) hvs (not_not.mp hmember)

theorem completeTransaction_effect (hk : Keyed s)
    (h : completeTransaction env admin id hash s = .ok s') :
    Effect s ⟨env, .completeTransaction admin id hash⟩ s' := by
  unfold completeTransaction at h
  obtain ⟨config, hconfig, h⟩ := requireAdmin_bind h
  obtain ⟨tx, htx, h⟩ := expect_bind.mp h
  obtain ⟨hvalidated, h⟩ := panicIf_bind.mp h
  obtain ⟨asset, hasset, h⟩ := expect_bind.mp h
  obtain ⟨-, h⟩ := I128.add_bind.mp h
  cases h
  obtain rfl := hk.tx _ _ htx
  have heffect := Effect.completeTransaction env admin _ hash tx asset htx (not_not.mp hvalidated)
    hasset
  rw [← hk.wrappedAsset _ _ hasset] at heffect
  exact heffect

theorem mintAssets_effect {merkleRoot : String}
    (h : mintAssets env sender chain code amount hash merkleRoot s = .ok (r, s')) :
    Effect s ⟨env, .mintAssets sender chain code amount hash merkleRoot⟩ s' := by
  unfold mintAssets at h
  obtain ⟨-, h⟩ := requireAuth_bind.mp h
  obtain ⟨emergency, h⟩ := requireNotPaused_bind h
  obtain ⟨config, hconfig, h⟩ := getConfig_bind.mp h
  obtain ⟨-, h⟩ := panicIf_bind.mp h
  obtain ⟨-, h⟩ := panicIf_bind.mp h
  obtain ⟨hunused, h⟩ := panicIf_bind.mp h
  obtain ⟨asset, hasset, h⟩ := expect_bind.mp h
  obtain ⟨-, h⟩ := panicIf_bind.mp h
  obtain ⟨config', hconfig', h⟩ := nextTxId_bind h
  obtain rfl : config = config' := Option.some.inj (hconfig.symm.trans hconfig')
  cases h
  exact .mintAssets env sender chain code amount hash merkleRoot config asset emergency hconfig
    (isDuplicateTx_false hunused) hasset

theorem releaseAssets_effect (hk : Keyed s) (h : releaseAssets env admin id s = .ok s') :
    Effect s ⟨env, .releaseAssets admin id⟩ s' := by
  unfold releaseAssets at h
  obtain ⟨config, hconfig, h⟩ := requireAdmin_bind h
  obtain ⟨tx, htx, h⟩ := expect_bind.mp h
  obtain ⟨hvalidated, h⟩ := panicIf_bind.mp h
  obtain ⟨hinbound, h⟩ := panicIf_bind.mp h
  obtain ⟨asset, hasset, h⟩ := expect_bind.mp h
  cases h
  obtain rfl := hk.tx _ _ htx
  have heffect := Effect.releaseAssets env admin _ tx asset htx (not_not.mp hvalidated)
    (not_not.mp hinbound) hasset
  rw [← hk.wrappedAsset _ _ hasset] at heffect
  exact heffect

theorem cancelTransaction_effect (hk : Keyed s) {caller : Address}
    (h : cancelTransaction env caller id s = .ok s') :
    Effect s ⟨env, .cancelTransaction caller id⟩ s' := by
  unfold cancelTransaction at h
  obtain ⟨-, h⟩ := requireAuth_bind.mp h
  obtain ⟨tx, htx, h⟩ := expect_bind.mp h
  obtain ⟨config, hconfig, h⟩ := getConfig_bind.mp h
  obtain ⟨-, h⟩ := panicIf_bind.mp h
  obtain ⟨hpending, h⟩ := panicIf_bind.mp h
  unfold returnLocked at h
  split at h
  · rename_i houtbound
    obtain ⟨asset, hasset, h⟩ := expect_bind.mp h
    cases h
    obtain rfl := hk.tx _ _ htx
    have heffect := Effect.cancelOutbound env caller _ tx asset htx (not_not.mp hpending) houtbound
      hasset
    rw [← hk.wrappedAsset _ _ hasset] at heffect
    exact heffect
  · rename_i hinbound
    cases h
    obtain rfl := hk.tx _ _ htx
    refine .cancelInbound env caller _ tx htx (not_not.mp hpending) ?_
    cases hd : tx.direction with
    | outbound => exact absurd hd hinbound
    | inbound => rfl

end Transactions

section Records

variable {env : Env} {s s' : State} {admin provider : Address} {chain : SupportedChain}
  {code : String} {id n : ℕ} {amount r : ℤ}

theorem createLiquidityPool_effect (h : createLiquidityPool env admin code chain s = .ok (n, s')) :
    Effect s ⟨env, .createLiquidityPool admin code chain⟩ s' := by
  unfold createLiquidityPool at h
  obtain ⟨-, -, h⟩ := requireAdmin_bind h
  obtain ⟨config, hconfig, h⟩ := nextLpId_bind h
  cases h
  exact .createLiquidityPool env admin code chain config hconfig

theorem addLiquidity_effect (hk : Keyed s) (h : addLiquidity env provider id amount s = .ok (r, s')) :
    Effect s ⟨env, .addLiquidity provider id amount⟩ s' := by
  unfold addLiquidity at h
  obtain ⟨-, h⟩ := requireAuth_bind.mp h
  obtain ⟨hpositive, h⟩ := panicIf_bind.mp h
  obtain ⟨pool, hpool, h⟩ := expect_bind.mp h
  obtain ⟨-, h⟩ := panicIf_bind.mp h
  obtain ⟨lpTokens, htokens, h⟩ := bind_ok.mp h
  obtain ⟨-, h⟩ := I128.add_bind.mp h
  obtain ⟨-, h⟩ := I128.add_bind.mp h
  obtain ⟨lpDeposit, h⟩ := setLpDeposit_bind h
  cases h
  obtain rfl := hk.liquidityPool _ _ hpool
  exact .addLiquidity env provider _ amount _ pool lpDeposit (not_not.mp hpositive) hpool
    htokens

theorem removeLiquidity_effect (hk : Keyed s)
    (h : removeLiquidity env provider id amount s = .ok (r, s')) :
    Effect s ⟨env, .removeLiquidity provider id amount⟩ s' := by
  unfold removeLiquidity at h
  obtain ⟨-, h⟩ := requireAuth_bind.mp h
  obtain ⟨hpositive, h⟩ := panicIf_bind.mp h
  obtain ⟨pool, hpool, h⟩ := expect_bind.mp h
  obtain ⟨-, h⟩ := panicIf_bind.mp h
  obtain ⟨henough, h⟩ := panicIf_bind.mp h
  obtain ⟨-, h⟩ := I128.mul_bind.mp h
  obtain ⟨-, -, h⟩ := I128.div_bind.mp h
  obtain ⟨-, h⟩ := I128.sub_bind.mp h
  obtain ⟨-, h⟩ := I128.sub_bind.mp h
  cases h
  obtain rfl := hk.liquidityPool _ _ hpool
  exact .removeLiquidity env provider _ amount pool (not_not.mp hpositive) hpool
    (not_not.mp henough)

theorem fileDispute_effect (hk : Keyed s) {disputer : Address} {reason : String}
    (h : fileDispute env disputer id reason s = .ok (n, s')) :
    Effect s ⟨env, .fileDispute disputer id reason⟩ s' := by
  unfold fileDispute at h
  obtain ⟨-, h⟩ := requireAuth_bind.mp h
  obtain ⟨-, h⟩ := panicIf_bind.mp h
  obtain ⟨-, h⟩ := panicIf_bind.mp h
  obtain ⟨tx, htx, h⟩ := expect_bind.mp h
  obtain ⟨hundecided, h⟩ := panicIf_bind.mp h
  obtain ⟨config, hconfig, h⟩ := nextDisputeId_bind h
  cases h
  obtain rfl := hk.tx _ _ htx
  exact .fileDispute env disputer _ reason tx config htx (not_not.mp hundecided) hconfig

theorem resolveDispute_effect (hk : Keyed s) {resolution : String}
    (h : resolveDispute env admin id resolution s = .ok s') :
    Effect s ⟨env, .resolveDispute admin id resolution⟩ s' := by
  unfold resolveDispute at h
  obtain ⟨-, -, h⟩ := requireAdmin_bind h
  obtain ⟨dispute, hdispute, h⟩ := expect_bind.mp h
  obtain ⟨hunresolved, h⟩ := panicIf_bind.mp h
  have hunresolved : dispute.resolved = false := by simpa using hunresolved
  dsimp only at h
  split at h
  · rename_i hcancel
    subst hcancel
    split at h
    · rename_i tx htx
      cases h
      obtain rfl := hk.dispute _ _ hdispute
      have hset : ∀ s : State, setTransaction { tx with status := .cancelled } s =
          { s with tx := s.tx.set dispute.txId { tx with status := .cancelled } } := by
        intro s
        unfold setTransaction
        rw [hk.tx _ _ htx]
      rw [hset]
      exact .resolveCancel env admin _ dispute tx hdispute hunresolved htx
    · rename_i htx
      cases h
      obtain rfl := hk.dispute _ _ hdispute
      exact .resolveOther env admin _ _ dispute hdispute hunresolved fun _ => htx
  · rename_i hother
    cases h
    obtain rfl := hk.dispute _ _ hdispute
    exact .resolveOther env admin _ _ dispute hdispute hunresolved fun he => absurd he hother

end Records

section Runs

variable {s s' : State} {a : Action}

theorem next_effect (hk : Keyed s) (h : next a s = .ok s') : Effect s a s' := by
  obtain ⟨env, op⟩ := a
  cases op with
  | initializeContract => exact initializeContract_effect h
  | updateConfig => exact updateConfig_effect h
  | transferAdmin => exact transferAdmin_effect h
  | addChain => exact addChain_effect h
  | removeChain => exact removeChain_effect h
  | registerValidatorSet => exact registerValidatorSet_effect h
  | updateValidatorThreshold => exact updateValidatorThreshold_effect h
  | addValidator => exact addValidator_effect h
  | removeValidator => exact removeValidator_effect h
  | registerWrappedAsset => exact registerWrappedAsset_effect h
  | deactivateWrappedAsset => exact deactivateWrappedAsset_effect hk h
  | setFeeTier => exact setFeeTier_effect h
  | lockAssets =>
    obtain ⟨⟨id, s₁⟩, hcall, rfl⟩ := map_ok.mp h
    exact lockAssets_effect hk hcall
  | approveTransaction =>
    obtain ⟨⟨approvals, s₁⟩, hcall, rfl⟩ := map_ok.mp h
    exact approveTransaction_effect hk hcall
  | completeTransaction => exact completeTransaction_effect hk h
  | mintAssets =>
    obtain ⟨⟨id, s₁⟩, hcall, rfl⟩ := map_ok.mp h
    exact mintAssets_effect hcall
  | releaseAssets => exact releaseAssets_effect hk h
  | createLiquidityPool =>
    obtain ⟨⟨id, s₁⟩, hcall, rfl⟩ := map_ok.mp h
    exact createLiquidityPool_effect hcall
  | addLiquidity =>
    obtain ⟨⟨lpTokens, s₁⟩, hcall, rfl⟩ := map_ok.mp h
    exact addLiquidity_effect hk hcall
  | removeLiquidity =>
    obtain ⟨⟨withdrawn, s₁⟩, hcall, rfl⟩ := map_ok.mp h
    exact removeLiquidity_effect hk hcall
  | pauseBridge => exact pauseBridge_effect h
  | unpauseBridge => exact unpauseBridge_effect h
  | fileDispute =>
    obtain ⟨⟨id, s₁⟩, hcall, rfl⟩ := map_ok.mp h
    exact fileDispute_effect hk hcall
  | resolveDispute => exact resolveDispute_effect hk h
  | cancelTransaction => exact cancelTransaction_effect hk h

theorem keyed_initialized (admin : Address) : Keyed (initialized admin) where
  tx _ _ hk := by cases hk
  wrappedAsset _ _ hk := by cases hk
  liquidityPool _ _ hk := by cases hk
  dispute _ _ hk := by cases hk

theorem keyed_effect (h : Keyed s) (heffect : Effect s a s') : Keyed s' := by
  cases heffect with
  | settings | initializeContract => exact ⟨h.tx, h.wrappedAsset, h.liquidityPool, h.dispute⟩
  | registerWrappedAsset =>
    exact ⟨h.tx, Store.forall_set h.wrappedAsset rfl, h.liquidityPool, h.dispute⟩
  | deactivateWrappedAsset env admin code chain asset found =>
    exact ⟨h.tx, Store.forall_set h.wrappedAsset (h.wrappedAsset _ asset found), h.liquidityPool,
      h.dispute⟩
  | lockAssets env sender chain code amount destAddress hash config asset fee emergency found unused
      registered =>
    exact ⟨Store.forall_set h.tx rfl,
      Store.forall_set h.wrappedAsset (h.wrappedAsset _ asset registered), h.liquidityPool, h.dispute⟩
  | approveTransaction env validator id chain signature tx vs vsig emergency found =>
    exact ⟨Store.forall_set h.tx (h.tx id tx found), h.wrappedAsset, h.liquidityPool, h.dispute⟩
  | completeTransaction env admin id hash tx asset found validated registered =>
    exact ⟨Store.forall_set h.tx (h.tx id tx found),
      Store.forall_set h.wrappedAsset (h.wrappedAsset _ asset registered), h.liquidityPool, h.dispute⟩
  | mintAssets => exact ⟨Store.forall_set h.tx rfl, h.wrappedAsset, h.liquidityPool, h.dispute⟩
  | releaseAssets env admin id tx asset found validated inbound registered =>
    exact ⟨Store.forall_set h.tx (h.tx id tx found),
      Store.forall_set h.wrappedAsset (h.wrappedAsset _ asset registered), h.liquidityPool, h.dispute⟩
  | createLiquidityPool =>
    exact ⟨h.tx, h.wrappedAsset, Store.forall_set h.liquidityPool rfl, h.dispute⟩
  | addLiquidity env provider id amount lpTokens pool lpDeposit positive found =>
    exact ⟨h.tx, h.wrappedAsset, Store.forall_set h.liquidityPool (h.liquidityPool id pool found),
      h.dispute⟩
  | removeLiquidity env provider id lpAmount pool positive found =>
    exact ⟨h.tx, h.wrappedAsset, Store.forall_set h.liquidityPool (h.liquidityPool id pool found),
      h.dispute⟩
  | fileDispute env disputer id reason tx config found =>
    exact ⟨Store.forall_set h.tx (h.tx id tx found), h.wrappedAsset, h.liquidityPool,
      Store.forall_set h.dispute rfl⟩
  | resolveCancel env admin id dispute tx found unresolved about =>
    exact ⟨Store.forall_set h.tx (h.tx _ tx about), h.wrappedAsset, h.liquidityPool,
      Store.forall_set h.dispute (h.dispute id dispute found)⟩
  | resolveOther env admin id resolution dispute found =>
    exact ⟨h.tx, h.wrappedAsset, h.liquidityPool,
      Store.forall_set h.dispute (h.dispute id dispute found)⟩
  | cancelOutbound env caller id tx asset found pending outbound registered =>
    exact ⟨Store.forall_set h.tx (h.tx id tx found),
      Store.forall_set h.wrappedAsset (h.wrappedAsset _ asset registered), h.liquidityPool, h.dispute⟩
  | cancelInbound env caller id tx found =>
    exact ⟨Store.forall_set h.tx (h.tx id tx found), h.wrappedAsset, h.liquidityPool, h.dispute⟩

/-- What every effect preserves of log and state, every run of the bridge has. -/
theorem run_preserves {ok : List (State × Action) → State → Action → Prop} {admin : Address}
    {log : List (State × Action)} {P : List (State × Action) → State → Prop}
    (hrun : History next ok (initialized admin) log s) (hstart : P [] (initialized admin))
    (step : ∀ log s a s', ok log s a → next a s = .ok s' → Effect s a s' → P log s →
      P ((s, a) :: log) s') :
    Keyed s ∧ P log s := by
  refine hrun.preserves (P := fun log s => Keyed s ∧ P log s)
    ⟨keyed_initialized admin, hstart⟩ ?_
  rintro log s a s' hok hn ⟨hkeyed, hP⟩
  have heffect := next_effect hkeyed hn
  exact ⟨keyed_effect hkeyed heffect, step log s a s' hok hn heffect hP⟩

end Runs

end Bridge
