import StellAIverse.Bridge.Lifecycle

/-!
# The backing of wrapped assets

Each transaction takes its part in the two totals of one asset, by its direction and
status. Calls change a part and a total alike, but for some that change one of them
only: a second registration, the cancellation of a disputed lock, the completion of
an inbound transaction. Without these, and while nothing is released beyond the
supply, the totals are the sums of the parts and the supply is backed.
-/

namespace Bridge

open Soroban

variable {s s' : State} {a : Action} {id : ℕ} {tx tx' : BridgeTransaction}
  {txs : Store ℕ BridgeTransaction} {assets : Store (String × SupportedChain) WrappedAsset}
  {asset asset' : WrappedAsset} {k : String × SupportedChain}

/-- The asset a transaction is about, on the other chain. -/
def BridgeTransaction.assetKey (tx : BridgeTransaction) : String × SupportedChain :=
  match tx.direction with
  | .outbound => (tx.assetCode, tx.destChain)
  | .inbound => (tx.assetCode, tx.sourceChain)

/-- What the transaction adds to `total_locked`. -/
def BridgeTransaction.lockedPart (tx : BridgeTransaction) : ℤ :=
  match tx.direction with
  | .outbound => if tx.status = .cancelled then 0 else tx.amount
  | .inbound => if tx.status = .completed then -tx.amount else 0

/-- What the transaction adds to `total_supply`. -/
def BridgeTransaction.suppliedPart (tx : BridgeTransaction) : ℤ :=
  match tx.direction with
  | .outbound => if tx.status = .completed then tx.amount else 0
  | .inbound => if tx.status = .completed then -tx.amount else 0

/-- The parts of the transactions about one asset. -/
def partsOf (part : BridgeTransaction → ℤ) (k : String × SupportedChain)
    (txs : Store ℕ BridgeTransaction) : ℤ :=
  txs.total fun _ tx => if tx.assetKey = k then part tx else 0

/-- A transaction takes the place of one about the same asset. -/
theorem partsOf_moved (part : BridgeTransaction → ℤ) (k : String × SupportedChain)
    (hfound : txs.get? id = some tx) (hkey : tx'.assetKey = tx.assetKey) :
    partsOf part k (txs.set id tx') =
      partsOf part k txs + if tx.assetKey = k then part tx' - part tx else 0 := by
  unfold partsOf
  rw [Store.total_set, Store.weight_some hfound, hkey]
  split <;> ring

theorem partsOf_opened (part : BridgeTransaction → ℤ) (k : String × SupportedChain)
    (hfresh : txs.get? id = none) :
    partsOf part k (txs.set id tx') = partsOf part k txs + if tx'.assetKey = k then part tx' else 0 := by
  unfold partsOf
  rw [Store.total_set, Store.weight_none hfresh]
  ring

/-- Only what is not supplied yet distinguishes the two parts. -/
theorem suppliedPart_le_lockedPart (h : 0 ≤ tx.amount) : tx.suppliedPart ≤ tx.lockedPart := by
  unfold BridgeTransaction.suppliedPart BridgeTransaction.lockedPart
  cases tx.direction with
  | outbound => cases hs : tx.status <;> simp [h]
  | inbound => exact le_rfl

/-- The totals of the assets are the parts of the transactions. -/
structure Backed (assets : Store (String × SupportedChain) WrappedAsset)
    (txs : Store ℕ BridgeTransaction) : Prop where
  amounts : ∀ id tx, txs.get? id = some tx → 0 ≤ tx.amount
  known : ∀ id tx, txs.get? id = some tx → (assets.get? tx.assetKey).isSome = true
  locked : ∀ k asset, assets.get? k = some asset →
    asset.totalLocked = partsOf BridgeTransaction.lockedPart k txs
  supplied : ∀ k asset, assets.get? k = some asset →
    asset.totalSupply = partsOf BridgeTransaction.suppliedPart k txs
  nonneg : ∀ k asset, assets.get? k = some asset → 0 ≤ asset.totalSupply
  bounded : ∀ k asset, assets.get? k = some asset → asset.totalLocked ≤ I128.max

namespace Backed

theorem known_set (h : Backed assets txs) (id : ℕ) (tx : BridgeTransaction)
    (hk : txs.get? id = some tx) : ((assets.set k asset').get? tx.assetKey).isSome = true := by
  rw [Store.get?_set]
  split
  · rfl
  · exact h.known id tx hk

/-- What no transaction is about has no parts. -/
theorem partsOf_unknown (h : Backed assets txs) (hnone : assets.get? k = none)
    (part : BridgeTransaction → ℤ) : partsOf part k txs = 0 := by
  refine Store.total_eq_zero fun id tx hk => if_neg fun he => ?_
  have hknown := h.known id tx hk
  rw [he, hnone] at hknown
  cases hknown

theorem supply_le_locked (h : Backed assets txs) (hasset : assets.get? k = some asset) :
    asset.totalSupply ≤ asset.totalLocked := by
  rw [h.supplied k asset hasset, h.locked k asset hasset]
  refine Store.total_le_total fun id tx hk => ?_
  split
  · exact suppliedPart_le_lockedPart (h.amounts id tx hk)
  · exact le_rfl

/-- What is locked but not supplied covers every transaction that is still open. -/
theorem amount_le_locked (h : Backed assets txs) (hasset : assets.get? tx.assetKey = some asset)
    (hfound : txs.get? id = some tx) (hopen : tx.lockedPart - tx.suppliedPart = tx.amount) :
    tx.amount ≤ asset.totalLocked := by
  have hle := Store.weight_le_total (s := txs)
    (w := fun _ tx' => if tx'.assetKey = tx.assetKey then tx'.lockedPart - tx'.suppliedPart else 0) id
    (by
      intro id' tx' hk
      have hpart := suppliedPart_le_lockedPart (h.amounts id' tx' hk)
      split <;> omega)
  have hsplit : txs.total (fun _ tx' =>
        if tx'.assetKey = tx.assetKey then tx'.lockedPart - tx'.suppliedPart else 0) +
      partsOf BridgeTransaction.suppliedPart tx.assetKey txs =
      partsOf BridgeTransaction.lockedPart tx.assetKey txs := by
    unfold partsOf
    rw [← Store.total_add]
    apply Store.total_congr
    intro id' tx' _
    split <;> ring
  have hnonneg := h.nonneg _ asset hasset
  rw [Store.weight_some hfound, if_pos rfl, hopen] at hle
  rw [h.supplied _ asset hasset] at hnonneg
  rw [h.locked _ asset hasset]
  omega

/-- A transaction changes, and the totals of its asset with it. -/
theorem moved (h : Backed assets txs) (hfound : txs.get? id = some tx)
    (hasset : assets.get? tx.assetKey = some asset) (hkey : tx'.assetKey = tx.assetKey)
    (hamount : tx'.amount = tx.amount)
    (hlocked : asset'.totalLocked = asset.totalLocked + (tx'.lockedPart - tx.lockedPart))
    (hsupplied : asset'.totalSupply = asset.totalSupply + (tx'.suppliedPart - tx.suppliedPart))
    (hnonneg : 0 ≤ asset'.totalSupply) (hbounded : asset'.totalLocked ≤ I128.max) :
    Backed (assets.set tx.assetKey asset') (txs.set id tx') where
  amounts := Store.forall_set h.amounts (hamount ▸ h.amounts id tx hfound)
  known := by
    refine Store.forall_set h.known_set ?_
    rw [hkey, Store.get?_set_self]
    rfl
  locked k asset₁ hk := by
    rw [partsOf_moved _ k hfound hkey]
    rw [Store.get?_set] at hk
    split at hk
    · rename_i he
      cases hk
      rw [if_pos he.symm, he, hlocked, h.locked _ asset hasset]
    · rename_i hne
      rw [if_neg (Ne.symm hne), add_zero]
      exact h.locked k asset₁ hk
  supplied k asset₁ hk := by
    rw [partsOf_moved _ k hfound hkey]
    rw [Store.get?_set] at hk
    split at hk
    · rename_i he
      cases hk
      rw [if_pos he.symm, he, hsupplied, h.supplied _ asset hasset]
    · rename_i hne
      rw [if_neg (Ne.symm hne), add_zero]
      exact h.supplied k asset₁ hk
  nonneg := Store.forall_set h.nonneg hnonneg
  bounded := Store.forall_set h.bounded hbounded

/-- A transaction changes its status without changing its parts. -/
theorem kept (h : Backed assets txs) (hfound : txs.get? id = some tx)
    (hkey : tx'.assetKey = tx.assetKey) (hamount : tx'.amount = tx.amount)
    (hlocked : tx'.lockedPart = tx.lockedPart) (hsupplied : tx'.suppliedPart = tx.suppliedPart) :
    Backed assets (txs.set id tx') where
  amounts := Store.forall_set h.amounts (hamount ▸ h.amounts id tx hfound)
  known := Store.forall_set h.known (hkey ▸ h.known id tx hfound)
  locked k asset hk := by
    rw [partsOf_moved _ k hfound hkey, hlocked, sub_self, ite_self, add_zero]
    exact h.locked k asset hk
  supplied k asset hk := by
    rw [partsOf_moved _ k hfound hkey, hsupplied, sub_self, ite_self, add_zero]
    exact h.supplied k asset hk
  nonneg := h.nonneg
  bounded := h.bounded

/-- A new transaction, which is part of nothing yet. -/
theorem opened (h : Backed assets txs) (hfresh : txs.get? id = none) (hamount : 0 ≤ tx.amount)
    (hasset : (assets.get? tx.assetKey).isSome = true) (hlocked : tx.lockedPart = 0)
    (hsupplied : tx.suppliedPart = 0) : Backed assets (txs.set id tx) where
  amounts := Store.forall_set h.amounts hamount
  known := Store.forall_set h.known hasset
  locked k asset hk := by
    rw [partsOf_opened _ k hfresh, hlocked, ite_self, add_zero]
    exact h.locked k asset hk
  supplied k asset hk := by
    rw [partsOf_opened _ k hfresh, hsupplied, ite_self, add_zero]
    exact h.supplied k asset hk
  nonneg := h.nonneg
  bounded := h.bounded

/-- A new transaction that locks its amount. -/
theorem lockedNew (h : Backed assets txs) (hfresh : txs.get? id = none) (hamount : 0 ≤ tx.amount)
    (hasset : assets.get? k = some asset) (hkey : tx.assetKey = k) (hpart : tx.lockedPart = tx.amount)
    (hsupplied : tx.suppliedPart = 0) (hlocked : asset'.totalLocked = asset.totalLocked + tx.amount)
    (hsupply : asset'.totalSupply = asset.totalSupply) (hbounded : asset'.totalLocked ≤ I128.max) :
    Backed (assets.set k asset') (txs.set id tx) where
  amounts := Store.forall_set h.amounts hamount
  known := by
    refine Store.forall_set h.known_set ?_
    rw [hkey, Store.get?_set_self]
    rfl
  locked k₁ asset₁ hk := by
    rw [partsOf_opened _ k₁ hfresh, hpart, hkey]
    rw [Store.get?_set] at hk
    split at hk
    · rename_i he
      cases hk
      rw [if_pos he.symm, he, hlocked, h.locked _ asset hasset]
    · rename_i hne
      rw [if_neg (Ne.symm hne), add_zero]
      exact h.locked k₁ asset₁ hk
  supplied := by
    intro k
    rw [partsOf_opened _ k hfresh, hsupplied, ite_self, add_zero]
    revert k
    refine Store.forall_set h.supplied ?_
    rw [hsupply]
    exact h.supplied _ asset hasset
  nonneg := Store.forall_set h.nonneg (hsupply ▸ h.nonneg _ asset hasset)
  bounded := Store.forall_set h.bounded hbounded

/-- An asset is written with the totals it has. -/
theorem rewritten (h : Backed assets txs) (hasset : assets.get? k = some asset)
    (hlocked : asset'.totalLocked = asset.totalLocked)
    (hsupplied : asset'.totalSupply = asset.totalSupply) : Backed (assets.set k asset') txs where
  amounts := h.amounts
  known := h.known_set
  locked := Store.forall_set h.locked (hlocked ▸ h.locked k asset hasset)
  supplied := Store.forall_set h.supplied (hsupplied ▸ h.supplied k asset hasset)
  nonneg := Store.forall_set h.nonneg (hsupplied ▸ h.nonneg k asset hasset)
  bounded := Store.forall_set h.bounded (hlocked ▸ h.bounded k asset hasset)

/-- An asset is registered that was not registered before. -/
theorem registered (h : Backed assets txs) (hnone : assets.get? k = none)
    (hlocked : asset.totalLocked = 0) (hsupplied : asset.totalSupply = 0) :
    Backed (assets.set k asset) txs where
  amounts := h.amounts
  known := h.known_set
  locked := Store.forall_set h.locked (hlocked.trans (h.partsOf_unknown hnone _).symm)
  supplied := Store.forall_set h.supplied (hsupplied.trans (h.partsOf_unknown hnone _).symm)
  nonneg := Store.forall_set h.nonneg hsupplied.ge
  bounded := Store.forall_set h.bounded (hlocked.trans_le (by decide))

end Backed

theorem backed_initialized (admin : Address) :
    Backed (initialized admin).wrappedAsset (initialized admin).tx where
  amounts _ _ hk := by cases hk
  known _ _ hk := by cases hk
  locked _ _ hk := by cases hk
  supplied _ _ hk := by cases hk
  nonneg _ _ hk := by cases hk
  bounded _ _ hk := by cases hk

/-- No rate is above the maximum. -/
structure Rated (s : State) : Prop where
  fee : ∀ config, s.config = some config → config.defaultFeeBps ≤ maxFeeBps
  tiers : ∀ k tier, s.feeTier.get? k = some tier → tier.feeBps ≤ maxFeeBps

theorem rated_initialized (admin : Address) : Rated (initialized admin) where
  fee config hconfig := by
    cases hconfig
    change defaultFeeBps ≤ maxFeeBps
    decide
  tiers _ _ hk := by cases hk

theorem rated_effect (h : Rated s) (heffect : Effect s a s') : Rated s' := by
  cases heffect with
  | settings env op config config' validatorSet feeTier emergency chains quiet found reconfigured
      tiers =>
    refine ⟨fun config₁ hconfig => ?_, fun k tier hk => ?_⟩
    · cases hconfig
      rcases reconfigured.fee with hsame | hle
      · rw [hsame]
        exact h.fee config found
      · exact hle
    · rcases tiers k tier hk with hold | hle
      · exact h.tiers k tier hold
      · exact hle
  | initializeContract env admin config found =>
    refine ⟨fun config₁ hconfig => ?_, h.tiers⟩
    cases hconfig
    change defaultFeeBps ≤ maxFeeBps
    decide
  | registerWrappedAsset | deactivateWrappedAsset | approveTransaction | completeTransaction
  | releaseAssets | addLiquidity | removeLiquidity | resolveCancel | resolveOther | cancelOutbound
  | cancelInbound => exact ⟨h.fee, h.tiers⟩
  | lockAssets _ _ _ _ _ _ _ config _ _ _ found =>
    refine ⟨fun config₁ hconfig => ?_, h.tiers⟩
    cases hconfig
    exact h.fee config found
  | mintAssets _ _ _ _ _ _ _ config _ _ found =>
    refine ⟨fun config₁ hconfig => ?_, h.tiers⟩
    cases hconfig
    exact h.fee config found
  | createLiquidityPool _ _ _ _ config found =>
    refine ⟨fun config₁ hconfig => ?_, h.tiers⟩
    cases hconfig
    exact h.fee config found
  | fileDispute _ _ _ _ _ config _ _ configured =>
    refine ⟨fun config₁ hconfig => ?_, h.tiers⟩
    cases hconfig
    exact h.fee config configured

/-- A fee leaves something of the amount. -/
theorem Rated.fee_le (h : Rated s) {config : BridgeConfig} (hconfig : s.config = some config)
    {amount fee : ℤ} (hamount : 0 ≤ amount) (hfee : FeeOf s config amount fee) : fee ≤ amount := by
  obtain ⟨feeBps, rfl, hrate⟩ := hfee
  have hle : feeBps ≤ maxFeeBps := by
    rcases hrate with rfl | ⟨k, tier, hk, rfl⟩
    · exact h.fee config hconfig
    · exact h.tiers k tier hk
  have hbps : (feeBps : ℤ) ≤ 500 := Int.ofNat_le.mpr hle
  have hfloor := I128.tdiv_mul_le (b := 10000) (mul_nonneg hamount (Int.natCast_nonneg feeBps))
    (by decide)
  have hproduct := mul_le_mul_of_nonneg_left hbps hamount
  omega

/-- The calls that keep totals and transactions in step: no asset is registered again, amounts
are not negative, an inbound transaction is released and not completed, within the supply of
its asset, and no outbound transaction is cancelled by the resolution of a dispute. -/
def Action.KeepsBacking (s : State) (a : Action) : Prop :=
  match a.op with
  | .registerWrappedAsset _ code _ chain => (s.wrappedAsset.get? (code, chain)).isNone = true
  | .lockAssets _ _ _ amount _ _ => 0 ≤ amount
  | .mintAssets _ _ _ amount _ _ => 0 ≤ amount
  | .completeTransaction _ id _ => ∀ tx ∈ s.tx.get? id, tx.direction = .outbound
  | .releaseAssets _ id => ∀ tx ∈ s.tx.get? id,
    ∀ asset ∈ s.wrappedAsset.get? (tx.assetCode, tx.sourceChain), tx.amount ≤ asset.totalSupply
  | .resolveDispute _ id resolution => resolution = "cancel" →
    ∀ d ∈ s.dispute.get? id, ∀ tx ∈ s.tx.get? d.txId, tx.direction = .inbound
  | _ => True

instance (s : State) : (a : Action) → Decidable (a.KeepsBacking s)
  | ⟨_, .registerWrappedAsset ..⟩ => inferInstanceAs (Decidable (_ = true))
  | ⟨_, .lockAssets ..⟩ | ⟨_, .mintAssets ..⟩ => inferInstanceAs (Decidable (_ ≤ _))
  | ⟨_, .completeTransaction ..⟩ => inferInstanceAs (Decidable (∀ tx ∈ _, _))
  | ⟨_, .releaseAssets ..⟩ => inferInstanceAs (Decidable (∀ tx ∈ _, ∀ asset ∈ _, _))
  | ⟨_, .resolveDispute ..⟩ => inferInstanceAs (Decidable (_ → ∀ d ∈ _, ∀ tx ∈ _, _))
  | ⟨_, .initializeContract ..⟩ | ⟨_, .updateConfig ..⟩ | ⟨_, .transferAdmin ..⟩
  | ⟨_, .addChain ..⟩ | ⟨_, .removeChain ..⟩ | ⟨_, .registerValidatorSet ..⟩
  | ⟨_, .updateValidatorThreshold ..⟩ | ⟨_, .addValidator ..⟩ | ⟨_, .removeValidator ..⟩
  | ⟨_, .deactivateWrappedAsset ..⟩ | ⟨_, .setFeeTier ..⟩ | ⟨_, .approveTransaction ..⟩
  | ⟨_, .createLiquidityPool ..⟩ | ⟨_, .addLiquidity ..⟩ | ⟨_, .removeLiquidity ..⟩
  | ⟨_, .pauseBridge ..⟩ | ⟨_, .unpauseBridge ..⟩ | ⟨_, .fileDispute ..⟩
  | ⟨_, .cancelTransaction ..⟩ => .isTrue trivial

/-- What a completed call subtracts was there. -/
def Action.WithinTotals (s : State) (a : Action) : Prop :=
  match a.op with
  | .releaseAssets _ id => ∀ tx ∈ s.tx.get? id,
    ∀ asset ∈ s.wrappedAsset.get? (tx.assetCode, tx.sourceChain),
      tx.amount ≤ asset.totalSupply ∧ tx.amount ≤ asset.totalLocked
  | .cancelTransaction _ id => ∀ tx ∈ s.tx.get? id, tx.direction = .outbound →
    ∀ asset ∈ s.wrappedAsset.get? (tx.assetCode, tx.destChain), tx.amount ≤ asset.totalLocked
  | _ => True

/-- A difference that stays between zero and the maximum is exact. -/
theorem saturatingSub_eq {total amount : ℤ} (hamount : 0 ≤ amount) (hle : amount ≤ total)
    (hmax : total ≤ I128.max) : I128.saturatingSub total amount = total - amount := by
  apply I128.saturatingSub_of_inRange
  have hmin : I128.min ≤ 0 := by decide
  exact ⟨by omega, by omega⟩

namespace Backed

/-- An outbound transaction is completed: its amount is supplied now. -/
theorem completed (h : Backed assets txs) (hash : String) (hfound : txs.get? id = some tx)
    (hvalidated : tx.status = .validated) (houtbound : tx.direction = .outbound)
    (hasset : assets.get? (tx.assetCode, tx.destChain) = some asset) :
    Backed (assets.set (tx.assetCode, tx.destChain)
        { asset with totalSupply := asset.totalSupply + tx.amount })
      (txs.set id { tx with status := .completed, destTxHash := some hash }) := by
  have hkey : tx.assetKey = (tx.assetCode, tx.destChain) := by
    simp [BridgeTransaction.assetKey, houtbound]
  have hnonneg := add_nonneg (h.nonneg _ asset hasset) (h.amounts id tx hfound)
  have hbounded := h.bounded _ asset hasset
  rw [← hkey] at hasset ⊢
  refine h.moved hfound hasset (by rfl) (by rfl) ?_ ?_ hnonneg hbounded
  · simp [BridgeTransaction.lockedPart, houtbound, hvalidated]
  · simp [BridgeTransaction.suppliedPart, houtbound, hvalidated]

/-- An inbound transaction is released, within the supply. -/
theorem released (h : Backed assets txs) (hfound : txs.get? id = some tx)
    (hvalidated : tx.status = .validated) (hinbound : tx.direction = .inbound)
    (hasset : assets.get? (tx.assetCode, tx.sourceChain) = some asset)
    (hsupply : tx.amount ≤ asset.totalSupply) :
    Backed (assets.set (tx.assetCode, tx.sourceChain) { asset with
        totalSupply := I128.saturatingSub asset.totalSupply tx.amount
        totalLocked := I128.saturatingSub asset.totalLocked tx.amount })
      (txs.set id { tx with status := .completed }) := by
  have hkey : tx.assetKey = (tx.assetCode, tx.sourceChain) := by
    simp [BridgeTransaction.assetKey, hinbound]
  have hamount := h.amounts id tx hfound
  have hbounded := h.bounded _ asset hasset
  have hbacked := h.supply_le_locked hasset
  rw [saturatingSub_eq hamount hsupply (hbacked.trans hbounded),
    saturatingSub_eq hamount (hsupply.trans hbacked) hbounded]
  rw [← hkey] at hasset ⊢
  refine h.moved hfound hasset (by rfl) (by rfl) ?_ ?_ (sub_nonneg.mpr hsupply)
    ((sub_le_self _ hamount).trans hbounded)
  · simp [BridgeTransaction.lockedPart, hinbound, hvalidated]
    ring
  · simp [BridgeTransaction.suppliedPart, hinbound, hvalidated]
    ring

/-- What a pending lock holds is there. -/
theorem pending_le_locked (h : Backed assets txs) (hfound : txs.get? id = some tx)
    (hpending : tx.status = .pending) (houtbound : tx.direction = .outbound)
    (hasset : assets.get? (tx.assetCode, tx.destChain) = some asset) :
    tx.amount ≤ asset.totalLocked := by
  have hkey : tx.assetKey = (tx.assetCode, tx.destChain) := by
    simp [BridgeTransaction.assetKey, houtbound]
  refine h.amount_le_locked (hkey ▸ hasset) hfound ?_
  simp [BridgeTransaction.lockedPart, BridgeTransaction.suppliedPart, houtbound, hpending]

/-- A pending lock is cancelled. -/
theorem cancelled (h : Backed assets txs) (hfound : txs.get? id = some tx)
    (hpending : tx.status = .pending) (houtbound : tx.direction = .outbound)
    (hasset : assets.get? (tx.assetCode, tx.destChain) = some asset) :
    Backed (assets.set (tx.assetCode, tx.destChain)
        { asset with totalLocked := I128.saturatingSub asset.totalLocked tx.amount })
      (txs.set id { tx with status := .cancelled }) := by
  have hkey : tx.assetKey = (tx.assetCode, tx.destChain) := by
    simp [BridgeTransaction.assetKey, houtbound]
  have hamount := h.amounts id tx hfound
  have hbounded := h.bounded _ asset hasset
  have hnonneg := h.nonneg _ asset hasset
  rw [saturatingSub_eq hamount (h.pending_le_locked hfound hpending houtbound hasset) hbounded]
  rw [← hkey] at hasset ⊢
  refine h.moved hfound hasset (by rfl) (by rfl) ?_ ?_ hnonneg
    ((sub_le_self _ hamount).trans hbounded)
  · simp [BridgeTransaction.lockedPart, houtbound, hpending]
    ring
  · simp [BridgeTransaction.suppliedPart, houtbound, hpending]

end Backed

theorem withinTotals_effect (h : Backed s.wrappedAsset s.tx) (ha : a.KeepsBacking s)
    (heffect : Effect s a s') : a.WithinTotals s := by
  cases heffect with
  | settings env op => cases op <;> trivial
  | releaseAssets env admin id tx asset found =>
    intro tx₁ htx₁ asset₁ hasset₁
    have hsupply := ha tx₁ htx₁ asset₁ hasset₁
    exact ⟨hsupply, hsupply.trans (h.supply_le_locked hasset₁)⟩
  | cancelOutbound env caller id tx asset found pending =>
    intro tx₁ htx₁ houtbound asset₁ hasset₁
    obtain rfl : tx = tx₁ := Option.some.inj (found.symm.trans htx₁)
    exact h.pending_le_locked found pending houtbound hasset₁
  | cancelInbound env caller id tx found pending inbound =>
    intro tx₁ htx₁ houtbound
    obtain rfl : tx = tx₁ := Option.some.inj (found.symm.trans htx₁)
    cases inbound.symm.trans houtbound
  | _ => trivial

theorem backed_effect (hordered : s.Ordered) (hrated : Rated s) (h : Backed s.wrappedAsset s.tx)
    (ha : a.KeepsBacking s) (heffect : Effect s a s') : Backed s'.wrappedAsset s'.tx := by
  obtain ⟨config, hconfig, hordered⟩ := hordered
  cases heffect with
  | settings | initializeContract | createLiquidityPool | addLiquidity | removeLiquidity
  | resolveOther => exact h
  | registerWrappedAsset env admin code issuer chain =>
    exact h.registered (Option.isNone_iff_eq_none.mp ha) rfl rfl
  | deactivateWrappedAsset env admin code chain asset found => exact h.rewritten found rfl rfl
  | lockAssets env sender chain code amount destAddress hash config₁ asset fee emergency found unused
      registered fees fits =>
    obtain rfl : config = config₁ := Option.some.inj (hconfig.symm.trans found)
    have hfee := hrated.fee_le found ha fees
    exact h.lockedNew hordered.fresh (sub_nonneg.mpr hfee) registered rfl rfl rfl rfl rfl fits.2
  | mintAssets env sender chain code amount hash merkleRoot config₁ asset emergency found unused
      registered =>
    obtain rfl : config = config₁ := Option.some.inj (hconfig.symm.trans found)
    exact h.opened hordered.fresh ha (Option.isSome_iff_exists.mpr ⟨asset, registered⟩) rfl rfl
  | approveTransaction env validator id chain signature tx vs vsig emergency found pending =>
    refine h.kept found (by rfl) (by rfl) ?_ ?_
    · unfold BridgeTransaction.lockedPart
      dsimp only
      split <;> split <;> simp [pending]
    · unfold BridgeTransaction.suppliedPart
      dsimp only
      split <;> split <;> simp [pending]
  | completeTransaction env admin id hash tx asset found validated registered =>
    exact h.completed hash found validated (ha tx found) registered
  | releaseAssets env admin id tx asset found validated inbound registered =>
    exact h.released found validated inbound registered (ha tx found asset registered)
  | fileDispute env disputer id reason tx config₁ found undecided =>
    refine h.kept found (by rfl) (by rfl) ?_ ?_
    · unfold BridgeTransaction.lockedPart
      rcases undecided with hs | hs <;> cases tx.direction <;> simp [hs]
    · unfold BridgeTransaction.suppliedPart
      rcases undecided with hs | hs <;> cases tx.direction <;> simp [hs]
  | resolveCancel env admin id dispute tx found unresolved about =>
    have hinbound := ha rfl dispute found tx about
    have hdisputed := hordered.standing id dispute tx found unresolved about
    refine h.kept about (by rfl) (by rfl) ?_ ?_
    · simp [BridgeTransaction.lockedPart, hinbound, hdisputed]
    · simp [BridgeTransaction.suppliedPart, hinbound, hdisputed]
  | cancelOutbound env caller id tx asset found pending outbound registered =>
    exact h.cancelled found pending outbound registered
  | cancelInbound env caller id tx found pending inbound =>
    refine h.kept found (by rfl) (by rfl) ?_ ?_
    · simp [BridgeTransaction.lockedPart, inbound, pending]
    · simp [BridgeTransaction.suppliedPart, inbound, pending]

/-- Amounts of the outbound transactions about an asset. -/
def sentTotal (s : State) (k : String × SupportedChain) (p : BridgeStatus → Bool) : ℤ :=
  s.tx.total fun _ tx =>
    if tx.direction = .outbound ∧ (tx.assetCode, tx.destChain) = k ∧ p tx.status = true then tx.amount
    else 0

/-- Amounts of the completed releases of an asset. -/
def releasedTotal (s : State) (k : String × SupportedChain) : ℤ :=
  s.tx.total fun _ tx =>
    if tx.direction = .inbound ∧ (tx.assetCode, tx.sourceChain) = k ∧ tx.status = .completed then
      tx.amount
    else 0

/-- The totals of an asset are those of its transactions, and the supply is backed. -/
structure Pegged (s : State) (k : String × SupportedChain) (asset : WrappedAsset) : Prop where
  locked : asset.totalLocked = sentTotal s k (· ≠ .cancelled) - releasedTotal s k
  supplied : asset.totalSupply = sentTotal s k (· = .completed) - releasedTotal s k
  nonneg : 0 ≤ asset.totalSupply
  backed : asset.totalSupply ≤ asset.totalLocked

theorem partsOf_locked (s : State) (k : String × SupportedChain) :
    partsOf BridgeTransaction.lockedPart k s.tx =
      sentTotal s k (· ≠ .cancelled) - releasedTotal s k := by
  have hsplit : partsOf BridgeTransaction.lockedPart k s.tx + releasedTotal s k =
      sentTotal s k (· ≠ .cancelled) := by
    unfold partsOf releasedTotal sentTotal
    rw [← Store.total_add]
    apply Store.total_congr
    intro id tx _
    unfold BridgeTransaction.lockedPart BridgeTransaction.assetKey
    cases tx.direction with
    | outbound =>
      by_cases hk : (tx.assetCode, tx.destChain) = k <;> by_cases hs : tx.status = .cancelled <;>
        simp [hk, hs]
    | inbound =>
      by_cases hk : (tx.assetCode, tx.sourceChain) = k <;> by_cases hs : tx.status = .completed <;>
        simp [hk, hs]
  omega

theorem partsOf_supplied (s : State) (k : String × SupportedChain) :
    partsOf BridgeTransaction.suppliedPart k s.tx =
      sentTotal s k (· = .completed) - releasedTotal s k := by
  have hsplit : partsOf BridgeTransaction.suppliedPart k s.tx + releasedTotal s k =
      sentTotal s k (· = .completed) := by
    unfold partsOf releasedTotal sentTotal
    rw [← Store.total_add]
    apply Store.total_congr
    intro id tx _
    unfold BridgeTransaction.suppliedPart BridgeTransaction.assetKey
    cases tx.direction with
    | outbound =>
      by_cases hk : (tx.assetCode, tx.destChain) = k <;> by_cases hs : tx.status = .completed <;>
        simp [hk, hs]
    | inbound =>
      by_cases hk : (tx.assetCode, tx.sourceChain) = k <;> by_cases hs : tx.status = .completed <;>
        simp [hk, hs]
  omega

theorem Backed.pegged (h : Backed s.wrappedAsset s.tx) (hasset : s.wrappedAsset.get? k = some asset) :
    Pegged s k asset where
  locked := (h.locked k asset hasset).trans (partsOf_locked s k)
  supplied := (h.supplied k asset hasset).trans (partsOf_supplied s k)
  nonneg := h.nonneg k asset hasset
  backed := h.supply_le_locked hasset

/-- In every run of such calls the totals of every asset are those of its transactions, with
the supply between zero and what is locked, and no subtraction took more than was there. -/
theorem assets_backed {admin : Address} {log : List (State × Action)}
    (hrun : History next (fun _ s a => a.KeepsBacking s) (initialized admin) log s) :
    (∀ k asset, s.wrappedAsset.get? k = some asset → Pegged s k asset) ∧
    ∀ e ∈ log, e.2.WithinTotals e.1 := by
  have hkept : Keyed s ∧ s.Ordered ∧ Rated s ∧ Backed s.wrappedAsset s.tx ∧
      ∀ e ∈ log, e.2.WithinTotals e.1 := by
    refine run_preserves (P := fun log s => s.Ordered ∧ Rated s ∧ Backed s.wrappedAsset s.tx ∧
      ∀ e ∈ log, e.2.WithinTotals e.1) hrun ⟨Ordered.start admin, rated_initialized admin,
        backed_initialized admin, fun _ he => by cases he⟩ ?_
    rintro log s a s' ha - heffect ⟨hordered, hrated, hbacked, hwithin⟩
    refine ⟨ordered_effect hordered heffect, rated_effect hrated heffect,
      backed_effect hordered hrated hbacked ha heffect, fun e he => ?_⟩
    rcases List.mem_cons.mp he with rfl | he
    · exact withinTotals_effect hbacked ha heffect
    · exact hwithin e he
  obtain ⟨-, -, -, hbacked, hwithin⟩ := hkept
  exact ⟨fun k asset hasset => hbacked.pegged hasset, hwithin⟩

section Runs

open Sample

/-- Of three locks one is completed, one cancelled and one waits, and a part is released. -/
def aRoundTrip : List Op := opening ++ [
  .lockAssets alice .solana "USDC" 10000000 "dest" "first",
  .approveTransaction one 1 .solana "sig",
  .approveTransaction two 1 .solana "sig",
  .completeTransaction admin 1 "minted",
  .lockAssets bob .solana "USDC" 5000000 "dest" "second",
  .cancelTransaction bob 2,
  .lockAssets bob .solana "USDC" 2000000 "dest" "third",
  .mintAssets alice .solana "USDC" 4000000 "fourth" "root",
  .approveTransaction one 4 .solana "sig",
  .approveTransaction three 4 .solana "sig",
  .releaseAssets admin 4]

theorem assets_backed_round_trip :
    ∃ s log asset, History next (fun _ s a => a.KeepsBacking s) (initialized admin) log s ∧
      s.wrappedAsset.get? ("USDC", .solana) = some asset ∧ asset.totalLocked = 7988000 ∧
      asset.totalSupply = 5990000 ∧ Pegged s ("USDC", .solana) asset := by
  have h : After (fun h => ∃ asset ∈ h.2.wrappedAsset.get? ("USDC", .solana),
        asset.totalLocked = 7988000 ∧ asset.totalSupply = 5990000)
      (record next (fun _ s a => a.KeepsBacking s) (calls aRoundTrip) ([], initialized admin)) := by
    decide +kernel
  obtain ⟨⟨log, s⟩, hrec, asset, hasset, hlocked, hsupply⟩ := h.exists_ok
  have hrun := record_run hrec
  exact ⟨s, log, asset, hrun, hasset, hlocked, hsupply, (assets_backed hrun).1 _ asset hasset⟩

instance (s : State) (k : String × SupportedChain) (asset : WrappedAsset) :
    Decidable (Pegged s k asset) :=
  decidable_of_iff (asset.totalLocked = sentTotal s k (· ≠ .cancelled) - releasedTotal s k ∧
      asset.totalSupply = sentTotal s k (· = .completed) - releasedTotal s k ∧
      0 ≤ asset.totalSupply ∧ asset.totalSupply ≤ asset.totalLocked)
    ⟨fun h => ⟨h.1, h.2.1, h.2.2.1, h.2.2.2⟩,
      fun h => ⟨h.locked, h.supplied, h.nonneg, h.backed⟩⟩

/-- A lock is cancelled by the resolution of a dispute. -/
def lockCancelled : List Op := opening ++ [
  .lockAssets alice .solana "USDC" 10000000 "dest" "first",
  .fileDispute bob 1 "not confirmed",
  .resolveDispute admin 1 "cancel"]

/-- An asset is registered again. -/
def registeredAgain : List Op := opening ++ [
  .lockAssets alice .solana "USDC" 10000000 "dest" "first",
  .registerWrappedAsset admin "USDC" issuer .solana]

/-- More is released than was ever minted. -/
def releasedBeyond : List Op := opening ++ [
  .mintAssets alice .solana "USDC" 4000000 "first" "root",
  .approveTransaction one 1 .solana "sig",
  .approveTransaction two 1 .solana "sig",
  .releaseAssets admin 1]

/-- An inbound transaction is completed, and raises the supply on the chain that stands for
Stellar. -/
def inboundCompleted : List Op := opening ++ [
  .addChain admin .ethereum,
  .registerWrappedAsset admin "USDC" issuer .ethereum,
  .mintAssets alice .solana "USDC" 4000000 "first" "root",
  .approveTransaction one 1 .solana "sig",
  .approveTransaction two 1 .solana "sig",
  .completeTransaction admin 1 "minted"]

/-- The minimum is set below zero. -/
def negativeLock : List Op := opening ++ [
  .updateConfig admin none (some (-1000000)) none none,
  .lockAssets alice .solana "USDC" (-1000000) "dest" "first"]

/-- The calls, made one after the other, leave an asset with totals that are not those of its
transactions. -/
def LosesBacking (ops : List Op) (k : String × SupportedChain) : Prop :=
  ∃ s log asset,
    record next (fun _ _ _ => True) (calls ops) ([], initialized admin) = .ok (log, s) ∧
    History next (fun _ _ _ => True) (initialized admin) log s ∧
    s.wrappedAsset.get? k = some asset ∧ ¬ Pegged s k asset

theorem losesBacking_of_after {ops : List Op} {k : String × SupportedChain}
    (h : After (fun h => ∃ asset ∈ h.2.wrappedAsset.get? k, ¬ Pegged h.2 k asset)
      (record next (fun _ _ _ => True) (calls ops) ([], initialized admin))) :
    LosesBacking ops k := by
  obtain ⟨⟨log, s⟩, hrec, asset, hasset, hnot⟩ := h.exists_ok
  have hrun := record_history _ (fun _ _ _ _ _ => trivial) .nil hrec
  exact ⟨s, log, asset, hrec, hrun, hasset, hnot⟩

theorem backing_lost :
    LosesBacking lockCancelled ("USDC", .solana) ∧ LosesBacking registeredAgain ("USDC", .solana) ∧
    LosesBacking releasedBeyond ("USDC", .solana) ∧
    LosesBacking inboundCompleted ("USDC", .ethereum) ∧
    LosesBacking negativeLock ("USDC", .solana) := by
  refine ⟨losesBacking_of_after ?_, losesBacking_of_after ?_, losesBacking_of_after ?_,
    losesBacking_of_after ?_, losesBacking_of_after ?_⟩
  all_goals decide +kernel

end Runs

end Bridge
