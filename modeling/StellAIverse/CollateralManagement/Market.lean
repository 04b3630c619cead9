import StellAIverse.CollateralManagement.Debt

/-!
# Collateral types, prices and what a position is worth

What the contract stores of collateral types and prices passed the checks of the
call that stored it. A position is valued from these alone: two states that agree on
them and on the amounts agree on the value and on the threshold.
-/

namespace CollateralManagement

open Soroban

variable {τ : Type} {tok : Token τ} {self : Address} {s s' : State τ} {a : Action τ}

/-- The limits that the checks on a collateral type leave. -/
structure CollateralTypeConfig.Valid (config : CollateralTypeConfig) : Prop where
  ltv : config.ltvBps ≤ config.liqThresholdBps
  threshold : config.liqThresholdBps ≤ maxLiqThresholdBps
  bonus : config.liqBonusBps ≤ maxLiqBonusBps
  scale : 0 < config.priceScale

structure Configured (s : State τ) : Prop where
  valid : ∀ token config, s.collateralType.get? token = some config → config.Valid
  priced : ∀ feed price, s.priceCache.get? feed = some price → 0 < price

theorem validateRisk_bind {β : Type} {f : Unit → Result β} {r : β}
    {ltvBps liqThresholdBps liqBonusBps : ℕ}
    (h : (validateRisk ltvBps liqThresholdBps liqBonusBps >>= f) = .ok r) :
    (ltvBps ≤ liqThresholdBps ∧ liqThresholdBps ≤ maxLiqThresholdBps ∧ liqBonusBps ≤ maxLiqBonusBps) ∧
      f () = .ok r := by
  obtain ⟨⟨⟩, hrisk, h⟩ := bind_ok.mp h
  unfold validateRisk at hrisk
  obtain ⟨-, hrisk⟩ := panicIf_bind.mp hrisk
  obtain ⟨hthreshold, hrisk⟩ := panicIf_bind.mp hrisk
  have hbonus := panicIf_ok hrisk
  rw [not_or, not_lt, not_lt] at hthreshold
  exact ⟨⟨hthreshold.2, hthreshold.1, not_lt.mp hbonus⟩, h⟩

theorem configured_register {env : Ledger} {admin token : Address} {oracleFeed : String}
    {ltvBps liqThresholdBps liqBonusBps : ℕ} {collateralCap priceScale : ℤ} (hc : Configured s)
    (h : registerCollateralType env admin token oracleFeed ltvBps liqThresholdBps liqBonusBps
      collateralCap priceScale s = .ok s') : Configured s' := by
  unfold registerCollateralType at h
  obtain ⟨-, h⟩ := requireAuth_bind.mp h
  obtain ⟨-, h⟩ := assertAdmin_bind h
  have h := checkPaused_bind h
  obtain ⟨-, h⟩ := panicIf_bind.mp h
  obtain ⟨⟨hltv, hthreshold, hbonus⟩, h⟩ := validateRisk_bind h
  obtain ⟨hscale, h⟩ := panicIf_bind.mp h
  cases h
  rw [not_or, not_le] at hscale
  exact ⟨Store.forall_set hc.valid ⟨hltv, hthreshold, hbonus, hscale.2⟩, hc.priced⟩

theorem configured_update {env : Ledger} {admin token : Address}
    {ltvBps liqThresholdBps liqBonusBps : ℕ} {collateralCap : ℤ} (hc : Configured s)
    (h : updateCollateralType env admin token ltvBps liqThresholdBps liqBonusBps collateralCap s =
      .ok s') : Configured s' := by
  unfold updateCollateralType at h
  obtain ⟨-, h⟩ := requireAuth_bind.mp h
  obtain ⟨-, h⟩ := assertAdmin_bind h
  have h := checkPaused_bind h
  obtain ⟨config, hk, h⟩ := expect_bind.mp h
  obtain ⟨⟨hltv, hthreshold, hbonus⟩, h⟩ := validateRisk_bind h
  cases h
  have hscale := (hc.valid token config hk).scale
  exact ⟨Store.forall_set hc.valid ⟨hltv, hthreshold, hbonus, hscale⟩, hc.priced⟩

theorem configured_active {isActive : Bool} {env : Ledger} {admin token : Address}
    (hc : Configured s) (h : setCollateralActive isActive env admin token s = .ok s') :
    Configured s' := by
  unfold setCollateralActive at h
  obtain ⟨-, h⟩ := requireAuth_bind.mp h
  obtain ⟨-, h⟩ := assertAdmin_bind h
  obtain ⟨config, hk, h⟩ := expect_bind.mp h
  cases h
  obtain ⟨hltv, hthreshold, hbonus, hscale⟩ := hc.valid token config hk
  exact ⟨Store.forall_set hc.valid ⟨hltv, hthreshold, hbonus, hscale⟩, hc.priced⟩

theorem configured_setPrice {env : Ledger} {admin : Address} {feedId : String} {price : ℤ}
    (hc : Configured s) (h : setPrice env admin feedId price s = .ok s') : Configured s' := by
  unfold setPrice at h
  obtain ⟨-, h⟩ := requireAuth_bind.mp h
  obtain ⟨-, h⟩ := assertAdmin_bind h
  obtain ⟨hpos, h⟩ := panicIf_bind.mp h
  cases h
  exact ⟨hc.valid, Store.forall_set hc.priced (not_le.mp hpos)⟩

/-- Only the calls of the administrator change the market. -/
theorem Effect.sameMarket (h : Effect tok self s a s') :
    (∃ env op, a = .call env op ∧ op.Configures) ∨
      s'.collateralType = s.collateralType ∧ s'.priceCache = s.priceCache := by
  cases h with
  | transfers | initializeContract | depositCollateral | withdrawCollateral | repayLoan | liquidate =>
    exact .inr ⟨rfl, rfl⟩
  | configure env op _ _ _ _ _ _ configures => exact .inl ⟨env, op, rfl, configures⟩
  | borrow _ _ _ _ _ _ _ _ _ accrued =>
    obtain ⟨_, _, rfl⟩ := accrueEach_frame accrued
    exact .inr ⟨rfl, rfl⟩
  | accrueInterest _ _ _ _ accrued =>
    obtain ⟨_, _, _, -, -, rfl⟩ := accrueOne_ok accrued
    exact .inr ⟨rfl, rfl⟩
  | accrueAllInterest _ _ _ accrued =>
    obtain ⟨_, _, rfl⟩ := accrueEach_frame accrued
    exact .inr ⟨rfl, rfl⟩

theorem setPaused_frame {paused : Bool} {env : Ledger} {admin : Address}
    (h : setPaused paused env admin s = .ok s') : s' = { s with paused } := by
  unfold setPaused at h
  obtain ⟨-, h⟩ := requireAuth_bind.mp h
  obtain ⟨-, h⟩ := assertAdmin_bind h
  cases h
  rfl

theorem setProtocolParameters_frame {env : Ledger} {admin : Address} {params : ProtocolParams}
    (h : setProtocolParameters env admin params s = .ok s') :
    s' = { s with protocolParams := params } := by
  unfold setProtocolParameters at h
  obtain ⟨-, h⟩ := requireAuth_bind.mp h
  obtain ⟨-, h⟩ := assertAdmin_bind h
  cases h
  rfl

theorem configured_step (hc : Configured s) (h : next tok self a s = .ok s') : Configured s' := by
  rcases (next_effect h).sameMarket with ⟨env, op, rfl, hop⟩ | ⟨htypes, hprices⟩
  · cases op with
    | registerCollateralType => exact configured_register hc h
    | updateCollateralType => exact configured_update hc h
    | deactivateCollateralType | reactivateCollateralType => exact configured_active hc h
    | setPrice => exact configured_setPrice hc h
    | setProtocolParameters =>
      obtain rfl := setProtocolParameters_frame h
      exact ⟨hc.valid, hc.priced⟩
    | pause | unpause =>
      obtain rfl := setPaused_frame h
      exact ⟨hc.valid, hc.priced⟩
    | _ => exact hop.elim
  · exact ⟨htypes ▸ hc.valid, hprices ▸ hc.priced⟩

theorem Reachable.configured (hs : Reachable tok self s) : Configured s := by
  obtain ⟨tokens, hrun⟩ := hs
  exact hrun.preserves (fun _ _ _ _ hn h => configured_step h hn)
    ⟨fun _ _ hk => (by cases hk), fun _ _ hk => (by cases hk)⟩

/-- The same prices for the same collateral types. -/
structure SameMarket (env env' : Ledger) (s s' : State τ) : Prop where
  answers : env'.getPrice = env.getPrice
  oracle : s'.oracle = s.oracle
  prices : s'.priceCache = s.priceCache
  types : s'.collateralType = s.collateralType

section Valuation

variable {env env' : Ledger} {amountOf amountOf' : Address → ℤ}

theorem SameMarket.getOraclePrice (h : SameMarket env env' s s') (feed : String) :
    getOraclePrice env' s' feed = getOraclePrice env s feed := by
  unfold CollateralManagement.getOraclePrice
  rw [h.answers, h.oracle, h.prices]

theorem SameMarket.collateralWorth (h : SameMarket env env' s s') (token : Address) (amount : ℤ) :
    collateralWorth env' s' token amount = collateralWorth env s token amount := by
  unfold CollateralManagement.collateralWorth
  simp only [h.types, h.getOraclePrice]

theorem SameMarket.sumValues (h : SameMarket env env' s s') (list : List Address) (total : ℤ)
    (hamounts : ∀ token, amountOf' token = amountOf token) :
    sumValues env' s' amountOf' list total = sumValues env s amountOf list total := by
  obtain rfl : amountOf' = amountOf := funext hamounts
  induction list generalizing total with
  | nil => rfl
  | cons token rest ih =>
    unfold CollateralManagement.sumValues
    simp only [h.collateralWorth, ih]

theorem SameMarket.weighThresholds (h : SameMarket env env' s s') (list : List Address)
    (weightedSum total : ℤ) (hamounts : ∀ token, amountOf' token = amountOf token) :
    weighThresholds env' s' amountOf' list weightedSum total =
      weighThresholds env s amountOf list weightedSum total := by
  obtain rfl : amountOf' = amountOf := funext hamounts
  induction list generalizing weightedSum total with
  | nil => rfl
  | cons token rest ih =>
    unfold CollateralManagement.weighThresholds
    simp only [h.collateralWorth, ih]

theorem getOraclePrice_pos (hc : Configured s) {feed : String} {price : ℤ}
    (h : getOraclePrice env s feed = .ok price) : 0 < price := by
  unfold getOraclePrice at h
  split at h
  · rename_i hcached
    cases h
    exact hc.priced feed price hcached
  · obtain ⟨oracle, -, h⟩ := expect_bind.mp h
    obtain ⟨result, -, h⟩ := okOr_bind.mp h
    obtain ⟨hpos, h⟩ := panicIf_bind.mp h
    cases h
    exact not_le.mp hpos

/-- Collateral that counts is of a known type with a price, and its value is rounded down. -/
theorem collateralWorth_some {token : Address} {amount value : ℤ} {config : CollateralTypeConfig}
    (h : collateralWorth env s token amount = .ok (some (config, value))) :
    0 < amount ∧ s.collateralType.get? token = some config ∧
      ∃ price, getOraclePrice env s config.oracleFeed = .ok price ∧
        I128.InRange value ∧ value = (amount * price).tdiv config.priceScale := by
  unfold collateralWorth at h
  split at h
  · rename_i hpos
    split at h
    · rename_i cfg hk
      obtain ⟨price, hprice, h⟩ := bind_ok.mp h
      obtain ⟨-, h⟩ := I128.mul_bind.mp h
      obtain ⟨-, hfits, h⟩ := I128.div_bind.mp h
      cases h
      exact ⟨hpos, hk, price, hprice, hfits, rfl⟩
    · cases h
  · cases h

theorem Configured.worth_nonneg (hc : Configured s) {token : Address} {amount value : ℤ}
    {config : CollateralTypeConfig}
    (h : collateralWorth env s token amount = .ok (some (config, value))) : 0 ≤ value := by
  obtain ⟨hpos, hk, price, hprice, -, rfl⟩ := collateralWorth_some h
  have hscale := (hc.valid token config hk).scale
  exact Int.tdiv_nonneg (mul_nonneg hpos.le (getOraclePrice_pos hc hprice).le) hscale.le

theorem Configured.sumValues_nonneg (hc : Configured s) {list : List Address} {total value : ℤ}
    (h : sumValues env s amountOf list total = .ok value) (htotal : 0 ≤ total) : 0 ≤ value := by
  induction list generalizing total with
  | nil =>
    cases h
    exact htotal
  | cons token rest ih =>
    unfold sumValues at h
    obtain ⟨worth, hworth, h⟩ := bind_ok.mp h
    cases worth with
    | none => exact ih h htotal
    | some found =>
      obtain ⟨-, h⟩ := I128.add_bind.mp h
      exact ih h (add_nonneg htotal (hc.worth_nonneg hworth))

end Valuation

/-- The health factor reaches the threshold when the weighted value covers the debt times the
threshold. -/
theorem calculateHealthFactor_ok {value debt : ℤ} {wt : ℕ} {hf : HealthFactor} (hvalue : 0 ≤ value)
    (hdebt : 0 < debt) (h : calculateHealthFactor value debt wt = .ok hf) :
    I128.InRange (value * wt) ∧ ∀ threshold : ℕ,
      (threshold : ℤ) ≤ hf.healthFactorBps ↔ threshold * debt ≤ value * wt := by
  unfold calculateHealthFactor at h
  rw [if_neg (not_le.mpr hdebt)] at h
  split at h
  · rename_i hnone
    obtain rfl : value = 0 := le_antisymm hnone hvalue
    cases h
    rw [zero_mul]
    refine ⟨I128.inRange_zero, fun threshold => ⟨fun hle => ?_, fun hle => ?_⟩⟩
    · have hzero : (threshold : ℤ) = 0 := le_antisymm hle (Int.natCast_nonneg _)
      rw [hzero, zero_mul]
    · by_contra hpos
      exact absurd (mul_pos (not_le.mp hpos) hdebt) (not_lt.mpr hle)
  · obtain ⟨hfits, h⟩ := I128.mul_bind.mp h
    obtain ⟨-, -, h⟩ := I128.div_bind.mp h
    cases h
    refine ⟨hfits, fun threshold => ?_⟩
    have hnonneg : 0 ≤ value * (wt : ℤ) := mul_nonneg hvalue (Int.natCast_nonneg _)
    rw [Int.tdiv_eq_ediv_of_nonneg hnonneg]
    exact Int.le_ediv_iff_mul_le hdebt

theorem calculateHealthFactor_of_inRange {value debt : ℤ} {wt : ℕ} (hvalue : 0 ≤ value)
    (hdebt : 0 < debt) (hfits : I128.InRange (value * wt)) :
    ∃ hf, calculateHealthFactor value debt wt = .ok hf := by
  unfold calculateHealthFactor
  rw [if_neg (not_le.mpr hdebt)]
  split
  · exact ⟨_, rfl⟩
  · have hnonneg : 0 ≤ value * (wt : ℤ) := mul_nonneg hvalue (Int.natCast_nonneg _)
    have hquotient : I128.InRange ((value * wt).tdiv debt) :=
      hfits.of_le (Int.tdiv_nonneg hnonneg hdebt.le) (Int.tdiv_le_self _ hnonneg)
    exact ⟨_, I128.mul_bind.mpr ⟨hfits, I128.div_bind.mpr ⟨hdebt.ne', hquotient, rfl⟩⟩⟩

end CollateralManagement
