import StellAIverse.CollateralManagement.Positions
import StellAIverse.Soroban.ConstantProduct

/-!
# What a liquidation seizes

The valuation divides an amount times its price by the scale of the collateral type,
and the seizure divides a debt by the price alone. The two conversions are inverse to
each other when the scale is one, or when a single unit is worth what is seized.
-/

namespace CollateralManagement

open Soroban

variable {τ : Type} {tok : Token τ} {self : Address} {s s' : State τ}

section Selection

variable {env : Ledger}

theorem SameMarket.bestSeizeCollateral {env' : Ledger} (h : SameMarket env env' s s')
    (hlist : s'.collateralTokens = s.collateralTokens)
    (hcollateral : s'.userCollateral = s.userCollateral) (borrower : Address) :
    bestSeizeCollateral env' s' borrower = bestSeizeCollateral env s borrower := by
  have hseek : ∀ (list : List Address) (best : Option (Address × CollateralTypeConfig × ℤ)),
      seekBest env' s' borrower list best = seekBest env s borrower list best := by
    intro list
    induction list with
    | nil => intro best; rfl
    | cons token rest ih =>
      intro best
      unfold seekBest getUserCollateral
      simp only [h.collateralWorth, ih, hcollateral]
  unfold CollateralManagement.bestSeizeCollateral
  rw [hlist, hseek]

theorem seekBest_known {borrower : Address} {list : List Address}
    {best found : Option (Address × CollateralTypeConfig × ℤ)}
    (hbest : ∀ b ∈ best, s.collateralType.get? b.1 = some b.2.1)
    (h : seekBest env s borrower list best = .ok found) :
    ∀ b ∈ found, s.collateralType.get? b.1 = some b.2.1 := by
  induction list generalizing best with
  | nil =>
    cases h
    exact hbest
  | cons token rest ih =>
    unfold seekBest at h
    obtain ⟨worth, hworth, h⟩ := bind_ok.mp h
    cases worth with
    | none => exact ih hbest h
    | some w =>
      obtain ⟨config, value⟩ := w
      have hknown := (collateralWorth_some hworth).2.1
      have hnew : ∀ b ∈ some (token, config, value), s.collateralType.get? b.1 = some b.2.1 := by
        rintro _ ⟨⟩
        exact hknown
      cases best with
      | none => exact ih hnew h
      | some old =>
        obtain ⟨token₀, config₀, value₀⟩ := old
        refine ih ?_ h
        split
        · exact hnew
        · exact hbest

/-- The collateral that is seized is of a stored type. -/
theorem bestSeizeCollateral_known {borrower token : Address} {config : CollateralTypeConfig}
    (h : bestSeizeCollateral env s borrower = .ok (some (token, config))) :
    s.collateralType.get? token = some config := by
  unfold bestSeizeCollateral at h
  obtain ⟨found, hfound, h⟩ := bind_ok.mp h
  cases found with
  | none => cases h
  | some b =>
    cases h
    exact seekBest_known (fun _ hb => by cases hb) hfound b rfl

end Selection

/-- The collateral that a liquidation takes for what it covers, and the two payments. -/
structure Seizure (tok : Token τ) (account : Address) (env : Ledger) (s : State τ)
    (liquidator borrower debtToken : Address) (covered : ℤ) where
  token : Address
  config : CollateralTypeConfig
  price : ℤ
  seized : ℤ
  bonus : ℤ
  paid : τ
  tokens : τ
  best : bestSeizeCollateral env s borrower = .ok (some (token, config))
  priced : getOraclePrice env s config.oracleFeed = .ok price
  computed : calculateLiquidationSeizure covered price config.liqBonusBps = .ok (seized, bonus)
  enough : seized ≤ (getUserCollateral s borrower token).amount
  covers : tok.transfer s.tokens debtToken liquidator account covered = some paid
  seizes : tok.transfer paid token account liquidator seized = some tokens

section Liquidation

variable {env : Ledger} {liquidator borrower : Address} {loanId : ℕ} {debtToCover : ℤ}

/-- What a completed liquidation checked, and what it takes. -/
theorem liquidate_ok (h : liquidate tok self env liquidator borrower loanId debtToCover s = .ok s') :
    (env.authorized liquidator = true ∧ s.paused = false ∧ 0 < debtToCover) ∧
    ∃ loan s₁, requireOpenLoan s borrower loanId = .ok loan ∧
      accrueLoan env loan { s with reentrancyLock := true } = .ok (loan.upTo env.timestamp, s₁) ∧
      ∃ seizure : Seizure tok self env s liquidator borrower loan.borrowToken
          (min debtToCover (loan.upTo env.timestamp).totalDebt),
        s'.userCollateral = (withCollateral env.timestamp borrower seizure.token
          ((getUserCollateral s borrower seizure.token).amount - seizure.seized) 0 s).userCollateral ∧
        ∃ t n, I128.InRange n ∧ s'.totalDebt = s₁.totalDebt.set t n := by
  unfold liquidate at h
  obtain ⟨hauth, h⟩ := requireAuth_bind.mp h
  obtain ⟨hpaused, h⟩ := panicIf_bind.mp h
  obtain ⟨s₂, hinner, rfl⟩ := withGuard_ok h
  replace h := hinner
  unfold liquidateInternal at h
  obtain ⟨hpos, h⟩ := panicIf_bind.mp h
  obtain ⟨loan, hloan, h⟩ := bind_ok.mp h
  obtain ⟨⟨loan', s₁⟩, haccrue, h⟩ := bind_ok.mp h
  obtain ⟨hloan', hs₁, -⟩ := accrueLoan_upTo haccrue
  have hmarket : SameMarket env env s s₁ := by
    rw [hs₁]
    exact ⟨rfl, rfl, rfl, rfl⟩
  obtain ⟨hf, -, h⟩ := bind_ok.mp h
  obtain ⟨-, h⟩ := panicIf_bind.mp h
  obtain ⟨best, hbest, h⟩ := bind_ok.mp h
  obtain ⟨⟨collToken, collConfig⟩, hsome, h⟩ := expect_bind.mp h
  obtain ⟨price, hprice, h⟩ := bind_ok.mp h
  obtain ⟨⟨seized, bonus⟩, hseizure, h⟩ := bind_ok.mp h
  obtain ⟨henough, h⟩ := panicIf_bind.mp h
  obtain ⟨tokens₁, hcovered, h⟩ := (Token.pay_bind _).mp h
  obtain ⟨tokens, hseizes, h⟩ := (Token.pay_bind _).mp h
  obtain ⟨-, h⟩ := I128.sub_bind.mp h
  obtain ⟨-, h⟩ := I128.sub_bind.mp h
  obtain ⟨loan'', -, h⟩ := bind_ok.mp h
  obtain ⟨hleft, h⟩ := I128.sub_bind.mp h
  cases h
  subst hsome
  rw [hmarket.bestSeizeCollateral (by rw [hs₁]) (by rw [hs₁])] at hbest
  rw [hmarket.getOraclePrice] at hprice
  have htoken : loan'.borrowToken = loan.borrowToken := hloan' ▸ (loan.upTo_fixed _).2.2.1
  rw [htoken] at hcovered
  subst hs₁ hloan'
  exact ⟨⟨hauth, by simpa using hpaused, not_le.mp hpos⟩, loan, _, hloan, haccrue,
    ⟨collToken, collConfig, price, seized, bonus, tokens₁, tokens, hbest, hprice, hseizure,
      not_lt.mp henough, hcovered, hseizes⟩, rfl, _, _, hleft, rfl⟩

/-- The seized amount is a ceiling. -/
theorem calculateLiquidationSeizure_eq {debt price seized bonus : ℤ} {bonusBps : ℕ}
    (h : calculateLiquidationSeizure debt price bonusBps = .ok (seized, bonus)) (hdebt : 0 < debt)
    (hprice : 0 < price) :
    seized = ConstantProduct.ceilQuot (debt * (10000 + bonusBps)) (price * 10000) := by
  unfold calculateLiquidationSeizure at h
  rw [if_neg (by omega)] at h
  obtain ⟨-, h⟩ := I128.add_bind.mp h
  obtain ⟨-, h⟩ := I128.mul_bind.mp h
  obtain ⟨-, h⟩ := I128.mul_bind.mp h
  obtain ⟨-, h⟩ := I128.add_bind.mp h
  obtain ⟨-, h⟩ := I128.sub_bind.mp h
  obtain ⟨-, -, h⟩ := I128.div_bind.mp h
  obtain ⟨-, h⟩ := I128.mul_bind.mp h
  obtain ⟨-, -, h⟩ := I128.div_bind.mp h
  cases h
  rfl

/-- A value as an exact fraction reaches what is covered with the bonus, without denominators. -/
theorem covers_iff (covered q price : ℤ) (bonusBps : ℕ) {scale : ℤ} (hscale : 0 < scale) :
    (covered : ℚ) * (10000 + bonusBps) / 10000 ≤ q * price / scale ↔
      covered * (10000 + bonusBps) * scale ≤ q * (price * 10000) := by
  have hscale' : (0 : ℚ) < scale := by exact_mod_cast hscale
  rw [div_le_div_iff₀ (by norm_num) hscale', ← mul_assoc]
  exact_mod_cast Iff.rfl

/-- In every reachable state a completed liquidation takes the least amount whose value is what it
covers with the bonus exactly when the scale of the seized collateral is one, or one unit of the
collateral is worth that much. -/
theorem seizure_value (hs : Reachable tok self s)
    (h : liquidate tok self env liquidator borrower loanId debtToCover s = .ok s') :
    ∃ loan token config price seized, s.loan.get? loanId = some loan ∧
      bestSeizeCollateral env s borrower = .ok (some (token, config)) ∧
      s.collateralType.get? token = some config ∧
      getOraclePrice env s config.oracleFeed = .ok price ∧
      (getUserCollateral s' borrower token).amount =
        (getUserCollateral s borrower token).amount - seized ∧
      let covered := min debtToCover (loan.upTo env.timestamp).totalDebt
      (IsLeast {q : ℤ | (covered : ℚ) * (10000 + config.liqBonusBps) / 10000 ≤
          q * price / config.priceScale} seized ↔
        config.priceScale = 1 ∨
          covered * (10000 + config.liqBonusBps) * config.priceScale ≤ price * 10000) := by
  obtain ⟨⟨-, -, hpos⟩, loan, s₁, hloan, -, seizure, hrecords, -⟩ := liquidate_ok h
  obtain ⟨hk, hopen⟩ := requireOpenLoan_ok hloan
  have hc := hs.configured
  have hknown := bestSeizeCollateral_known seizure.best
  have hscale := (hc.valid _ _ hknown).scale
  have hprice := getOraclePrice_pos hc seizure.priced
  have hsound := hs.booked.sound loanId loan hk
  have hcovered : 0 < min debtToCover (loan.upTo env.timestamp).totalDebt := by
    obtain ⟨hprincipal, hinterest, htotal⟩ := hsound.live hopen
    have hdue := loan.due_nonneg env.timestamp
    rw [hsound.totalDebt_upTo hopen]
    exact lt_min hpos (by omega)
  refine ⟨loan, seizure.token, seizure.config, seizure.price, seizure.seized, hk, seizure.best, hknown,
    seizure.priced, ?_, ?_⟩
  · have hamount : (getUserCollateral (withCollateral env.timestamp borrower seizure.token
        ((getUserCollateral s borrower seizure.token).amount - seizure.seized) 0 s) borrower
          seizure.token).amount =
        (getUserCollateral s borrower seizure.token).amount - seizure.seized :=
      (withCollateral_amount hs.recorded _ _ _ _).trans (if_pos rfl)
    unfold getUserCollateral at hamount ⊢
    rw [hrecords]
    exact hamount
  · intro covered
    rw [calculateLiquidationSeizure_eq seizure.computed hcovered hprice]
    simp only [covers_iff _ _ _ _ hscale]
    exact ConstantProduct.ceilQuot_least_mul_iff (by positivity) (by positivity) hscale

end Liquidation

section Runs

open Sample

/-- Alice owes more than her gold is worth when a unit is worth three tenths. -/
def fallen : List (ℕ × Op) := opening ++ [
  (0, .borrow alice usdc 5000),
  (0, .setPrice admin "GOLD" 3)]

/-- What is seized for a debt of 5000 is worth 525, a tenth of what it should be. -/
theorem seizure_value_scaled :
    ∃ s s' : State Balances, Reachable asset contract s ∧
      liquidate asset contract (env 0) bob alice 0 5000 s = .ok s' ∧
      (∃ config ∈ s.collateralType.get? gold, config.priceScale = 10 ∧ config.liqBonusBps = 500 ∧
        getOraclePrice (env 0) s config.oracleFeed = .ok 3) ∧
      (getUserCollateral s' alice gold).amount = (getUserCollateral s alice gold).amount - 1750 ∧
      ¬ IsLeast {q : ℤ | (5000 : ℚ) * (10000 + 500) / 10000 ≤ q * 3 / 10} 1750 := by
  have h : After (fun s => (∃ config ∈ s.collateralType.get? gold, config.priceScale = 10 ∧
        config.liqBonusBps = 500 ∧ getOraclePrice (env 0) s config.oracleFeed = .ok 3) ∧
      After (fun s' => (getUserCollateral s' alice gold).amount =
        (getUserCollateral s alice gold).amount - 1750)
      (liquidate asset contract (env 0) bob alice 0 5000 s))
      (execute (next asset contract) (calls fallen) start) := by
    decide +kernel
  obtain ⟨s, hs, hgold, h⟩ := h.exists_ok
  obtain ⟨s', hs', hamount⟩ := h.exists_ok
  refine ⟨s, s', ⟨_, execute_steps (calls fallen) (fun _ _ _ => trivial) hs⟩, hs', hgold, hamount, ?_⟩
  rintro ⟨hmem, -⟩
  norm_num at hmem

/-- Gold counted in whole units, which lose half their price. -/
def whole : List (ℕ × Op) := [
  (0, .initializeContract admin oracle none),
  (0, .registerCollateralType admin gold "GOLD" 7500 8000 500 0 1),
  (0, .setPrice admin "GOLD" 2),
  (0, .depositCollateral alice gold 10000),
  (0, .borrow alice usdc 10000),
  (0, .setPrice admin "GOLD" 1)]

theorem seizure_value_whole :
    ∃ (s s' : State Balances) (seized : ℤ), Reachable asset contract s ∧
      liquidate asset contract (env 0) bob alice 0 1000 s = .ok s' ∧
      IsLeast {q : ℤ | ((min 1000 10000 : ℤ) : ℚ) * (10000 + 500) / 10000 ≤ q * (1 : ℤ) / (1 : ℤ)}
        seized := by
  have h : After (fun s =>
        (∃ loan ∈ s.loan.get? 0, (loan.upTo 0).totalDebt = 10000) ∧
        After (fun best => ∃ b ∈ best, b.2.priceScale = 1 ∧ b.2.liqBonusBps = 500 ∧
          getOraclePrice (env 0) s b.2.oracleFeed = .ok 1) (bestSeizeCollateral (env 0) s alice) ∧
        After (fun _ => True) (liquidate asset contract (env 0) bob alice 0 1000 s))
      (execute (next asset contract) (calls whole) start) := by
    decide +kernel
  obtain ⟨s, hs, ⟨loan₀, hk₀, hdebt⟩, hbest, h⟩ := h.exists_ok
  obtain ⟨_, hfound, ⟨token₀, config₀⟩, rfl, hscale, hbonus, hprice₀⟩ := hbest.exists_ok
  obtain ⟨s', hs', -⟩ := h.exists_ok
  have hreach : Reachable asset contract s :=
    ⟨_, execute_steps (calls whole) (fun _ _ _ => trivial) hs⟩
  obtain ⟨loan, token, config, price, seized, hk, hbest, -, hprice, -, hiff⟩ :=
    seizure_value hreach hs'
  cases hfound.symm.trans hbest
  obtain rfl := Option.some.inj (hk₀.symm.trans hk)
  obtain rfl := Except.ok.inj (hprice₀.symm.trans hprice)
  refine ⟨s, s', seized, hreach, hs', ?_⟩
  have hleast := hiff.mpr (.inl hscale)
  rw [show (env 0).timestamp = 0 from rfl, hdebt, hscale, hbonus] at hleast
  exact hleast

end Runs

end CollateralManagement
