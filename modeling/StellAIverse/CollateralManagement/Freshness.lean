import StellAIverse.CollateralManagement.Booking

/-!
# Decisions and the interest that is not booked yet

A withdrawal and a liquidation read the debts as they are stored. Each completes
exactly when its other checks pass and the stored position is on the right side of the
threshold, so an accrual before it makes a difference where the interest that is due
takes the position across.
-/

namespace CollateralManagement

open Soroban

variable {τ : Type} {tok : Token τ} {self : Address} {s s' s₁ : State τ}

theorem withGuard_of {f : State τ → Result (State τ)} (hlock : s.reentrancyLock = false)
    (h : f { s with reentrancyLock := true } = .ok s₁) :
    withGuard f s = .ok { s₁ with reentrancyLock := false } := by
  unfold withGuard
  rw [panicIf_of_not (by simp [hlock]), ok_bind, h]
  rfl

/-- The checks of a withdrawal but for that of the position. -/
def Withdrawable (tok : Token τ) (self : Address) (env : Ledger) (user token : Address) (amount : ℤ)
    (s : State τ) : Prop :=
  (env.authorized user = true ∧ s.paused = false) ∧ 0 < amount ∧
    amount ≤ (getUserCollateral s user token).amount ∧
    ∃ tokens, tok.transfer s.tokens token self user amount = some tokens

/-- What remains of the token backs a debt: there is none, or the weighted value of the position
covers the debt times the threshold. -/
def Keeps (env : Ledger) (user token : Address) (remaining debt : ℤ) (s : State τ) : Prop :=
  debt ≤ I128.max ∧ (0 < debt → ∃ value wt,
    totalCollateralValueOverride env s user token remaining = .ok value ∧
    weightedThresholdOverride env s user token remaining = .ok wt ∧ value * wt ≤ I128.max ∧
    s.protocolParams.liqHealthThresholdBps * debt ≤ value * wt)

section Withdrawals

variable {env : Ledger} {user token : Address} {amount : ℤ}

theorem checkWithdrawal_iff (hb : Booked s) (hc : Configured s) (remaining : ℤ) :
    checkWithdrawal env user token remaining s = .ok () ↔
      Keeps env user token remaining (debtOf (ofUser user) s.loan) s := by
  have hnonneg := debtOf_nonneg hb (ofUser user)
  unfold checkWithdrawal
  constructor
  · intro h
    obtain ⟨debt, hdebt, h⟩ := bind_ok.mp h
    obtain ⟨hin, rfl⟩ := (userTotalDebt_iff hb).mp hdebt
    refine ⟨hin.2, fun hpos => ?_⟩
    rw [if_pos hpos] at h
    obtain ⟨value, hvalue, h⟩ := bind_ok.mp h
    obtain ⟨wt, hwt, h⟩ := bind_ok.mp h
    obtain ⟨hf, hhf, h⟩ := bind_ok.mp h
    obtain ⟨hfits, hthreshold⟩ :=
      calculateHealthFactor_ok (hc.sumValues_nonneg hvalue le_rfl) hpos hhf
    exact ⟨value, wt, hvalue, hwt, hfits.2, (hthreshold _).mp (not_lt.mp (panicIf_ok h))⟩
  · rintro ⟨hmax, hposition⟩
    have hdebt : userTotalDebt s user = .ok (debtOf (ofUser user) s.loan) :=
      (userTotalDebt_iff hb).mpr ⟨inRange_of_nonneg_of_le hnonneg hmax le_rfl, rfl⟩
    rw [hdebt, ok_bind]
    split
    · rename_i hpos
      obtain ⟨value, wt, hvalue, hwt, hle, hcovers⟩ := hposition hpos
      have hvalue₀ := hc.sumValues_nonneg hvalue le_rfl
      have hfits := inRange_of_nonneg_of_le (mul_nonneg hvalue₀ (Int.natCast_nonneg wt)) hle le_rfl
      obtain ⟨hf, hhf⟩ := calculateHealthFactor_of_inRange hvalue₀ hpos hfits
      have hreached := ((calculateHealthFactor_ok hvalue₀ hpos hhf).2 _).mpr hcovers
      exact bind_ok.mpr ⟨value, hvalue, bind_ok.mpr ⟨wt, hwt, bind_ok.mpr ⟨hf, hhf,
        panicIf_of_not (not_lt.mpr hreached)⟩⟩⟩
    · rfl

theorem withdrawCollateral_iff (hs : Reachable tok self s) :
    (∃ s', withdrawCollateral tok self env user token amount s = .ok s') ↔
      Withdrawable tok self env user token amount s ∧
        Keeps env user token ((getUserCollateral s user token).amount - amount)
          (debtOf (ofUser user) s.loan) s := by
  have hr := hs.recorded
  constructor
  · rintro ⟨s', h⟩
    obtain ⟨hgate, hpos, hle, hcheck, tokens, hpaid, -⟩ := withdrawCollateral_ok h
    exact ⟨⟨hgate, hpos, hle, tokens, hpaid⟩, (checkWithdrawal_iff hs.booked hs.configured _).mp hcheck⟩
  · rintro ⟨⟨⟨hauth, hpaused⟩, hpos, hle, tokens, hpaid⟩, hkeeps⟩
    have hcheck := (checkWithdrawal_locked true env user token _).trans
      ((checkWithdrawal_iff hs.booked hs.configured _).mpr hkeeps)
    have htotal := hr.amount_le user token
    have hmax := hr.bounded token
    have hleft : I128.InRange ((getUserCollateral s user token).amount - amount) :=
      inRange_of_nonneg_of_le (by omega) (by omega) hmax
    have hremains : I128.InRange (s.totalCollateral.amount token - amount) :=
      inRange_of_nonneg_of_le (by omega) (by omega) hmax
    have hinner : ∃ s₁, withdrawInternal tok self env user token amount
        { s with reentrancyLock := true } = .ok s₁ :=
      ⟨_, panicIf_bind.mpr ⟨not_le.mpr hpos, panicIf_bind.mpr ⟨not_lt.mpr hle, I128.sub_bind.mpr
        ⟨hleft, bind_ok.mpr ⟨(), hcheck, (Token.pay_bind _).mpr ⟨tokens, hpaid, I128.sub_bind.mpr
          ⟨hremains, rfl⟩⟩⟩⟩⟩⟩⟩
    obtain ⟨s₁, hinner⟩ := hinner
    exact ⟨_, requireAuth_bind.mpr ⟨hauth, panicIf_bind.mpr ⟨by simp [hpaused],
      withGuard_of hr.unlocked hinner⟩⟩⟩

/-- A position that backs a debt backs less. -/
theorem Keeps.less {remaining debt more : ℤ} (h : Keeps env user token remaining (debt + more) s)
    (hmore : 0 ≤ more) : Keeps env user token remaining debt s := by
  obtain ⟨hmax, hposition⟩ := h
  refine ⟨by omega, fun hpos => ?_⟩
  obtain ⟨value, wt, hvalue, hwt, hle, hcovers⟩ := hposition (by omega)
  have hscaled : (s.protocolParams.liqHealthThresholdBps : ℤ) * debt ≤
      s.protocolParams.liqHealthThresholdBps * (debt + more) :=
    mul_le_mul_of_nonneg_left (by omega) (Int.natCast_nonneg _)
  exact ⟨value, wt, hvalue, hwt, hle, hscaled.trans hcovers⟩

end Withdrawals

/-- The checks of a liquidation but for that of the position. -/
def Liquidable (tok : Token τ) (self : Address) (env : Ledger) (liquidator borrower : Address)
    (loanId : ℕ) (debtToCover : ℤ) (s : State τ) : Prop :=
  (env.authorized liquidator = true ∧ s.paused = false ∧ 0 < debtToCover) ∧
    ∃ loan, requireOpenLoan s borrower loanId = .ok loan ∧ loan.Fits env.timestamp ∧
      s.totalDebt.amount loan.borrowToken + loan.due env.timestamp ≤ I128.max ∧
      Nonempty (Seizure tok self env s liquidator borrower loan.borrowToken
        (min debtToCover (loan.upTo env.timestamp).totalDebt))

/-- The weighted value of the position stays below the debt times the threshold. -/
def Falls (env : Ledger) (user : Address) (debt : ℤ) (s : State τ) : Prop :=
  debt ≤ I128.max ∧ ∃ value wt, totalCollateralValue env s user = .ok value ∧
    weightedThreshold env s user = .ok wt ∧ value * wt ≤ I128.max ∧
    value * wt < s.protocolParams.liqHealthThresholdBps * debt

section Liquidations

variable {env : Ledger} {liquidator borrower : Address} {loanId : ℕ} {debtToCover : ℤ}

theorem unhealthy_iff (hb : Booked s) (hc : Configured s) {user : Address}
    (hpos : 0 < debtOf (ofUser user) s.loan) :
    (∃ hf, calcUserHealth env s user = .ok hf ∧
        hf.healthFactorBps < s.protocolParams.liqHealthThresholdBps) ↔
      Falls env user (debtOf (ofUser user) s.loan) s := by
  unfold calcUserHealth
  constructor
  · rintro ⟨hf, h, hbelow⟩
    obtain ⟨debt, hdebt, h⟩ := bind_ok.mp h
    obtain ⟨hin, rfl⟩ := (userTotalDebt_iff hb).mp hdebt
    obtain ⟨value, hvalue, h⟩ := bind_ok.mp h
    obtain ⟨wt, hwt, hhf⟩ := bind_ok.mp h
    obtain ⟨hfits, hthreshold⟩ :=
      calculateHealthFactor_ok (hc.sumValues_nonneg hvalue le_rfl) hpos hhf
    refine ⟨hin.2, value, wt, hvalue, hwt, hfits.2, not_le.mp fun hcovers => ?_⟩
    exact absurd ((hthreshold _).mpr hcovers) (not_le.mpr hbelow)
  · rintro ⟨hmax, value, wt, hvalue, hwt, hle, hfalls⟩
    have hdebt : userTotalDebt s user = .ok (debtOf (ofUser user) s.loan) :=
      (userTotalDebt_iff hb).mpr ⟨inRange_of_nonneg_of_le hpos.le hmax le_rfl, rfl⟩
    have hvalue₀ := hc.sumValues_nonneg hvalue le_rfl
    have hfits := inRange_of_nonneg_of_le (mul_nonneg hvalue₀ (Int.natCast_nonneg wt)) hle le_rfl
    obtain ⟨hf, hhf⟩ := calculateHealthFactor_of_inRange hvalue₀ hpos hfits
    refine ⟨hf, bind_ok.mpr ⟨_, hdebt, bind_ok.mpr ⟨value, hvalue, bind_ok.mpr ⟨wt, hwt, hhf⟩⟩⟩,
      not_le.mp fun hreached => ?_⟩
    exact absurd (((calculateHealthFactor_ok hvalue₀ hpos hhf).2 _).mp hreached) (not_le.mpr hfalls)

/-- Whoever has an open loan owes something. -/
theorem debt_pos (hb : Booked s) {loan : Loan} (h : requireOpenLoan s borrower loanId = .ok loan) :
    0 < debtOf (ofUser borrower) s.loan := by
  obtain ⟨hk, hopen⟩ := requireOpenLoan_ok h
  have hborrower : loan.borrower = borrower := by
    unfold requireOpenLoan at h
    obtain ⟨loan', hloan, -⟩ := bind_ok.mp h
    obtain ⟨loan₀, hk₀, hborrower⟩ := (hb.listed borrower loanId).mp (requireUserLoan_ok hloan).1
    rwa [← Option.some.inj (hk.symm.trans hk₀)] at hborrower
  have hle := Store.weight_le_total (s := s.loan)
    (w := fun _ l => if ofUser borrower l = true then l.owed else 0) loanId (by
      intro id' loan' hk'
      have := (hb.sound id' loan' hk').owed_nonneg
      split <;> omega)
  rw [Store.weight_some hk, if_pos (by simp [ofUser, hborrower])] at hle
  obtain ⟨hprincipal, hinterest, htotal⟩ := (hb.sound loanId loan hk).live hopen
  rw [show loan.owed = loan.totalDebt from if_pos hopen] at hle
  exact lt_of_lt_of_le (by omega) hle

theorem payDown_of {close : Loan → Loan} {loan : Loan} {amount : ℤ} (hsound : loan.Sound)
    (hopen : loan.Open) (hamount : 0 ≤ amount) (hle : amount ≤ loan.totalDebt)
    (hmax : loan.totalDebt ≤ I128.max) : ∃ loan', payDown close loan amount = .ok loan' := by
  obtain ⟨hprincipal, hinterest, htotal⟩ := hsound.live hopen
  have hpaid : 0 ≤ min amount loan.accruedInterest := le_min hamount hinterest
  have hpaid₁ := min_le_left amount loan.accruedInterest
  have hpaid₂ := min_le_right amount loan.accruedInterest
  have hrest : amount - min amount loan.accruedInterest ≤ loan.principal := by
    rcases min_choice amount loan.accruedInterest with h | h <;> rw [h] <;> omega
  unfold payDown
  refine ⟨_, I128.sub_bind.mpr ⟨?_, I128.sub_bind.mpr ⟨?_, I128.sub_bind.mpr ⟨?_,
    I128.sub_bind.mpr ⟨?_, rfl⟩⟩⟩⟩⟩
  · exact inRange_of_nonneg_of_le (by omega) (by omega) hmax
  · exact inRange_of_nonneg_of_le (by omega) (by omega) hmax
  · exact inRange_of_nonneg_of_le (by omega) (by omega) hmax
  · exact inRange_of_nonneg_of_le (by omega) (by omega) hmax

/-- Where the position is below the threshold and the rest is as it should be, the liquidation goes
through: what it writes is in range. -/
theorem liquidateInternal_of (hs : Reachable tok self s) (lock : Bool) {loan : Loan}
    (hpos : 0 < debtToCover) (hloan : requireOpenLoan s borrower loanId = .ok loan)
    (hfits : loan.Fits env.timestamp)
    (htotal : s.totalDebt.amount loan.borrowToken + loan.due env.timestamp ≤ I128.max)
    (seizure : Seizure tok self env s liquidator borrower loan.borrowToken
      (min debtToCover (loan.upTo env.timestamp).totalDebt))
    {hf : HealthFactor} (hhealth : calcUserHealth env s borrower = .ok hf)
    (hbelow : hf.healthFactorBps < s.protocolParams.liqHealthThresholdBps) :
    ∃ s', liquidateInternal tok self env liquidator borrower loanId debtToCover
      { s with reentrancyLock := lock } = .ok s' := by
  have hb := hs.booked
  have hr := hs.recorded
  obtain ⟨hk, hopen⟩ := requireOpenLoan_ok hloan
  have hsound := hb.sound loanId loan hk
  obtain ⟨⟨loan', s₁⟩, haccrue⟩ := accrueLoan_of_fits (s := { s with reentrancyLock := lock })
    hsound (hb.owed_le hk) hfits htotal
  obtain ⟨rfl, hs₁, -⟩ := accrueLoan_upTo haccrue
  have hmarket : SameMarket env env s s₁ := by
    rw [hs₁]
    exact ⟨rfl, rfl, rfl, rfl⟩
  have hhealth₁ := (hmarket.calcUserHealth (by rw [hs₁]) (by rw [hs₁]) (by rw [hs₁]) (by rw [hs₁])
    borrower).trans hhealth
  have hbest₁ := (hmarket.bestSeizeCollateral (by rw [hs₁]) (by rw [hs₁]) borrower).trans seizure.best
  have hprice₁ := (hmarket.getOraclePrice seizure.config.oracleFeed).trans seizure.priced
  subst hs₁
  -- What is covered is part of the loan, and the loan with its interest part of the total.
  obtain ⟨-, -, htoken, -, -⟩ := loan.upTo_fixed env.timestamp
  have hopen' := (loan.upTo_open env.timestamp).mpr hopen
  have hdebt := hsound.totalDebt_upTo hopen env.timestamp
  have hpart := hb.owed_le hk
  rw [show loan.owed = loan.totalDebt from if_pos hopen] at hpart
  obtain ⟨hprincipal, hinterest, hsum⟩ := hsound.live hopen
  have hdue := loan.due_nonneg env.timestamp
  have hcovered : 0 ≤ min debtToCover (loan.upTo env.timestamp).totalDebt :=
    le_min hpos.le (by omega)
  have hcovered' := min_le_right debtToCover (loan.upTo env.timestamp).totalDebt
  obtain ⟨loan'', hpaid⟩ : ∃ loan'', payDown (fun loan => { loan with isLiquidated := true })
      (loan.upTo env.timestamp) (min debtToCover (loan.upTo env.timestamp).totalDebt) = .ok loan'' :=
    payDown_of (hsound.upTo _) hopen' hcovered hcovered' (by omega)
  have htoken'' : loan''.borrowToken = loan.borrowToken := by
    rw [payDown_ok hpaid]
    exact (paidDown_fixed (.inr rfl) _ _).2.2.trans htoken
  -- What is seized is part of the user's collateral, and that part of the total.
  have hseized := calculateLiquidationSeizure_nonneg seizure.computed
  have henough := seizure.enough
  have hamount := hr.amount_le borrower seizure.token
  have hmax := hr.bounded seizure.token
  have htotal' : (withDue env.timestamp loan s.totalDebt).amount loan.borrowToken =
      s.totalDebt.amount loan.borrowToken + loan.due env.timestamp := by
    rw [withDue_amount, if_pos rfl]
  refine ⟨_, panicIf_bind.mpr ⟨not_le.mpr hpos, bind_ok.mpr ⟨loan, hloan, bind_ok.mpr ⟨_, haccrue,
    bind_ok.mpr ⟨hf, hhealth₁, panicIf_bind.mpr ⟨not_le.mpr hbelow, bind_ok.mpr ⟨_, hbest₁,
    expect_bind.mpr ⟨_, rfl, bind_ok.mpr ⟨_, hprice₁, bind_ok.mpr ⟨_, seizure.computed,
    panicIf_bind.mpr ⟨not_lt.mpr henough, (Token.pay_bind _).mpr ⟨seizure.paid, ?_,
    (Token.pay_bind _).mpr ⟨seizure.tokens, seizure.seizes, I128.sub_bind.mpr ⟨?_,
    I128.sub_bind.mpr ⟨?_, bind_ok.mpr ⟨loan'', hpaid, I128.sub_bind.mpr ⟨?_, rfl⟩⟩⟩⟩⟩⟩⟩⟩⟩⟩⟩⟩⟩⟩⟩⟩⟩
  · rw [htoken]
    exact seizure.covers
  · exact inRange_of_nonneg_of_le (sub_nonneg.mpr henough) (sub_le_self _ hseized)
      (hamount.trans hmax)
  · exact inRange_of_nonneg_of_le (sub_nonneg.mpr (henough.trans hamount)) (sub_le_self _ hseized)
      hmax
  · rw [htoken'']
    change I128.InRange ((withDue env.timestamp loan s.totalDebt).amount loan.borrowToken - _)
    rw [htotal']
    exact inRange_of_nonneg_of_le (by omega) (by omega) htotal

theorem liquidate_iff (hs : Reachable tok self s) :
    (∃ s', liquidate tok self env liquidator borrower loanId debtToCover s = .ok s') ↔
      Liquidable tok self env liquidator borrower loanId debtToCover s ∧
        Falls env borrower (debtOf (ofUser borrower) s.loan) s := by
  have hb := hs.booked
  constructor
  · rintro ⟨s', h⟩
    obtain ⟨hgate, loan, s₁, hloan, haccrue, seizure, -⟩ := liquidate_ok h
    obtain ⟨hk, hopen⟩ := requireOpenLoan_ok hloan
    obtain ⟨hfits, htotal⟩ := accrueLoan_fits (s := { s with reentrancyLock := true })
      (hb.sound loanId loan hk) (hs.bounded _) haccrue
    exact ⟨⟨hgate, loan, hloan, hfits, htotal, ⟨seizure⟩⟩,
      (unhealthy_iff hb hs.configured (debt_pos hb hloan)).mp (liquidate_unhealthy h)⟩
  · rintro ⟨⟨⟨hauth, hpaused, hpos⟩, loan, hloan, hfits, htotal, ⟨seizure⟩⟩, hfalls⟩
    obtain ⟨hf, hhealth, hbelow⟩ :=
      (unhealthy_iff hb hs.configured (debt_pos hb hloan)).mpr hfalls
    obtain ⟨s₁, hinner⟩ :=
      liquidateInternal_of hs true hpos hloan hfits htotal seizure hhealth hbelow
    exact ⟨_, requireAuth_bind.mpr ⟨hauth, panicIf_bind.mpr ⟨by simp [hpaused],
      withGuard_of hs.recorded.unlocked hinner⟩⟩⟩

end Liquidations

section Accrued

variable {env : Ledger} {user : Address}

theorem requireOpenLoan_iff {id : ℕ} {loan : Loan} :
    requireOpenLoan s user id = .ok loan ↔
      id ∈ getUserLoanIds s user ∧ s.loan.get? id = some loan ∧ loan.Open := by
  constructor
  · intro h
    obtain ⟨hk, hopen⟩ := requireOpenLoan_ok h
    unfold requireOpenLoan at h
    obtain ⟨loan', hloan, -⟩ := bind_ok.mp h
    exact ⟨(requireUserLoan_ok hloan).1, hk, hopen⟩
  · rintro ⟨hlisted, hk, hopen⟩
    have hfound : requireUserLoan s user id = .ok loan := by
      unfold requireUserLoan
      rw [if_pos hlisted]
      exact expect_ok.mpr hk
    exact bind_ok.mpr ⟨loan, hfound, panicIf_bind.mpr ⟨by simp [hopen.1], panicIf_bind.mpr
      ⟨by simp [hopen.2], rfl⟩⟩⟩

/-- What the accrual of all loans of a user leaves as it was. -/
theorem accrued_frame (h : accrueAllInterest env user s = .ok s₁) :
    SameMarket env env s s₁ ∧ s₁.collateralTokens = s.collateralTokens ∧
      s₁.userCollateral = s.userCollateral ∧ s₁.protocolParams = s.protocolParams ∧
      s₁.userLoanIds = s.userLoanIds ∧ s₁.tokens = s.tokens ∧ s₁.paused = s.paused := by
  obtain ⟨loan, totals, rfl⟩ := accrueEach_frame h
  exact ⟨⟨rfl, rfl, rfl, rfl⟩, rfl, rfl, rfl, rfl, rfl, rfl⟩

theorem accrued_reachable (hs : Reachable tok self s) (h : accrueAllInterest env user s = .ok s₁) :
    Reachable tok self s₁ := by
  obtain ⟨tokens, hrun⟩ := hs
  exact ⟨tokens, hrun.tail (a := .call env (.accrueAllInterest user)) trivial h⟩

theorem accrued_amount (h : accrueAllInterest env user s = .ok s₁) (who token : Address) :
    (getUserCollateral s₁ who token).amount = (getUserCollateral s who token).amount := by
  unfold getUserCollateral
  rw [(accrued_frame h).2.2.1]

theorem accrued_withdrawable (h : accrueAllInterest env user s = .ok s₁) (token : Address)
    (amount : ℤ) :
    Withdrawable tok self env user token amount s₁ ↔ Withdrawable tok self env user token amount s := by
  obtain ⟨-, -, -, -, -, htokens, hpaused⟩ := accrued_frame h
  unfold Withdrawable
  rw [htokens, hpaused, accrued_amount h]

theorem accrued_keeps (h : accrueAllInterest env user s = .ok s₁) (token : Address)
    (remaining debt : ℤ) :
    Keeps env user token remaining debt s₁ ↔ Keeps env user token remaining debt s := by
  obtain ⟨hmarket, hlist, -, hparams, -⟩ := accrued_frame h
  have hamounts : ∀ t, (if t = token then remaining else (getUserCollateral s₁ user t).amount) =
      if t = token then remaining else (getUserCollateral s user t).amount := by
    intro t
    rw [accrued_amount h]
  unfold Keeps totalCollateralValueOverride weightedThresholdOverride
  rw [hlist, hparams, hmarket.sumValues _ _ hamounts, hmarket.weighThresholds _ _ _ hamounts]

theorem accrued_falls (h : accrueAllInterest env user s = .ok s₁) (debt : ℤ) :
    Falls env user debt s₁ ↔ Falls env user debt s := by
  obtain ⟨hmarket, hlist, hcollateral, hparams, -⟩ := accrued_frame h
  obtain ⟨hvalue, hwt⟩ := hmarket.position hlist hcollateral user
  unfold Falls
  rw [hvalue, hwt, hparams]

/-- The interest of one loan is part of what is due. -/
theorem due_le_unbooked {id : ℕ} {loan : Loan} (now : ℕ) (hk : s.loan.get? id = some loan) :
    loan.due now ≤ unbooked now (ofUserIn loan.borrower loan.borrowToken) s.loan := by
  have hle := Store.weight_le_total (s := s.loan)
    (w := fun _ l => if ofUserIn loan.borrower loan.borrowToken l = true then l.due now else 0) id (by
      intro id' loan' hk'
      have := loan'.due_nonneg now
      split <;> omega)
  rwa [Store.weight_some hk, if_pos (by simp [ofUserIn])] at hle

theorem Loan.Fits.upTo {now : ℕ} {loan : Loan} (h : loan.Fits now) : (loan.upTo now).Fits now := by
  rcases (loan.due_nonneg now).lt_or_eq with hdue | hdue
  · have hlast : (loan.upTo now).lastAccrualUpdate = now := by
      unfold Loan.upTo
      rw [if_pos hdue]
    unfold Loan.Fits
    rw [hlast, sub_self, mul_zero]
    decide
  · rwa [Loan.upTo_of_due hdue.symm]

/-- The same collateral is seized for the same debt. -/
theorem accrued_seizure (h : accrueAllInterest env user s = .ok s₁) (liquidator debtToken : Address)
    (covered : ℤ) :
    Nonempty (Seizure tok self env s₁ liquidator user debtToken covered) ↔
      Nonempty (Seizure tok self env s liquidator user debtToken covered) := by
  obtain ⟨hmarket, hlist, hcollateral, -, -, htokens, -⟩ := accrued_frame h
  have hbest := hmarket.bestSeizeCollateral hlist hcollateral user
  constructor
  · rintro ⟨z⟩
    exact ⟨z.token, z.config, z.price, z.seized, z.bonus, z.paid, z.tokens, hbest.symm.trans z.best,
      (hmarket.getOraclePrice _).symm.trans z.priced, z.computed,
      z.enough.trans_eq (accrued_amount h user z.token), htokens ▸ z.covers, z.seizes⟩
  · rintro ⟨z⟩
    exact ⟨z.token, z.config, z.price, z.seized, z.bonus, z.paid, z.tokens, hbest.trans z.best,
      (hmarket.getOraclePrice _).trans z.priced, z.computed,
      z.enough.trans_eq (accrued_amount h user z.token).symm, htokens.symm ▸ z.covers, z.seizes⟩

theorem accrued_liquidable (hs : Reachable tok self s) (h : accrueAllInterest env user s = .ok s₁)
    (liquidator : Address) (loanId : ℕ) (debtToCover : ℤ) :
    Liquidable tok self env liquidator user loanId debtToCover s₁ ↔
      Liquidable tok self env liquidator user loanId debtToCover s := by
  have hb := hs.booked
  have hs₁ := accrued_reachable hs h
  obtain ⟨-, -, -, -, hids, -, hpaused⟩ := accrued_frame h
  obtain ⟨hfits, htotals⟩ := (accrueAllInterest_iff hb hs.bounded).mp ⟨s₁, h⟩
  have hlist : getUserLoanIds s₁ user = getUserLoanIds s user := by
    unfold getUserLoanIds
    rw [hids]
  unfold Liquidable
  rw [hpaused]
  refine and_congr_right fun _ => ⟨?_, ?_⟩
  · rintro ⟨loan₁, hloan, -, -, hseizure⟩
    obtain ⟨hlisted, hk₁, hopen₁⟩ := requireOpenLoan_iff.mp hloan
    rw [hlist] at hlisted
    rw [accrueEach_upTo hb h loanId, if_pos hlisted] at hk₁
    obtain ⟨loan, hk, rfl⟩ := Option.map_eq_some_iff.mp hk₁
    obtain ⟨loan₀, hk₀, hborrower⟩ := (hb.listed user loanId).mp hlisted
    obtain rfl := Option.some.inj (hk.symm.trans hk₀)
    obtain ⟨-, -, htoken, -, -⟩ := loan.upTo_fixed env.timestamp
    rw [htoken, Loan.upTo_upTo] at hseizure
    have hdue := due_le_unbooked env.timestamp hk
    have htotal := htotals loan.borrowToken
    rw [hborrower] at hdue
    exact ⟨loan, requireOpenLoan_iff.mpr ⟨hlisted, hk, (loan.upTo_open _).mp hopen₁⟩,
      hfits loanId loan hk hborrower, by omega, (accrued_seizure h _ _ _).mp hseizure⟩
  · rintro ⟨loan, hloan, hfit, -, hseizure⟩
    obtain ⟨hlisted, hk, hopen⟩ := requireOpenLoan_iff.mp hloan
    have hk₁ : s₁.loan.get? loanId = some (loan.upTo env.timestamp) := by
      rw [accrueEach_upTo hb h loanId, if_pos hlisted, hk]
      rfl
    obtain ⟨-, -, htoken, -, -⟩ := loan.upTo_fixed env.timestamp
    refine ⟨loan.upTo env.timestamp,
      requireOpenLoan_iff.mpr ⟨hlist ▸ hlisted, hk₁, (loan.upTo_open _).mpr hopen⟩, hfit.upTo, ?_, ?_⟩
    · rw [Loan.due_upTo, add_zero]
      exact hs₁.bounded _
    · rw [htoken, Loan.upTo_upTo]
      exact (accrued_seizure h _ _ _).mpr hseizure

/-- A call that completes in the same cases after each accrual completes after one where the interest
can be booked. -/
theorem after_accrual_iff (hs : Reachable tok self s) {run : State τ → Result (State τ)} {Q : Prop}
    (h : ∀ s₁, accrueAllInterest env user s = .ok s₁ → ((∃ s', run s₁ = .ok s') ↔ Q)) :
    (∃ s₁ s', accrueAllInterest env user s = .ok s₁ ∧ run s₁ = .ok s') ↔
      Bookable env.timestamp user s ∧ Q := by
  rw [← accrueAllInterest_iff hs.booked hs.bounded]
  constructor
  · rintro ⟨s₁, s', haccrued, hrun⟩
    exact ⟨⟨s₁, haccrued⟩, (h s₁ haccrued).mp ⟨s', hrun⟩⟩
  · rintro ⟨⟨s₁, haccrued⟩, hq⟩
    obtain ⟨s', hrun⟩ := (h s₁ haccrued).mpr hq
    exact ⟨s₁, s', haccrued, hrun⟩

theorem accrued_debt (hs : Reachable tok self s) (h : accrueAllInterest env user s = .ok s₁) :
    debtOf (ofUser user) s₁.loan =
      debtOf (ofUser user) s.loan + unbooked env.timestamp (ofUser user) s.loan :=
  totalDebt_accrued hs.booked h

/-- In every reachable state a withdrawal completes if and only if it does after an accrual of all
loans of the user at the same time exactly when the interest that is due can be booked and is
backed, too, wherever the stored debt is; and a liquidation does exactly when the stored debt takes
the position below the threshold if and only if the debt with the interest, which can be booked,
does. -/
theorem accrual_first (hs : Reachable tok self s) (env : Ledger) (user : Address) :
    let debt := debtOf (ofUser user) s.loan
    let due := unbooked env.timestamp (ofUser user) s.loan
    (∀ (token : Address) (amount : ℤ),
      let remaining := (getUserCollateral s user token).amount - amount
      ((∃ s', withdrawCollateral tok self env user token amount s = .ok s') ↔
        ∃ s₁ s', accrueAllInterest env user s = .ok s₁ ∧
          withdrawCollateral tok self env user token amount s₁ = .ok s') ↔
      (Withdrawable tok self env user token amount s → Keeps env user token remaining debt s →
        Bookable env.timestamp user s ∧ Keeps env user token remaining (debt + due) s)) ∧
    (∀ (liquidator : Address) (loanId : ℕ) (debtToCover : ℤ),
      ((∃ s', liquidate tok self env liquidator user loanId debtToCover s = .ok s') ↔
        ∃ s₁ s', accrueAllInterest env user s = .ok s₁ ∧
          liquidate tok self env liquidator user loanId debtToCover s₁ = .ok s') ↔
      (Liquidable tok self env liquidator user loanId debtToCover s →
        (Falls env user debt s ↔ Bookable env.timestamp user s ∧ Falls env user (debt + due) s))) := by
  intro debt due
  refine ⟨fun token amount => ?_, fun liquidator loanId debtToCover => ?_⟩
  · intro remaining
    rw [after_accrual_iff hs (Q := Withdrawable tok self env user token amount s ∧
      Keeps env user token remaining (debt + due) s)]
    · rw [withdrawCollateral_iff hs]
      have hless : Keeps env user token remaining (debt + due) s →
          Keeps env user token remaining debt s := fun h => h.less (unbooked_nonneg _ _ _)
      tauto
    · intro s₁ h
      rw [withdrawCollateral_iff (accrued_reachable hs h), accrued_withdrawable h, accrued_amount h,
        accrued_keeps h, accrued_debt hs h]
  · rw [after_accrual_iff hs (Q := Liquidable tok self env liquidator user loanId debtToCover s ∧
      Falls env user (debt + due) s)]
    · rw [liquidate_iff hs]
      tauto
    · intro s₁ h
      rw [liquidate_iff (accrued_reachable hs h), accrued_liquidable hs h, accrued_falls h,
        accrued_debt hs h]

end Accrued

section Runs

open Sample

/-- Alice owes little less than her gold allows. -/
def nearThreshold : List (ℕ × Op) := opening ++ [
  (0, .setPrice admin "GOLD" 10),
  (0, .borrow alice usdc 7900)]

/-- A year later she withdraws and cannot be liquidated; once the interest of that year is booked
it is the other way round. -/
theorem accrual_first_matters :
    ∃ s s₁ : State Balances, Reachable asset contract s ∧
      accrueAllInterest (env 31536000) alice s = .ok s₁ ∧
      (∃ s', withdrawCollateral asset contract (env 31536000) alice gold 50 s = .ok s') ∧
      (¬ ∃ s', withdrawCollateral asset contract (env 31536000) alice gold 50 s₁ = .ok s') ∧
      (¬ ∃ s', liquidate asset contract (env 31536000) bob alice 0 1000 s = .ok s') ∧
      ∃ s', liquidate asset contract (env 31536000) bob alice 0 1000 s₁ = .ok s' := by
  have h : After (fun s => After (fun s₁ =>
        After (fun _ => True) (withdrawCollateral asset contract (env 31536000) alice gold 50 s) ∧
        ¬ After (fun _ => True) (withdrawCollateral asset contract (env 31536000) alice gold 50 s₁) ∧
        ¬ After (fun _ => True) (liquidate asset contract (env 31536000) bob alice 0 1000 s) ∧
        After (fun _ => True) (liquidate asset contract (env 31536000) bob alice 0 1000 s₁))
      (accrueAllInterest (env 31536000) alice s))
      (execute (next asset contract) (calls nearThreshold) start) := by
    decide +kernel
  obtain ⟨s, hs, h⟩ := h.exists_ok
  obtain ⟨s₁, hs₁, hwithdraw, hrefused, hspared, hliquidated⟩ := h.exists_ok
  obtain ⟨s₂, hs₂, -⟩ := hwithdraw.exists_ok
  obtain ⟨s₃, hs₃, -⟩ := hliquidated.exists_ok
  refine ⟨s, s₁, ⟨_, execute_steps (calls nearThreshold) (fun _ _ _ => trivial) hs⟩, hs₁,
    ⟨s₂, hs₂⟩, ?_, ?_, s₃, hs₃⟩
  · rintro ⟨s', hs'⟩
    exact hrefused (by simp only [hs', After])
  · rintro ⟨s', hs'⟩
    exact hspared (by simp only [hs', After])

/-- After ten days interest is due that makes no difference. -/
theorem accrual_first_ten_days :
    ∃ s : State Balances, Reachable asset contract s ∧
      unbooked 864000 (ofUser alice) s.loan = 4 ∧
      ((∃ s', withdrawCollateral asset contract (env 864000) alice gold 50 s = .ok s') ↔
        ∃ s₁ s', accrueAllInterest (env 864000) alice s = .ok s₁ ∧
          withdrawCollateral asset contract (env 864000) alice gold 50 s₁ = .ok s') := by
  have h : After (fun s => unbooked 864000 (ofUser alice) s.loan = 4 ∧
        After (fun s₁ =>
          After (fun _ => True) (withdrawCollateral asset contract (env 864000) alice gold 50 s₁))
          (accrueAllInterest (env 864000) alice s))
      (execute (next asset contract) (calls nearThreshold) start) := by
    decide +kernel
  obtain ⟨s, hs, hdue, h⟩ := h.exists_ok
  obtain ⟨s₁, hs₁, h⟩ := h.exists_ok
  obtain ⟨s₂, hs₂, -⟩ := h.exists_ok
  have hreach : Reachable asset contract s :=
    ⟨_, execute_steps (calls nearThreshold) (fun _ _ _ => trivial) hs⟩
  have hbook := (accrueAllInterest_iff hreach.booked hreach.bounded).mp ⟨s₁, hs₁⟩
  have hkeeps := ((withdrawCollateral_iff (accrued_reachable hreach hs₁)).mp ⟨s₂, hs₂⟩).2
  rw [accrued_amount hs₁, accrued_keeps hs₁, accrued_debt hreach hs₁] at hkeeps
  exact ⟨s, hreach, hdue,
    ((accrual_first hreach (env 864000) alice).1 gold 50).mpr fun _ _ => ⟨hbook, hkeeps⟩⟩

end Runs

end CollateralManagement
