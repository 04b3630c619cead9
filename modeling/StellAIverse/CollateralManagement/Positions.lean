import StellAIverse.CollateralManagement.Custody
import StellAIverse.CollateralManagement.Interest
import StellAIverse.CollateralManagement.Market

/-!
# Positions

What a user owes and what backs it. A borrow and a withdrawal check the position as it
will be, and the liquidation reads it as it is stored: the two agree, so that what
passed the one check cannot pass the other.
-/

namespace CollateralManagement

open Soroban

variable {τ : Type} {tok : Token τ} {self : Address} {s s' : State τ}

theorem Reachable.recorded (hs : Reachable tok self s) : Recorded s := by
  obtain ⟨tokens, hrun⟩ := hs
  exact hrun.preserves (fun _ _ _ _ hn h => recorded_step h (next_effect hn))
    (recorded_deployed tokens)

/-- What the open loans that count owe together. -/
def debtOf (counts : Loan → Bool) (loans : Store ℕ Loan) : ℤ :=
  loans.total fun _ loan => if counts loan = true then loan.owed else 0

/-- The interest that is due by now on the loans that count. -/
def unbooked (now : ℕ) (counts : Loan → Bool) (loans : Store ℕ Loan) : ℤ :=
  loans.total fun _ loan => if counts loan = true then loan.due now else 0

/-- The loans of a user. -/
def ofUser (user : Address) (loan : Loan) : Bool := decide (loan.borrower = user)

/-- The loans of a user in a token. -/
def ofUserIn (user token : Address) (loan : Loan) : Bool :=
  decide (loan.borrower = user ∧ loan.borrowToken = token)

/-- The loans in a token. -/
def inToken (token : Address) (loan : Loan) : Bool := decide (loan.borrowToken = token)

section Debts

variable {counts mine : Loan → Bool} {user token : Address} {d : ℤ}

theorem ofUser_borrower {loan : Loan} (h : ofUser user loan = true) : loan.borrower = user :=
  of_decide_eq_true h

theorem ofUserIn_borrower {loan : Loan} (h : ofUserIn user token loan = true) :
    loan.borrower = user :=
  (of_decide_eq_true h).1

theorem debtOf_nonneg (hb : Booked s) (counts : Loan → Bool) : 0 ≤ debtOf counts s.loan := by
  apply Store.total_nonneg
  intro id loan hk
  split
  · exact (hb.sound id loan hk).owed_nonneg
  · exact le_rfl

theorem unbooked_nonneg (now : ℕ) (counts : Loan → Bool) (loans : Store ℕ Loan) :
    0 ≤ unbooked now counts loans := by
  apply Store.total_nonneg
  intro id loan _
  have := loan.due_nonneg now
  split <;> omega

theorem owedIn_eq_debtOf (loans : Store ℕ Loan) (token : Address) :
    owedIn loans token = debtOf (inToken token) loans := by
  simp only [owedIn, debtOf, inToken, decide_eq_true_eq]

/-- The loop over listed loans adds up their weights, in range all the way as long as the sum is. -/
theorem sumDebts_iff (hb : Booked s) (counts : Loan → Bool) {ids : List ℕ} {total : ℤ}
    (hstored : ∀ id ∈ ids, ∃ loan, s.loan.get? id = some loan) (htotal : 0 ≤ total)
    (hfits : I128.InRange total) :
    let sum := total +
      (ids.map (s.loan.weight fun _ loan => if counts loan = true then loan.owed else 0)).sum
    sumDebts counts s ids total = .ok d ↔ I128.InRange sum ∧ d = sum := by
  induction ids generalizing total with
  | nil =>
    simp only [sumDebts, List.map_nil, List.sum_nil, add_zero, Except.ok.injEq]
    exact ⟨fun h => ⟨hfits, h.symm⟩, fun h => h.2.symm⟩
  | cons id rest ih =>
    obtain ⟨loan, hk⟩ := hstored id List.mem_cons_self
    have hrest : ∀ id' ∈ rest, ∃ loan, s.loan.get? id' = some loan := fun id' hmem =>
      hstored id' (List.mem_cons_of_mem id hmem)
    have howed := (hb.sound id loan hk).owed_nonneg
    simp only [List.map_cons, List.sum_cons, Store.weight_some hk, ← add_assoc]
    unfold sumDebts
    rw [hk]
    change (if _ then _ else _) = Except.ok d ↔ _
    by_cases hcounts : loan.Open ∧ counts loan = true
    · have hopen : loan.owed = loan.totalDebt := if_pos hcounts.1
      rw [if_pos ⟨hcounts.1.1, hcounts.1.2, hcounts.2⟩, if_pos hcounts.2, hopen, I128.add_bind]
      rw [hopen] at howed
      have hsum : 0 ≤ (rest.map
          (s.loan.weight fun _ loan => if counts loan = true then loan.owed else 0)).sum := by
        apply List.sum_nonneg
        intro x hx
        obtain ⟨id', hmem, rfl⟩ := List.mem_map.mp hx
        obtain ⟨loan', hk'⟩ := hrest id' hmem
        rw [Store.weight_some hk']
        have := (hb.sound id' loan' hk').owed_nonneg
        split <;> omega
      constructor
      · rintro ⟨hin, h⟩
        exact (ih hrest (by omega) hin).mp h
      · rintro ⟨hin, h⟩
        have hpart : I128.InRange (total + loan.totalDebt) := hin.of_le (by omega) (by omega)
        exact ⟨hpart, (ih hrest (by omega) hpart).mpr ⟨hin, h⟩⟩
    · rw [if_neg fun h => hcounts ⟨⟨h.1, h.2.1⟩, h.2.2⟩]
      have hzero : (if counts loan = true then loan.owed else 0) = 0 := by
        split
        · rename_i hc
          exact if_neg fun hopen => hcounts ⟨hopen, hc⟩
        · rfl
      rw [hzero, add_zero]
      exact ih hrest htotal hfits

/-- What the contract computes from the list of a user's loans. -/
theorem userDebts_iff (hb : Booked s) (hcounts : ∀ loan, counts loan = true → loan.borrower = user) :
    sumDebts counts s (getUserLoanIds s user) 0 = .ok d ↔
      I128.InRange (debtOf counts s.loan) ∧ d = debtOf counts s.loan := by
  have hstored : ∀ id ∈ getUserLoanIds s user, ∃ loan, s.loan.get? id = some loan := by
    intro id hmem
    obtain ⟨loan, hk, -⟩ := (hb.listed user id).mp hmem
    exact ⟨loan, hk⟩
  have hsum : debtOf counts s.loan = ((getUserLoanIds s user).map
      (s.loan.weight fun _ loan => if counts loan = true then loan.owed else 0)).sum := by
    apply Store.total_eq_sum_of_zero (hb.once user)
    intro id loan hk hunlisted
    apply if_neg
    intro hc
    exact hunlisted ((hb.listed user id).mpr ⟨loan, hk, hcounts loan hc⟩)
  have h := sumDebts_iff (d := d) hb counts hstored le_rfl I128.inRange_zero
  rwa [zero_add, ← hsum] at h

theorem userTotalDebt_iff (hb : Booked s) :
    userTotalDebt s user = .ok d ↔
      I128.InRange (debtOf (ofUser user) s.loan) ∧ d = debtOf (ofUser user) s.loan :=
  userDebts_iff hb fun _ => ofUser_borrower

theorem userDebtForToken_iff (hb : Booked s) :
    userDebtForToken s user token = .ok d ↔
      I128.InRange (debtOf (ofUserIn user token) s.loan) ∧ d = debtOf (ofUserIn user token) s.loan :=
  userDebts_iff hb fun _ => ofUserIn_borrower

/-- Accrual of all loans of a user books what is due on those of them that count. -/
theorem debtOf_accrued {env : Ledger} (hb : Booked s)
    (hmine : ∀ loan, mine loan = true ↔ counts loan = true ∧ loan.borrower = user)
    (hupTo : ∀ loan, counts (loan.upTo env.timestamp) = counts loan)
    (h : accrueEach env user (getUserLoanIds s user) s = .ok s') :
    debtOf counts s'.loan = debtOf counts s.loan + unbooked env.timestamp mine s.loan := by
  have hloans : ∀ id, s'.loan.get? id = (s.loan.get? id).map fun loan =>
      if loan.borrower = user then loan.upTo env.timestamp else loan := by
    intro id
    rw [accrueEach_upTo hb h id]
    have hlisted := hb.listed user id
    cases hk : s.loan.get? id with
    | none => simp
    | some loan =>
      rw [hk] at hlisted
      simp only [Option.some.injEq, exists_eq_left'] at hlisted
      simp only [hlisted, Option.map_some]
      split <;> rfl
  unfold debtOf unbooked
  rw [Store.total_of_map hloans, ← Store.total_add]
  apply Store.total_congr
  intro id loan hk
  by_cases hborrower : loan.borrower = user
  · rw [if_pos hborrower, hupTo]
    by_cases hc : counts loan = true
    · rw [if_pos hc, if_pos hc, if_pos ((hmine loan).mpr ⟨hc, hborrower⟩),
        (hb.sound id loan hk).owed_upTo]
    · rw [if_neg hc, if_neg hc, if_neg fun hm => hc ((hmine loan).mp hm).1, add_zero]
  · rw [if_neg hborrower, if_neg (c := mine loan = true) fun hm => hborrower ((hmine loan).mp hm).2,
      add_zero]

theorem totalDebt_accrued {env : Ledger} (hb : Booked s)
    (h : accrueEach env user (getUserLoanIds s user) s = .ok s') :
    debtOf (ofUser user) s'.loan =
      debtOf (ofUser user) s.loan + unbooked env.timestamp (ofUser user) s.loan := by
  refine debtOf_accrued hb (fun loan => ?_) (fun loan => ?_) h
  · simp [ofUser]
  · unfold ofUser
    rw [(loan.upTo_fixed _).2.1]

theorem debtForToken_accrued {env : Ledger} (hb : Booked s)
    (h : accrueEach env user (getUserLoanIds s user) s = .ok s') :
    debtOf (ofUserIn user token) s'.loan =
      debtOf (ofUserIn user token) s.loan + unbooked env.timestamp (ofUserIn user token) s.loan := by
  refine debtOf_accrued hb (fun loan => ?_) (fun loan => ?_) h
  · simp only [ofUserIn, decide_eq_true_eq]
    exact ⟨fun hm => ⟨hm, hm.1⟩, fun hm => hm.1⟩
  · unfold ofUserIn
    obtain ⟨-, hborrower, htoken, -, -⟩ := loan.upTo_fixed env.timestamp
    rw [hborrower, htoken]

theorem owedIn_accrued {env : Ledger} (hb : Booked s)
    (h : accrueEach env user (getUserLoanIds s user) s = .ok s') :
    owedIn s'.loan token =
      owedIn s.loan token + unbooked env.timestamp (ofUserIn user token) s.loan := by
  rw [owedIn_eq_debtOf, owedIn_eq_debtOf]
  refine debtOf_accrued hb (fun loan => ?_) (fun loan => ?_) h
  · simp only [ofUserIn, inToken, decide_eq_true_eq]
    exact and_comm
  · unfold inToken
    rw [(loan.upTo_fixed _).2.2.1]

/-- A new loan adds its amount. -/
theorem debtOf_lent (hb : Booked s) {loan : Loan} (hcounts : counts loan = true) :
    debtOf counts (s.loan.set s.loanCounter loan) = debtOf counts s.loan + loan.owed := by
  unfold debtOf
  rw [Store.total_set, Store.weight_none hb.noLoan, sub_zero, if_pos hcounts]

end Debts

section Calls

variable {env env' : Ledger} {user token : Address} {amount : ℤ}

/-- The loans of the list decide what it adds up to. -/
theorem sumDebts_congr {counts : Loan → Bool} (hloan : s'.loan = s.loan) (ids : List ℕ) (total : ℤ) :
    sumDebts counts s' ids total = sumDebts counts s ids total := by
  induction ids generalizing total with
  | nil => rfl
  | cons id rest ih =>
    unfold sumDebts
    simp only [hloan, ih]

theorem userTotalDebt_congr (hloan : s'.loan = s.loan) (hids : s'.userLoanIds = s.userLoanIds)
    (user : Address) : userTotalDebt s' user = userTotalDebt s user := by
  unfold userTotalDebt getUserLoanIds
  rw [hids]
  exact sumDebts_congr hloan _ _

/-- Equal amounts in the same market are worth the same and weigh the same. -/
theorem SameMarket.position (h : SameMarket env env' s s')
    (hlist : s'.collateralTokens = s.collateralTokens)
    (hcollateral : s'.userCollateral = s.userCollateral) (user : Address) :
    totalCollateralValue env' s' user = totalCollateralValue env s user ∧
      weightedThreshold env' s' user = weightedThreshold env s user := by
  have hamounts : ∀ t, (getUserCollateral s' user t).amount = (getUserCollateral s user t).amount := by
    intro t
    unfold getUserCollateral
    rw [hcollateral]
  unfold totalCollateralValue weightedThreshold
  rw [hlist]
  exact ⟨h.sumValues _ _ hamounts, h.weighThresholds _ _ _ hamounts⟩

theorem SameMarket.calcUserHealth (h : SameMarket env env' s s') (hloan : s'.loan = s.loan)
    (hids : s'.userLoanIds = s.userLoanIds) (hlist : s'.collateralTokens = s.collateralTokens)
    (hcollateral : s'.userCollateral = s.userCollateral) (user : Address) :
    calcUserHealth env' s' user = calcUserHealth env s user := by
  obtain ⟨hvalue, hwt⟩ := h.position hlist hcollateral user
  unfold CollateralManagement.calcUserHealth
  rw [userTotalDebt_congr hloan hids, hvalue, hwt]

/-- The lock plays no part in the check of a withdrawal. -/
theorem checkWithdrawal_locked (lock : Bool) (env : Ledger) (user token : Address) (remaining : ℤ) :
    checkWithdrawal env user token remaining { s with reentrancyLock := lock } =
      checkWithdrawal env user token remaining s := by
  have hmarket : SameMarket env env s { s with reentrancyLock := lock } := ⟨rfl, rfl, rfl, rfl⟩
  have hdebt : userTotalDebt { s with reentrancyLock := lock } user = userTotalDebt s user := by
    apply userTotalDebt_congr <;> rfl
  unfold checkWithdrawal totalCollateralValueOverride weightedThresholdOverride
  rw [hdebt, hmarket.sumValues _ _ fun _ => rfl, hmarket.weighThresholds _ _ _ fun _ => rfl]
  rfl

/-- What a completed borrow checked, and where it leads. -/
theorem borrow_ok (h : borrow tok self env user token amount s = .ok s') :
    0 < amount ∧ checkBorrowCaps user token amount { s with reentrancyLock := true } = .ok () ∧
    ∃ s₁ rate tokens,
      accrueEach env user (getUserLoanIds s user) { s with reentrancyLock := true } = .ok s₁ ∧
      checkBorrowHealth env user amount s₁ = .ok () ∧
      I128.InRange (s₁.totalDebt.amount token + amount) ∧
      s' = { s₁ with
        loan := s₁.loan.set s₁.loanCounter
          (newLoan s₁.loanCounter user token amount rate env.timestamp)
        userLoanIds := s₁.userLoanIds.set user (getUserLoanIds s₁ user ++ [s₁.loanCounter])
        loanCounter := s₁.loanCounter + 1
        totalDebt := s₁.totalDebt.set token (s₁.totalDebt.amount token + amount)
        tokens, reentrancyLock := false } := by
  unfold borrow at h
  obtain ⟨-, h⟩ := requireAuth_bind.mp h
  obtain ⟨s₂, hinner, rfl⟩ := withGuard_ok (checkPaused_bind h)
  replace h := hinner
  unfold borrowInternal at h
  obtain ⟨hpos, h⟩ := panicIf_bind.mp h
  obtain ⟨⟨⟩, hcaps, h⟩ := bind_ok.mp h
  obtain ⟨s₁, haccrued, h⟩ := bind_ok.mp h
  obtain ⟨⟨⟩, hhealth, h⟩ := bind_ok.mp h
  obtain ⟨util, -, h⟩ := bind_ok.mp h
  obtain ⟨rate, -, h⟩ := bind_ok.mp h
  obtain ⟨-, h⟩ := U64.add_bind.mp h
  obtain ⟨hfits, h⟩ := I128.add_bind.mp h
  obtain ⟨tokens, -, h⟩ := (Token.pay_bind _).mp h
  cases h
  exact ⟨not_le.mp hpos, hcaps, s₁, rate, tokens, haccrued, hhealth, hfits, rfl⟩

/-- What a completed withdrawal checked, and where it leads. -/
theorem withdrawCollateral_ok (h : withdrawCollateral tok self env user token amount s = .ok s') :
    (env.authorized user = true ∧ s.paused = false) ∧
    0 < amount ∧ amount ≤ (getUserCollateral s user token).amount ∧
    checkWithdrawal env user token ((getUserCollateral s user token).amount - amount) s = .ok () ∧
    ∃ tokens, tok.transfer s.tokens token self user amount = some tokens ∧
      s' = withCollateral env.timestamp user token ((getUserCollateral s user token).amount - amount)
        (s.totalCollateral.amount token - amount) { s with tokens, reentrancyLock := false } := by
  unfold withdrawCollateral at h
  obtain ⟨hauth, h⟩ := requireAuth_bind.mp h
  obtain ⟨hpaused, h⟩ := panicIf_bind.mp h
  obtain ⟨s₁, hinner, rfl⟩ := withGuard_ok h
  replace h := hinner
  unfold withdrawInternal at h
  obtain ⟨hpos, h⟩ := panicIf_bind.mp h
  obtain ⟨henough, h⟩ := panicIf_bind.mp h
  obtain ⟨-, h⟩ := I128.sub_bind.mp h
  obtain ⟨⟨⟩, hcheck, h⟩ := bind_ok.mp h
  obtain ⟨tokens, hpaid, h⟩ := (Token.pay_bind _).mp h
  obtain ⟨-, h⟩ := I128.sub_bind.mp h
  cases h
  exact ⟨⟨hauth, by simpa using hpaused⟩, not_le.mp hpos, not_lt.mp henough,
    (checkWithdrawal_locked true ..).symm.trans hcheck, tokens, hpaid, rfl⟩

theorem withCollateral_amount (hr : Recorded s) (now : ℕ) (amount total : ℤ) (t : Address) :
    (getUserCollateral (withCollateral now user token amount total s) user t).amount =
      if t = token then amount else (getUserCollateral s user t).amount := by
  have hkey := hr.key user token
  unfold withCollateral setTotalCollateralForType setUserCollateral
  unfold getUserCollateral at hkey ⊢
  simp only [hkey, Store.get?_set]
  by_cases ht : t = token
  · simp [ht]
  · simp [ht]

/-- A liquidation that completes found the stored position below the threshold. -/
theorem liquidate_unhealthy {liquidator borrower : Address} {loanId : ℕ} {debtToCover : ℤ}
    (h : liquidate tok self env liquidator borrower loanId debtToCover s = .ok s') :
    ∃ hf, calcUserHealth env s borrower = .ok hf ∧
      hf.healthFactorBps < s.protocolParams.liqHealthThresholdBps := by
  unfold liquidate at h
  obtain ⟨-, h⟩ := requireAuth_bind.mp h
  obtain ⟨s₂, hinner, rfl⟩ := withGuard_ok (checkPaused_bind h)
  replace h := hinner
  unfold liquidateInternal at h
  obtain ⟨-, h⟩ := panicIf_bind.mp h
  obtain ⟨loan, -, h⟩ := bind_ok.mp h
  obtain ⟨⟨loan', s₁⟩, haccrue, h⟩ := bind_ok.mp h
  obtain ⟨totals, -, hs₁⟩ := accrueLoan_ok haccrue
  obtain ⟨hf, hhealth, h⟩ := bind_ok.mp h
  obtain ⟨hbelow, -⟩ := panicIf_bind.mp h
  have hmarket : SameMarket env env s s₁ := by
    rw [hs₁]
    exact ⟨rfl, rfl, rfl, rfl⟩
  rw [hmarket.calcUserHealth (by rw [hs₁]) (by rw [hs₁]) (by rw [hs₁]) (by rw [hs₁])] at hhealth
  rw [hs₁] at hbelow
  exact ⟨hf, hhealth, not_le.mp hbelow⟩

end Calls

/-- The health factor reaches the threshold, and no liquidation of a loan of the user completes as
long as the oracle answers the same. -/
def Safe (tok : Token τ) (self : Address) (env : Ledger) (user : Address) (s : State τ) : Prop :=
  ∃ hf, calcUserHealth env s user = .ok hf ∧
    s.protocolParams.liqHealthThresholdBps ≤ hf.healthFactorBps ∧
    ∀ (env' : Ledger) (liquidator : Address) (loanId : ℕ) (debtToCover : ℤ) (s' : State τ),
      env'.getPrice = env.getPrice →
      liquidate tok self env' liquidator user loanId debtToCover s ≠ .ok s'

section Safety

variable {env : Ledger} {user token : Address} {amount : ℤ}

theorem safe_of_health {hf : HealthFactor} (hhealth : calcUserHealth env s user = .ok hf)
    (hle : s.protocolParams.liqHealthThresholdBps ≤ hf.healthFactorBps) :
    Safe tok self env user s := by
  refine ⟨hf, hhealth, hle, fun env' liquidator loanId debtToCover s' hprices hliquidated => ?_⟩
  obtain ⟨hf', hhealth', hbelow⟩ := liquidate_unhealthy hliquidated
  have hmarket : SameMarket env env' s s := ⟨hprices, rfl, rfl, rfl⟩
  rw [hmarket.calcUserHealth rfl rfl rfl rfl, hhealth] at hhealth'
  obtain rfl := Except.ok.inj hhealth'
  exact absurd hle (not_le.mpr hbelow)

/-- The check of a borrow is the health of the position with the new loan. -/
theorem checkBorrowHealth_safe (hb : Booked s) (hpos : 0 < amount)
    (h : checkBorrowHealth env user amount s = .ok ()) :
    I128.InRange (debtOf (ofUser user) s.loan + amount) ∧ ∃ value wt hf,
      totalCollateralValue env s user = .ok value ∧ 0 < value ∧
      weightedThreshold env s user = .ok wt ∧
      calculateHealthFactor value (debtOf (ofUser user) s.loan + amount) wt = .ok hf ∧
      s.protocolParams.liqHealthThresholdBps ≤ hf.healthFactorBps := by
  unfold checkBorrowHealth at h
  obtain ⟨debt, hdebt, h⟩ := bind_ok.mp h
  obtain ⟨-, rfl⟩ := (userTotalDebt_iff hb).mp hdebt
  obtain ⟨hfits, h⟩ := I128.add_bind.mp h
  obtain ⟨value, hvalue, h⟩ := bind_ok.mp h
  have hnonneg := debtOf_nonneg hb (ofUser user)
  rw [if_pos (by omega)] at h
  obtain ⟨hworth, h⟩ := panicIf_bind.mp h
  obtain ⟨wt, hwt, h⟩ := bind_ok.mp h
  obtain ⟨hf, hhf, h⟩ := bind_ok.mp h
  exact ⟨hfits, value, wt, hf, hvalue, not_le.mp hworth, hwt, hhf, not_lt.mp (panicIf_ok h)⟩

theorem borrow_safe (hs : Reachable tok self s)
    (h : borrow tok self env user token amount s = .ok s') : Safe tok self env user s' := by
  have hb' : Booked s' := booked_step hs.booked (borrow_effect h)
  obtain ⟨hpos, -, s₁, rate, tokens, haccrued, hhealth, -, hs'⟩ := borrow_ok h
  have hb₁ := booked_accrueEach haccrued (hs.booked.locked true)
  obtain ⟨hfits, value, wt, hf, hvalue, -, hwt, hhf, hle⟩ := checkBorrowHealth_safe hb₁ hpos hhealth
  have hdebt : debtOf (ofUser user) s'.loan = debtOf (ofUser user) s₁.loan + amount := by
    rw [hs', debtOf_lent hb₁ (by simp [ofUser, newLoan])]
    rfl
  have howes := (userTotalDebt_iff hb').mpr ⟨hdebt ▸ hfits, rfl⟩
  have hmarket : SameMarket env env s₁ s' := by
    rw [hs']
    exact ⟨rfl, rfl, rfl, rfl⟩
  obtain ⟨hvalue', hwt'⟩ := hmarket.position (by rw [hs']) (by rw [hs']) user
  have hparams : s'.protocolParams = s₁.protocolParams := by rw [hs']
  have hafter : calcUserHealth env s' user = .ok hf := by
    unfold calcUserHealth
    rw [howes, hvalue', hwt', hvalue, hwt, hdebt]
    exact hhf
  exact safe_of_health hafter (hparams ▸ hle)

/-- The loops over a position with one amount overridden compute what the loops over the position
after the withdrawal compute, whatever collateral tokens are listed. -/
theorem withdrawal_override (hr : Recorded s)
    (h : withdrawCollateral tok self env user token amount s = .ok s') (list : List Address) :
    totalCollateralValueOverride env { s with collateralTokens := list } user token
        ((getUserCollateral s user token).amount - amount) =
      totalCollateralValue env { s' with collateralTokens := list } user ∧
    weightedThresholdOverride env { s with collateralTokens := list } user token
        ((getUserCollateral s user token).amount - amount) =
      weightedThreshold env { s' with collateralTokens := list } user := by
  obtain ⟨-, -, -, -, tokens, -, hs'⟩ := withdrawCollateral_ok h
  have hr₁ : Recorded { s with tokens, reentrancyLock := false } :=
    ⟨hr.keyed, hr.nonneg, hr.totals, hr.bounded, rfl⟩
  have hamounts : ∀ t, (getUserCollateral s' user t).amount =
      if t = token then (getUserCollateral s user token).amount - amount
      else (getUserCollateral s user t).amount := by
    intro t
    rw [hs']
    exact withCollateral_amount hr₁ _ _ _ t
  have hmarket : SameMarket env env { s with collateralTokens := list }
      { s' with collateralTokens := list } := by
    rw [hs']
    exact ⟨rfl, rfl, rfl, rfl⟩
  exact ⟨(hmarket.sumValues list 0 hamounts).symm, (hmarket.weighThresholds list 0 0 hamounts).symm⟩

theorem withdraw_safe (hs : Reachable tok self s)
    (h : withdrawCollateral tok self env user token amount s = .ok s') {debt : ℤ}
    (howes : userTotalDebt s user = .ok debt) (hdebt : 0 < debt) : Safe tok self env user s' := by
  obtain ⟨hvalue', hwt'⟩ := withdrawal_override hs.recorded h s.collateralTokens
  obtain ⟨-, -, -, hcheck, tokens, -, hs'⟩ := withdrawCollateral_ok h
  unfold checkWithdrawal at hcheck
  rw [howes, ok_bind, if_pos hdebt] at hcheck
  obtain ⟨value, hvalue, hcheck⟩ := bind_ok.mp hcheck
  obtain ⟨wt, hwt, hcheck⟩ := bind_ok.mp hcheck
  obtain ⟨hf, hhf, hcheck⟩ := bind_ok.mp hcheck
  have hlist : s'.collateralTokens = s.collateralTokens := by
    rw [hs']
    rfl
  have hparams : s'.protocolParams = s.protocolParams := by
    rw [hs']
    rfl
  have howes' : userTotalDebt s' user = .ok debt := by
    rw [hs', ← howes]
    apply userTotalDebt_congr <;> rfl
  have hsame : { s' with collateralTokens := s.collateralTokens } = s' := by rw [← hlist]
  rw [hsame] at hvalue' hwt'
  have hafter : calcUserHealth env s' user = .ok hf := by
    unfold calcUserHealth
    rw [howes', ← hvalue', ← hwt', ok_bind]
    exact bind_ok.mpr ⟨value, hvalue, bind_ok.mpr ⟨wt, hwt, hhf⟩⟩
  exact safe_of_health hafter (hparams ▸ not_lt.mp (panicIf_ok hcheck))

/-- In every reachable state a borrow, or a withdrawal of a user with debt, leaves a health factor
that reaches the threshold, so that no liquidation of a loan of the user completes at these
prices, and the loops with an override compute what the loops compute after the withdrawal. -/
theorem operations_keep_safe (hs : Reachable tok self s) (env : Ledger) (user token : Address)
    (amount : ℤ) (s' : State τ) :
    (borrow tok self env user token amount s = .ok s' → Safe tok self env user s') ∧
    (withdrawCollateral tok self env user token amount s = .ok s' →
      (∀ debt, userTotalDebt s user = .ok debt → 0 < debt → Safe tok self env user s') ∧
      ∀ list : List Address,
        totalCollateralValueOverride env { s with collateralTokens := list } user token
            ((getUserCollateral s user token).amount - amount) =
          totalCollateralValue env { s' with collateralTokens := list } user ∧
        weightedThresholdOverride env { s with collateralTokens := list } user token
            ((getUserCollateral s user token).amount - amount) =
          weightedThreshold env { s' with collateralTokens := list } user) :=
  ⟨borrow_safe hs, fun h =>
    ⟨fun _ howes hdebt => withdraw_safe hs h howes hdebt, withdrawal_override hs.recorded h⟩⟩

end Safety

section Runs

open Sample

/-- Alice borrows against her gold, then takes some of it back. -/
theorem operations_keep_safe_alice :
    ∃ s s' : State Balances, Reachable asset contract s ∧
      borrow asset contract (env 0) alice usdc 10000 s = .ok s' ∧
      Safe asset contract (env 0) alice s' ∧
      ∃ s'', withdrawCollateral asset contract (env 0) alice gold 3000 s' = .ok s'' ∧
        Safe asset contract (env 0) alice s'' := by
  have h : After (fun s => After (fun s' => userTotalDebt s' alice = .ok 10000 ∧
        After (fun _ => True) (withdrawCollateral asset contract (env 0) alice gold 3000 s'))
      (borrow asset contract (env 0) alice usdc 10000 s))
      (execute (next asset contract) (calls opening) start) := by
    decide +kernel
  obtain ⟨s, hs, h⟩ := h.exists_ok
  obtain ⟨s', hs', howes, h⟩ := h.exists_ok
  obtain ⟨s'', hs'', -⟩ := h.exists_ok
  have hreach : Reachable asset contract s :=
    ⟨_, execute_steps (calls opening) (fun _ _ _ => trivial) hs⟩
  have hreach' : Reachable asset contract s' := by
    obtain ⟨tokens, hrun⟩ := hreach
    exact ⟨tokens, hrun.tail (a := .call (env 0) (.borrow alice usdc 10000)) trivial hs'⟩
  obtain ⟨hborrow, -⟩ := operations_keep_safe hreach (env 0) alice usdc 10000 s'
  obtain ⟨-, hwithdraw⟩ := operations_keep_safe hreach' (env 0) alice gold 3000 s''
  exact ⟨s, s', hreach, hs', hborrow hs', s'', hs'',
    (hwithdraw hs'').1 10000 howes (by decide)⟩

end Runs

end CollateralManagement
