import StellAIverse.CollateralManagement.Positions

/-!
# The limits of a borrow

The caps are checked against the debts as they are stored, before the interest of the
user's loans is added to them. The loan-to-value of a collateral type is stored and
never read: a borrow is only held to the liquidation threshold.
-/

namespace CollateralManagement

open Soroban

variable {τ : Type} {tok : Token τ} {self : Address} {s s' : State τ} {user token : Address}
  {amount : ℤ}

/-- The caps hold for the debts of a token and of a user in it. -/
def WithinCaps (params : ProtocolParams) (total debt : ℤ) : Prop :=
  (0 < params.debtCeiling → total ≤ params.debtCeiling) ∧
    (0 < params.maxBorrowPerUser → debt ≤ params.maxBorrowPerUser)

instance (params : ProtocolParams) (total debt : ℤ) : Decidable (WithinCaps params total debt) :=
  inferInstanceAs (Decidable (_ ∧ _))

theorem checkBorrowCaps_ok (hb : Booked s) (h : checkBorrowCaps user token amount s = .ok ()) :
    WithinCaps s.protocolParams (s.totalDebt.amount token + amount)
      (debtOf (ofUserIn user token) s.loan + amount) := by
  unfold checkBorrowCaps at h
  refine ⟨fun hceiling => ?_, fun hcap => ?_⟩
  · -- The ceiling is checked last, whether or not there is a cap.
    rw [if_pos hceiling] at h
    split at h
    · obtain ⟨existing, -, h⟩ := bind_ok.mp h
      obtain ⟨-, h⟩ := I128.add_bind.mp h
      obtain ⟨-, h⟩ := panicIf_bind.mp h
      obtain ⟨-, h⟩ := I128.add_bind.mp h
      exact not_lt.mp (panicIf_ok h)
    · obtain ⟨-, h⟩ := I128.add_bind.mp h
      exact not_lt.mp (panicIf_ok h)
  · rw [if_pos hcap] at h
    obtain ⟨existing, hexisting, h⟩ := bind_ok.mp h
    obtain ⟨-, rfl⟩ := (userDebtForToken_iff hb).mp hexisting
    obtain ⟨-, h⟩ := I128.add_bind.mp h
    exact not_lt.mp (panicIf_bind.mp h).1

section Caps

variable {env : Ledger}

/-- What a borrow adds to the debts is its amount and the interest that was due. -/
theorem borrow_debts (hs : Reachable tok self s)
    (h : borrow tok self env user token amount s = .ok s') :
    s'.totalDebt.amount token = s.totalDebt.amount token +
        unbooked env.timestamp (ofUserIn user token) s.loan + amount ∧
      debtOf (ofUserIn user token) s'.loan = debtOf (ofUserIn user token) s.loan +
        unbooked env.timestamp (ofUserIn user token) s.loan + amount := by
  obtain ⟨-, -, s₁, rate, tokens, haccrued, -, -, hs'⟩ := borrow_ok h
  have hb := hs.booked.locked true
  have hb₁ := booked_accrueEach haccrued hb
  have htotal : owedIn s₁.loan token = owedIn s.loan token +
      unbooked env.timestamp (ofUserIn user token) s.loan :=
    owedIn_accrued (s := { s with reentrancyLock := true }) hb haccrued
  have hdebt : debtOf (ofUserIn user token) s₁.loan = debtOf (ofUserIn user token) s.loan +
      unbooked env.timestamp (ofUserIn user token) s.loan :=
    debtForToken_accrued (s := { s with reentrancyLock := true }) hb haccrued
  constructor
  · have htotal₁ := hb₁.totals token
    rw [htotal, ← hb.totals token] at htotal₁
    rw [hs', Store.amount_set, if_pos rfl, htotal₁]
  · rw [hs', debtOf_lent hb₁ (by simp [ofUserIn, newLoan]), hdebt]
    rfl

/-- In every reachable state a completed borrow respects the ceiling of the token and the cap of
the user exactly when they also leave room for the interest due on the loans of the user in the
token, which they do when none is due. -/
theorem borrow_caps (hs : Reachable tok self s)
    (h : borrow tok self env user token amount s = .ok s') :
    let due := unbooked env.timestamp (ofUserIn user token) s.loan
    let total := s.totalDebt.amount token
    let debt := debtOf (ofUserIn user token) s.loan
    (WithinCaps s'.protocolParams (s'.totalDebt.amount token)
        (debtOf (ofUserIn user token) s'.loan) ↔
      WithinCaps s.protocolParams (total + due + amount) (debt + due + amount)) ∧
    (due = 0 → WithinCaps s.protocolParams (total + due + amount) (debt + due + amount)) := by
  intro due total debt
  obtain ⟨htotal, hdebt⟩ := borrow_debts hs h
  obtain ⟨-, hcaps, s₁, rate, tokens, haccrued, -, -, hs'⟩ := borrow_ok h
  have hparams : s'.protocolParams = s.protocolParams := by
    obtain ⟨loan, totals, rfl⟩ := accrueEach_frame haccrued
    rw [hs']
  refine ⟨by rw [hparams, htotal, hdebt], fun hdue => ?_⟩
  have hwithin := checkBorrowCaps_ok (hs.booked.locked true) hcaps
  rw [hdue, add_zero, add_zero]
  exact hwithin

end Caps

section Runs

open Sample

/-- Alice has borrowed up to little below the caps. -/
def capped (cap : ℤ) : List (ℕ × Op) := opening ++ [
  (0, .setProtocolParameters admin
    { (deployed ()).protocolParams with debtCeiling := cap, maxBorrowPerUser := cap }),
  (0, .borrow alice usdc 5000)]

/-- A year later she borrows what the caps leave, and the interest of that year goes beyond them. -/
theorem borrow_caps_exceeded :
    ∃ s s' : State Balances, Reachable asset contract s ∧
      borrow asset contract (env 31536000) alice usdc 100 s = .ok s' ∧
      s'.totalDebt.amount usdc = 5200 ∧ debtOf (ofUserIn alice usdc) s'.loan = 5200 ∧
      ¬ s'.totalDebt.amount usdc ≤ s'.protocolParams.debtCeiling ∧
      ¬ WithinCaps s'.protocolParams (s'.totalDebt.amount usdc)
        (debtOf (ofUserIn alice usdc) s'.loan) := by
  have h : After (fun s => After (fun s' => s'.totalDebt.amount usdc = 5200 ∧
        debtOf (ofUserIn alice usdc) s'.loan = 5200 ∧
        ¬ s'.totalDebt.amount usdc ≤ s'.protocolParams.debtCeiling ∧
        ¬ WithinCaps s'.protocolParams (s'.totalDebt.amount usdc)
          (debtOf (ofUserIn alice usdc) s'.loan))
      (borrow asset contract (env 31536000) alice usdc 100 s))
      (execute (next asset contract) (calls (capped 5100)) start) := by
    decide +kernel
  obtain ⟨s, hs, h⟩ := h.exists_ok
  obtain ⟨s', hs', h⟩ := h.exists_ok
  exact ⟨s, s', ⟨_, execute_steps (calls (capped 5100)) (fun _ _ _ => trivial) hs⟩, hs', h⟩

/-- Caps that leave room for the interest as well are respected. -/
theorem borrow_caps_room :
    ∃ s s' : State Balances, Reachable asset contract s ∧
      borrow asset contract (env 31536000) alice usdc 100 s = .ok s' ∧
      unbooked 31536000 (ofUserIn alice usdc) s.loan = 100 ∧
      WithinCaps s'.protocolParams (s'.totalDebt.amount usdc)
        (debtOf (ofUserIn alice usdc) s'.loan) := by
  have h : After (fun s => s.protocolParams.debtCeiling = 5200 ∧
        s.protocolParams.maxBorrowPerUser = 5200 ∧ s.totalDebt.amount usdc = 5000 ∧
        debtOf (ofUserIn alice usdc) s.loan = 5000 ∧
        unbooked 31536000 (ofUserIn alice usdc) s.loan = 100 ∧
        After (fun _ => True) (borrow asset contract (env 31536000) alice usdc 100 s))
      (execute (next asset contract) (calls (capped 5200)) start) := by
    decide +kernel
  obtain ⟨s, hs, hceiling, hcap, htotal, hdebt, hdue, h⟩ := h.exists_ok
  obtain ⟨s', hs', -⟩ := h.exists_ok
  have hreach : Reachable asset contract s :=
    ⟨_, execute_steps (calls (capped 5200)) (fun _ _ _ => trivial) hs⟩
  refine ⟨s, s', hreach, hs', hdue, (borrow_caps hreach hs').1.mpr ?_⟩
  unfold WithinCaps
  rw [hceiling, hcap, htotal, hdebt, show (env 31536000).timestamp = 31536000 from rfl, hdue]
  decide

end Runs

/-- The loop that adds up what may be borrowed against the amounts, over the collateral types. -/
def sumPowers (env : Ledger) (s : State τ) (amountOf : Address → ℤ) : List Address → ℤ → Result ℤ
  | [], total => .ok total
  | token :: rest, total => do
    match ← collateralWorth env s token (amountOf token) with
    | some (cfg, value) =>
      let power ← calculateMaxBorrow value cfg.ltvBps
      let total ← I128.add total power
      sumPowers env s amountOf rest total
    | none => sumPowers env s amountOf rest total

/-- The borrowing power of a user by the loan-to-value of each collateral type. No entry point
computes it. -/
def borrowingPower (env : Ledger) (s : State τ) (user : Address) : Result ℤ :=
  sumPowers env s (fun token => (getUserCollateral s user token).amount) s.collateralTokens 0

section LoanToValue

variable {env : Ledger}

theorem calculateMaxBorrow_of_le {value : ℤ} {ltvBps thresholdBps : ℕ} (hvalue : 0 ≤ value)
    (hle : ltvBps ≤ thresholdBps) (hmax : thresholdBps ≤ maxLiqThresholdBps)
    (hweight : I128.InRange (value * thresholdBps)) :
    ∃ power, calculateMaxBorrow value ltvBps = .ok power ∧ 0 ≤ power ∧ power ≤ value := by
  have hltv : (ltvBps : ℤ) ≤ thresholdBps := by omega
  have hbound : (ltvBps : ℤ) ≤ 10000 := by
    unfold maxLiqThresholdBps at hmax
    omega
  have hproduct : 0 ≤ value * (ltvBps : ℤ) := mul_nonneg hvalue (Int.natCast_nonneg _)
  have hfits := hweight.of_le hproduct (mul_le_mul_of_nonneg_left hltv hvalue)
  have hnonneg : 0 ≤ (value * ltvBps).tdiv bpsDenominator := Int.tdiv_nonneg hproduct (by decide)
  have hlevalue : (value * ltvBps).tdiv bpsDenominator ≤ value := by
    have hmul := mul_le_mul_of_nonneg_left hbound hvalue
    have hfloor := I128.tdiv_mul_le hproduct (show 0 < bpsDenominator by decide)
    unfold bpsDenominator at hfloor ⊢
    omega
  refine ⟨_, ?_, hnonneg, hlevalue⟩
  unfold calculateMaxBorrow
  exact I128.mul_bind.mpr ⟨hfits, I128.div_ok.mpr ⟨by decide,
    hfits.of_le hnonneg (Int.tdiv_le_self _ hproduct), rfl⟩⟩

/-- Where the thresholds can be weighed, the borrowing power can be added up. -/
theorem sumPowers_of_weighed (hc : Configured s) {amountOf : Address → ℤ} {list : List Address}
    {weightedSum value power : ℤ} {wt : ℕ}
    (h : weighThresholds env s amountOf list weightedSum value = .ok wt) (hpower : 0 ≤ power)
    (hle : power ≤ value) : ∃ total, sumPowers env s amountOf list power = .ok total := by
  induction list generalizing weightedSum value power with
  | nil => exact ⟨power, rfl⟩
  | cons token rest ih =>
    unfold weighThresholds at h
    unfold sumPowers
    obtain ⟨worth, hworth, h⟩ := bind_ok.mp h
    rw [hworth, ok_bind]
    cases worth with
    | none => exact ih h hpower hle
    | some found =>
      obtain ⟨config, worth⟩ := found
      obtain ⟨hsum, h⟩ := I128.add_bind.mp h
      obtain ⟨hweight, h⟩ := I128.mul_bind.mp h
      obtain ⟨-, h⟩ := I128.add_bind.mp h
      have hvalid := hc.valid token config (collateralWorth_some hworth).2.1
      obtain ⟨part, hpart, hnonneg, hworthy⟩ := calculateMaxBorrow_of_le (hc.worth_nonneg hworth)
        hvalid.ltv hvalid.threshold hweight
      obtain ⟨total, htotal⟩ := ih h (add_nonneg hpower hnonneg) (add_le_add hle hworthy)
      have hfits : I128.InRange (power + part) := hsum.of_le (by omega) (by omega)
      exact ⟨total, bind_ok.mpr ⟨part, hpart, I128.add_bind.mpr ⟨hfits, htotal⟩⟩⟩

theorem SameMarket.borrowingPower {env' : Ledger} (h : SameMarket env env' s s')
    (hlist : s'.collateralTokens = s.collateralTokens)
    (hcollateral : s'.userCollateral = s.userCollateral) (user : Address) :
    borrowingPower env' s' user = borrowingPower env s user := by
  have hpowers : ∀ (amountOf : Address → ℤ) (list : List Address) (total : ℤ),
      sumPowers env' s' amountOf list total = sumPowers env s amountOf list total := by
    intro amountOf list
    induction list with
    | nil => intro total; rfl
    | cons token rest ih =>
      intro total
      unfold sumPowers
      simp only [h.collateralWorth, ih]
  unfold CollateralManagement.borrowingPower getUserCollateral
  rw [hlist, hcollateral, hpowers]

/-- In every reachable state, after a completed borrow both the debt and the borrowing power of the
user can be computed, and the debt is within the power exactly when the amount is no more than
what the power leaves beside the debt with the interest due on it. -/
theorem borrow_ltv (hs : Reachable tok self s)
    (h : borrow tok self env user token amount s = .ok s') :
    ∃ power debt, borrowingPower env s user = .ok power ∧ borrowingPower env s' user = .ok power ∧
      userTotalDebt s' user = .ok debt ∧
      (debt ≤ power ↔ amount ≤ power -
        (debtOf (ofUser user) s.loan + unbooked env.timestamp (ofUser user) s.loan)) := by
  have hb' : Booked s' := booked_step hs.booked (borrow_effect h)
  obtain ⟨hpos, -, s₁, rate, tokens, haccrued, hhealth, -, hs'⟩ := borrow_ok h
  have hb := hs.booked.locked true
  have hb₁ := booked_accrueEach haccrued hb
  obtain ⟨hfits, value, wt, hf, -, -, hwt, -⟩ := checkBorrowHealth_safe hb₁ hpos hhealth
  obtain ⟨loan, totals, hs₁⟩ := accrueEach_frame haccrued
  have hc₁ : Configured s₁ := by
    rw [hs₁]
    exact ⟨hs.configured.valid, hs.configured.priced⟩
  obtain ⟨power, hpower⟩ := sumPowers_of_weighed hc₁ hwt le_rfl le_rfl
  have hmarket : SameMarket env env s₁ s' := by
    rw [hs']
    exact ⟨rfl, rfl, rfl, rfl⟩
  have hmarket₀ : SameMarket env env s s₁ := by
    rw [hs₁]
    exact ⟨rfl, rfl, rfl, rfl⟩
  have hbefore := hmarket₀.borrowingPower (by rw [hs₁]) (by rw [hs₁]) user
  have hafter := hmarket.borrowingPower (by rw [hs']) (by rw [hs']) user
  have hdebt : debtOf (ofUser user) s'.loan = debtOf (ofUser user) s₁.loan + amount := by
    rw [hs', debtOf_lent hb₁ (by simp [ofUser, newLoan])]
    rfl
  refine ⟨power, _, hbefore.symm.trans hpower, hafter.trans hpower,
    (userTotalDebt_iff hb').mpr ⟨hdebt ▸ hfits, rfl⟩, ?_⟩
  have haccrual : debtOf (ofUser user) s₁.loan =
      debtOf (ofUser user) s.loan + unbooked env.timestamp (ofUser user) s.loan :=
    totalDebt_accrued (s := { s with reentrancyLock := true }) hb haccrued
  rw [hdebt, haccrual]
  exact le_sub_iff_add_le'.symm

end LoanToValue

section Runs

open Sample

/-- Gold at one per unit. -/
def priced : List (ℕ × Op) := opening ++ [(0, .setPrice admin "GOLD" 10)]

/-- Alice borrows between what the loan-to-value and what the threshold allow. -/
theorem borrow_ltv_exceeded :
    ∃ s s' : State Balances, Reachable asset contract s ∧
      borrow asset contract (env 0) alice usdc 7800 s = .ok s' ∧
      ∃ power debt, borrowingPower (env 0) s' alice = .ok power ∧
        userTotalDebt s' alice = .ok debt ∧ ¬ debt ≤ power := by
  have h : After (fun s => After (fun s' => borrowingPower (env 0) s' alice = .ok 7500 ∧
        userTotalDebt s' alice = .ok 7800) (borrow asset contract (env 0) alice usdc 7800 s))
      (execute (next asset contract) (calls priced) start) := by
    decide +kernel
  obtain ⟨s, hs, h⟩ := h.exists_ok
  obtain ⟨s', hs', h⟩ := h.exists_ok
  exact ⟨s, s', ⟨_, execute_steps (calls priced) (fun _ _ _ => trivial) hs⟩, hs', 7500, 7800, h.1,
    h.2, by decide⟩

/-- Within the loan-to-value the debt stays within the power. -/
theorem borrow_ltv_within :
    ∃ s s' : State Balances, Reachable asset contract s ∧
      borrow asset contract (env 0) alice usdc 7500 s = .ok s' ∧
      ∃ power debt, borrowingPower (env 0) s' alice = .ok power ∧
        userTotalDebt s' alice = .ok debt ∧ debt ≤ power := by
  have h : After (fun s => borrowingPower (env 0) s alice = .ok 7500 ∧
        debtOf (ofUser alice) s.loan + unbooked 0 (ofUser alice) s.loan = 0 ∧
        After (fun _ => True) (borrow asset contract (env 0) alice usdc 7500 s))
      (execute (next asset contract) (calls priced) start) := by
    decide +kernel
  obtain ⟨s, hs, hpower, hnone, h⟩ := h.exists_ok
  obtain ⟨s', hs', -⟩ := h.exists_ok
  have hreach : Reachable asset contract s :=
    ⟨_, execute_steps (calls priced) (fun _ _ _ => trivial) hs⟩
  obtain ⟨power, debt, hbefore, hafter, howes, hiff⟩ := borrow_ltv hreach hs'
  obtain rfl := Except.ok.inj (hpower.symm.trans hbefore)
  refine ⟨s, s', hreach, hs', 7500, debt, hafter, howes, hiff.mpr ?_⟩
  rw [show (env 0).timestamp = 0 from rfl, hnone]
  decide

end Runs

end CollateralManagement
