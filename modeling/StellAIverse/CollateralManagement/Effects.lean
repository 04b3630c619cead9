import StellAIverse.CollateralManagement.Contract

/-!
# What each call does

Every completed invocation is one of the effects below, with the guards it
passed that the ledgers of debts and collateral depend on.
-/

namespace CollateralManagement

open Soroban

variable {τ : Type}

section Checks

variable {s s' : State τ} {who : Address} {β : Type} {r : β}

theorem assertAdmin_bind {f : Unit → Result β} (h : (assertAdmin s who >>= f) = .ok r) :
    s.admin = some who ∧ f () = .ok r := by
  obtain ⟨hadmin, h⟩ := panicIf_bind.mp h
  exact ⟨not_not.mp hadmin, h⟩

theorem checkPaused_bind {f : Unit → Result β} (h : (checkPaused s >>= f) = .ok r) :
    f () = .ok r :=
  (panicIf_bind.mp h).2

theorem withGuard_ok {f : State τ → Result (State τ)} (h : withGuard f s = .ok s') :
    ∃ s₁, f { s with reentrancyLock := true } = .ok s₁ ∧ s' = { s₁ with reentrancyLock := false } := by
  unfold withGuard at h
  obtain ⟨-, h⟩ := panicIf_bind.mp h
  obtain ⟨s₁, hs₁, h⟩ := bind_ok.mp h
  cases h
  exact ⟨s₁, hs₁, rfl⟩

theorem requireUserLoan_ok {id : ℕ} {loan : Loan} (h : requireUserLoan s who id = .ok loan) :
    id ∈ getUserLoanIds s who ∧ s.loan.get? id = some loan := by
  unfold requireUserLoan at h
  split at h
  · rename_i hmem
    exact ⟨hmem, expect_ok.mp h⟩
  · cases h

end Checks

/-- Neither repaid nor liquidated. -/
def Loan.Open (loan : Loan) : Prop := loan.isLiquidated = false ∧ loan.isRepaid = false

instance (loan : Loan) : Decidable loan.Open := inferInstanceAs (Decidable (_ ∧ _))

theorem requireOpenLoan_ok {s : State τ} {who : Address} {id : ℕ} {loan : Loan}
    (h : requireOpenLoan s who id = .ok loan) : s.loan.get? id = some loan ∧ loan.Open := by
  unfold requireOpenLoan at h
  obtain ⟨loan', hloan, h⟩ := bind_ok.mp h
  obtain ⟨hliquidated, h⟩ := panicIf_bind.mp h
  obtain ⟨hrepaid, h⟩ := panicIf_bind.mp h
  cases h
  exact ⟨(requireUserLoan_ok hloan).2, by simpa using hliquidated, by simpa using hrepaid⟩

/-- What an accrual does to a loan and to the totals: nothing, or interest is added to both. -/
inductive Accrued (now : ℕ) (loan : Loan) (totals : Store Address ℤ) : Loan → Store Address ℤ → Prop
  | idle : Accrued now loan totals loan totals
  | interest (n : ℤ) (isOpen : loan.Open) (positive : 0 < n) :
      Accrued now loan totals
        { loan with
          accruedInterest := loan.accruedInterest + n
          totalDebt := loan.principal + (loan.accruedInterest + n)
          lastAccrualUpdate := now }
        (totals.set loan.borrowToken (totals.amount loan.borrowToken + n))

theorem accrueLoan_ok {env : Ledger} {loan loan' : Loan} {s s' : State τ}
    (h : accrueLoan env loan s = .ok (loan', s')) :
    ∃ totalDebt, Accrued env.timestamp loan s.totalDebt loan' totalDebt ∧
      s' = { s with totalDebt } := by
  unfold accrueLoan at h
  split at h
  · cases h
    exact ⟨_, .idle, rfl⟩
  · rename_i hopen
    dsimp only at h
    split at h
    · cases h
      exact ⟨_, .idle, rfl⟩
    · obtain ⟨interest, -, h⟩ := bind_ok.mp h
      split at h
      · rename_i hpos
        obtain ⟨-, h⟩ := I128.add_bind.mp h
        obtain ⟨-, h⟩ := I128.add_bind.mp h
        obtain ⟨-, h⟩ := I128.add_bind.mp h
        cases h
        exact ⟨_, .interest interest ⟨by simp_all, by simp_all⟩ hpos, rfl⟩
      · cases h
        exact ⟨_, .idle, rfl⟩

theorem Accrued.loanId {now : ℕ} {loan loan' : Loan} {totals totals' : Store Address ℤ}
    (h : Accrued now loan totals loan' totals') : loan'.loanId = loan.loanId := by
  cases h <;> rfl

theorem Accrued.borrowToken {now : ℕ} {loan loan' : Loan} {totals totals' : Store Address ℤ}
    (h : Accrued now loan totals loan' totals') : loan'.borrowToken = loan.borrowToken := by
  cases h <;> rfl

theorem accrueOne_ok {env : Ledger} {borrower : Address} {id : ℕ} {s s' : State τ}
    (h : accrueOne env borrower id s = .ok s') :
    ∃ loan loan' totalDebt, s.loan.get? id = some loan ∧
      Accrued env.timestamp loan s.totalDebt loan' totalDebt ∧
      s' = { s with loan := s.loan.set loan.loanId loan', totalDebt } := by
  unfold accrueOne at h
  obtain ⟨loan, hloan, h⟩ := bind_ok.mp h
  obtain ⟨⟨loan', s₁⟩, haccrue, h⟩ := bind_ok.mp h
  obtain ⟨totalDebt, haccrued, rfl⟩ := accrueLoan_ok haccrue
  cases h
  refine ⟨loan, loan', totalDebt, (requireUserLoan_ok hloan).2, haccrued, ?_⟩
  unfold setLoan
  rw [haccrued.loanId]

/-- What one accrual preserves, the loop over the loans of a borrower preserves. -/
theorem accrueEach_preserves {P : State τ → Prop} {env : Ledger} {borrower : Address}
    (step : ∀ id s s', accrueOne env borrower id s = .ok s' → P s → P s') {ids : List ℕ}
    {s s' : State τ} (h : accrueEach env borrower ids s = .ok s') (hs : P s) : P s' := by
  induction ids generalizing s with
  | nil =>
    cases h
    exact hs
  | cons id rest ih =>
    obtain ⟨s₁, hone, hrest⟩ := bind_ok.mp h
    exact ih hrest (step id s s₁ hone hs)

/-- Accrual leaves everything but loans and debts alone. -/
theorem accrueEach_frame {env : Ledger} {borrower : Address} {ids : List ℕ} {s s' : State τ}
    (h : accrueEach env borrower ids s = .ok s') :
    ∃ loan totalDebt, s' = { s with loan, totalDebt } := by
  refine accrueEach_preserves (P := fun s' => ∃ loan totalDebt, s' = { s with loan, totalDebt }) ?_ h
    ⟨s.loan, s.totalDebt, rfl⟩
  rintro id s₁ s₂ hone ⟨loan, totalDebt, rfl⟩
  obtain ⟨-, loan', totalDebt', -, -, rfl⟩ := accrueOne_ok hone
  exact ⟨_, totalDebt', rfl⟩

def closeRepaid (loan : Loan) : Loan := { loan with isRepaid := true }

def closeLiquidated (loan : Loan) : Loan := { loan with isLiquidated := true }

/-- The loan after a payment, interest first. -/
def paidDown (close : Loan → Loan) (loan : Loan) (amount : ℤ) : Loan :=
  if loan.totalDebt - amount ≤ 0 then
    close { loan with totalDebt := 0, principal := 0, accruedInterest := 0 }
  else
    { loan with
      accruedInterest := loan.accruedInterest - min amount loan.accruedInterest
      principal := loan.principal - (amount - min amount loan.accruedInterest)
      totalDebt := loan.totalDebt - amount }

theorem payDown_ok {close : Loan → Loan} {loan loan' : Loan} {amount : ℤ}
    (h : payDown close loan amount = .ok loan') : loan' = paidDown close loan amount := by
  unfold payDown at h
  obtain ⟨-, h⟩ := I128.sub_bind.mp h
  obtain ⟨-, h⟩ := I128.sub_bind.mp h
  obtain ⟨-, h⟩ := I128.sub_bind.mp h
  obtain ⟨-, h⟩ := I128.sub_bind.mp h
  cases h
  rfl

/-- A payment does not change what kind of loan it is. -/
theorem paidDown_fixed {close : Loan → Loan} (hclose : close = closeRepaid ∨ close = closeLiquidated)
    (loan : Loan) (amount : ℤ) :
    (paidDown close loan amount).loanId = loan.loanId ∧
      (paidDown close loan amount).borrower = loan.borrower ∧
      (paidDown close loan amount).borrowToken = loan.borrowToken := by
  unfold paidDown
  obtain rfl | rfl := hclose
  · split <;> exact ⟨rfl, rfl, rfl⟩
  · split <;> exact ⟨rfl, rfl, rfl⟩

def newLoan (id : ℕ) (user token : Address) (amount : ℤ) (rate now : ℕ) : Loan :=
  ⟨id, user, token, amount, 0, amount, rate, now, now, false, false⟩

/-- The collateral of a user and the total of its token, rewritten. -/
def withCollateral (now : ℕ) (user token : Address) (amount total : ℤ) (s : State τ) : State τ :=
  setTotalCollateralForType token total
    (setUserCollateral { getUserCollateral s user token with amount, lastUpdated := now } s)

def Op.Configures : Op → Prop
  | .registerCollateralType .. | .updateCollateralType .. | .deactivateCollateralType ..
  | .reactivateCollateralType .. | .setProtocolParameters .. | .setPrice .. | .pause ..
  | .unpause .. => True
  | _ => False

inductive Effect (tok : Token τ) (self : Address) (s : State τ) : Action τ → State τ → Prop
  | transfers (tokens : τ) : Effect tok self s (.transfers tokens) { s with tokens }
  | initializeContract (env : Ledger) (admin oracle : Address) (treasury : Option Address)
      (fresh : s.initialized = false) :
      Effect tok self s (.call env (.initializeContract admin oracle treasury))
        { s with
          admin := some admin, oracle := some oracle, treasury := treasury.or s.treasury
          initialized := true, paused := false, reentrancyLock := false, loanCounter := 0 }
  | configure (env : Ledger) (op : Op) (admin : Address)
      (collateralType : Store Address CollateralTypeConfig) (collateralTokens : List Address)
      (protocolParams : ProtocolParams) (priceCache : Store String ℤ) (paused : Bool)
      (configures : op.Configures) (known : s.admin = some admin) :
      Effect tok self s (.call env op)
        { s with collateralType, collateralTokens, protocolParams, priceCache, paused }
  | depositCollateral (env : Ledger) (user token : Address) (amount : ℤ) (tokens : τ)
      (positive : 0 < amount)
      (paid : tok.transfer s.tokens token user self amount = some tokens)
      (fits : s.totalCollateral.amount token + amount ≤ I128.max) :
      Effect tok self s (.call env (.depositCollateral user token amount))
        (withCollateral env.timestamp user token ((getUserCollateral s user token).amount + amount)
          (s.totalCollateral.amount token + amount) { s with tokens })
  | withdrawCollateral (env : Ledger) (user token : Address) (amount : ℤ) (tokens : τ)
      (positive : 0 < amount) (enough : amount ≤ (getUserCollateral s user token).amount)
      (paid : tok.transfer s.tokens token self user amount = some tokens) :
      Effect tok self s (.call env (.withdrawCollateral user token amount))
        (withCollateral env.timestamp user token ((getUserCollateral s user token).amount - amount)
          (s.totalCollateral.amount token - amount) { s with tokens, reentrancyLock := false })
  | borrow (env : Ledger) (user token : Address) (amount : ℤ) (s₁ : State τ) (debt : ℤ) (rate : ℕ)
      (tokens : τ) (positive : 0 < amount)
      (accrued : accrueEach env user (getUserLoanIds s user) { s with reentrancyLock := true } =
        .ok s₁)
      (owes : userTotalDebt s₁ user = .ok debt)
      (backed : 0 < debt + amount → s₁.collateralTokens ≠ [])
      (paid : tok.transfer s₁.tokens token self user amount = some tokens) :
      Effect tok self s (.call env (.borrow user token amount))
        { s₁ with
          loan := s₁.loan.set s₁.loanCounter
            (newLoan s₁.loanCounter user token amount rate env.timestamp)
          userLoanIds := s₁.userLoanIds.set user (getUserLoanIds s₁ user ++ [s₁.loanCounter])
          loanCounter := s₁.loanCounter + 1
          totalDebt := s₁.totalDebt.set token (s₁.totalDebt.amount token + amount)
          tokens, reentrancyLock := false }
  | repayLoan (env : Ledger) (user : Address) (loanId : ℕ) (amount : ℤ) (loan loan' : Loan)
      (totals : Store Address ℤ) (tokens : τ) (positive : 0 < amount)
      (found : s.loan.get? loanId = some loan) (isOpen : loan.Open)
      (accrued : Accrued env.timestamp loan s.totalDebt loan' totals)
      (within : amount ≤ loan'.totalDebt)
      (paid : tok.transfer s.tokens loan.borrowToken user self amount = some tokens) :
      Effect tok self s (.call env (.repayLoan user loanId amount))
        { s with
          loan := s.loan.set loan.loanId (paidDown closeRepaid loan' amount)
          totalDebt := totals.set loan.borrowToken (totals.amount loan.borrowToken - amount)
          tokens, reentrancyLock := false }
  | liquidate (env : Ledger) (liquidator borrower : Address) (loanId : ℕ) (debtToCover : ℤ)
      (loan loan' : Loan) (totals : Store Address ℤ) (collToken : Address) (seized : ℤ)
      (tokens₁ tokens : τ) (positive : 0 < debtToCover)
      (found : s.loan.get? loanId = some loan) (isOpen : loan.Open)
      (accrued : Accrued env.timestamp loan s.totalDebt loan' totals) (nonneg : 0 ≤ seized)
      (enough : seized ≤ (getUserCollateral s borrower collToken).amount)
      (covered : tok.transfer s.tokens loan.borrowToken liquidator self
        (min debtToCover loan'.totalDebt) = some tokens₁)
      (seizes : tok.transfer tokens₁ collToken self liquidator seized = some tokens) :
      Effect tok self s (.call env (.liquidate liquidator borrower loanId debtToCover))
        (withCollateral env.timestamp borrower collToken
          ((getUserCollateral s borrower collToken).amount - seized)
          (s.totalCollateral.amount collToken - seized)
          { s with
            loan := s.loan.set loan.loanId
              (paidDown closeLiquidated loan' (min debtToCover loan'.totalDebt))
            totalDebt := totals.set loan.borrowToken
              (totals.amount loan.borrowToken - min debtToCover loan'.totalDebt)
            tokens, reentrancyLock := false })
  | accrueInterest (env : Ledger) (borrower : Address) (loanId : ℕ) (s' : State τ)
      (accrued : accrueOne env borrower loanId s = .ok s') :
      Effect tok self s (.call env (.accrueInterest borrower loanId)) s'
  | accrueAllInterest (env : Ledger) (borrower : Address) (s' : State τ)
      (accrued : accrueEach env borrower (getUserLoanIds s borrower) s = .ok s') :
      Effect tok self s (.call env (.accrueAllInterest borrower)) s'

section Effects

variable {tok : Token τ} {self : Address} {env : Ledger} {s s' : State τ}

theorem initializeContract_effect {admin oracle : Address} {treasury : Option Address}
    (h : initializeContract env admin oracle treasury s = .ok s') :
    Effect tok self s (.call env (.initializeContract admin oracle treasury)) s' := by
  unfold initializeContract at h
  obtain ⟨hfresh, h⟩ := panicIf_bind.mp h
  obtain ⟨-, h⟩ := requireAuth_bind.mp h
  cases h
  exact .initializeContract env admin oracle treasury (by simpa using hfresh)

theorem registerCollateralType_effect {admin token : Address} {oracleFeed : String}
    {ltvBps liqThresholdBps liqBonusBps : ℕ} {collateralCap priceScale : ℤ}
    (h : registerCollateralType env admin token oracleFeed ltvBps liqThresholdBps liqBonusBps
      collateralCap priceScale s = .ok s') :
    Effect tok self s (.call env (.registerCollateralType admin token oracleFeed ltvBps
      liqThresholdBps liqBonusBps collateralCap priceScale)) s' := by
  unfold registerCollateralType at h
  obtain ⟨-, h⟩ := requireAuth_bind.mp h
  obtain ⟨hadmin, h⟩ := assertAdmin_bind h
  have h := checkPaused_bind h
  obtain ⟨-, h⟩ := panicIf_bind.mp h
  obtain ⟨⟨⟩, -, h⟩ := bind_ok.mp h
  obtain ⟨-, h⟩ := panicIf_bind.mp h
  cases h
  exact .configure env _ admin _ _ _ _ _ trivial hadmin

theorem updateCollateralType_effect {admin token : Address}
    {ltvBps liqThresholdBps liqBonusBps : ℕ} {collateralCap : ℤ}
    (h : updateCollateralType env admin token ltvBps liqThresholdBps liqBonusBps collateralCap s =
      .ok s') :
    Effect tok self s (.call env (.updateCollateralType admin token ltvBps liqThresholdBps
      liqBonusBps collateralCap)) s' := by
  unfold updateCollateralType at h
  obtain ⟨-, h⟩ := requireAuth_bind.mp h
  obtain ⟨hadmin, h⟩ := assertAdmin_bind h
  have h := checkPaused_bind h
  obtain ⟨config, -, h⟩ := expect_bind.mp h
  obtain ⟨⟨⟩, -, h⟩ := bind_ok.mp h
  cases h
  exact .configure env _ admin _ _ _ _ _ trivial hadmin

theorem setCollateralActive_effect {isActive : Bool} {admin token : Address} {op : Op}
    (hop : op.Configures) (h : setCollateralActive isActive env admin token s = .ok s') :
    Effect tok self s (.call env op) s' := by
  unfold setCollateralActive at h
  obtain ⟨-, h⟩ := requireAuth_bind.mp h
  obtain ⟨hadmin, h⟩ := assertAdmin_bind h
  obtain ⟨config, -, h⟩ := expect_bind.mp h
  cases h
  exact .configure env op admin _ _ _ _ _ hop hadmin

theorem setProtocolParameters_effect {admin : Address} {params : ProtocolParams}
    (h : setProtocolParameters env admin params s = .ok s') :
    Effect tok self s (.call env (.setProtocolParameters admin params)) s' := by
  unfold setProtocolParameters at h
  obtain ⟨-, h⟩ := requireAuth_bind.mp h
  obtain ⟨hadmin, h⟩ := assertAdmin_bind h
  cases h
  exact .configure env _ admin _ _ _ _ _ trivial hadmin

theorem setPrice_effect {admin : Address} {feedId : String} {price : ℤ}
    (h : setPrice env admin feedId price s = .ok s') :
    Effect tok self s (.call env (.setPrice admin feedId price)) s' := by
  unfold setPrice at h
  obtain ⟨-, h⟩ := requireAuth_bind.mp h
  obtain ⟨hadmin, h⟩ := assertAdmin_bind h
  obtain ⟨-, h⟩ := panicIf_bind.mp h
  cases h
  exact .configure env _ admin _ _ _ _ _ trivial hadmin

theorem setPaused_effect {paused : Bool} {admin : Address} {op : Op} (hop : op.Configures)
    (h : setPaused paused env admin s = .ok s') : Effect tok self s (.call env op) s' := by
  unfold setPaused at h
  obtain ⟨-, h⟩ := requireAuth_bind.mp h
  obtain ⟨hadmin, h⟩ := assertAdmin_bind h
  cases h
  exact .configure env op admin _ _ _ _ _ hop hadmin

theorem depositCollateral_effect {user token : Address} {amount : ℤ}
    (h : depositCollateral tok self env user token amount s = .ok s') :
    Effect tok self s (.call env (.depositCollateral user token amount)) s' := by
  unfold depositCollateral at h
  obtain ⟨-, h⟩ := requireAuth_bind.mp h
  have h := checkPaused_bind h
  obtain ⟨hpos, h⟩ := panicIf_bind.mp h
  obtain ⟨config, -, h⟩ := expect_bind.mp h
  obtain ⟨-, h⟩ := panicIf_bind.mp h
  obtain ⟨⟨⟩, -, h⟩ := bind_ok.mp h
  obtain ⟨tokens, hpaid, h⟩ := (Token.pay_bind _).mp h
  obtain ⟨-, h⟩ := I128.add_bind.mp h
  obtain ⟨hfits, h⟩ := I128.add_bind.mp h
  cases h
  exact .depositCollateral env user token amount tokens (not_le.mp hpos) hpaid hfits.2

theorem withdrawCollateral_effect {user token : Address} {amount : ℤ}
    (h : withdrawCollateral tok self env user token amount s = .ok s') :
    Effect tok self s (.call env (.withdrawCollateral user token amount)) s' := by
  unfold withdrawCollateral at h
  obtain ⟨-, h⟩ := requireAuth_bind.mp h
  obtain ⟨s₁, hinner, rfl⟩ := withGuard_ok (checkPaused_bind h)
  replace h := hinner
  unfold withdrawInternal at h
  obtain ⟨hpos, h⟩ := panicIf_bind.mp h
  obtain ⟨henough, h⟩ := panicIf_bind.mp h
  obtain ⟨-, h⟩ := I128.sub_bind.mp h
  obtain ⟨⟨⟩, -, h⟩ := bind_ok.mp h
  obtain ⟨tokens, hpaid, h⟩ := (Token.pay_bind _).mp h
  obtain ⟨-, h⟩ := I128.sub_bind.mp h
  cases h
  exact .withdrawCollateral env user token amount tokens (not_le.mp hpos) (not_lt.mp henough) hpaid

/-- Without collateral tokens nothing has value. -/
theorem totalCollateralValue_nil {user : Address} {value : ℤ} (hnil : s.collateralTokens = [])
    (h : totalCollateralValue env s user = .ok value) : value = 0 := by
  unfold totalCollateralValue at h
  rw [hnil] at h
  cases h
  rfl

theorem checkBorrowHealth_ok {user : Address} {amount : ℤ} {u : Unit}
    (h : checkBorrowHealth env user amount s = .ok u) :
    ∃ debt, userTotalDebt s user = .ok debt ∧ (0 < debt + amount → s.collateralTokens ≠ []) := by
  unfold checkBorrowHealth at h
  obtain ⟨debt, hdebt, h⟩ := bind_ok.mp h
  obtain ⟨-, h⟩ := I128.add_bind.mp h
  obtain ⟨value, hvalue, h⟩ := bind_ok.mp h
  refine ⟨debt, hdebt, fun hpos hnil => ?_⟩
  rw [if_pos hpos] at h
  obtain ⟨hworth, -⟩ := panicIf_bind.mp h
  exact hworth (totalCollateralValue_nil hnil hvalue).le

theorem borrow_effect {user token : Address} {amount : ℤ}
    (h : borrow tok self env user token amount s = .ok s') :
    Effect tok self s (.call env (.borrow user token amount)) s' := by
  unfold borrow at h
  obtain ⟨-, h⟩ := requireAuth_bind.mp h
  obtain ⟨s₂, hinner, rfl⟩ := withGuard_ok (checkPaused_bind h)
  replace h := hinner
  unfold borrowInternal at h
  obtain ⟨hpos, h⟩ := panicIf_bind.mp h
  obtain ⟨⟨⟩, -, h⟩ := bind_ok.mp h
  obtain ⟨s₁, haccrued, h⟩ := bind_ok.mp h
  obtain ⟨⟨⟩, hhealth, h⟩ := bind_ok.mp h
  obtain ⟨debt, howes, hbacked⟩ := checkBorrowHealth_ok hhealth
  obtain ⟨util, -, h⟩ := bind_ok.mp h
  obtain ⟨rate, -, h⟩ := bind_ok.mp h
  obtain ⟨-, h⟩ := U64.add_bind.mp h
  obtain ⟨-, h⟩ := I128.add_bind.mp h
  obtain ⟨tokens, hpaid, h⟩ := (Token.pay_bind _).mp h
  cases h
  exact .borrow env user token amount s₁ debt rate tokens (not_le.mp hpos) haccrued howes hbacked
    hpaid

theorem repayLoan_effect {user : Address} {loanId : ℕ} {amount : ℤ}
    (h : repayLoan tok self env user loanId amount s = .ok s') :
    Effect tok self s (.call env (.repayLoan user loanId amount)) s' := by
  unfold repayLoan at h
  obtain ⟨-, h⟩ := requireAuth_bind.mp h
  obtain ⟨s₂, hinner, rfl⟩ := withGuard_ok (checkPaused_bind h)
  replace h := hinner
  unfold repayInternal at h
  obtain ⟨hpos, h⟩ := panicIf_bind.mp h
  obtain ⟨loan, hloan, h⟩ := bind_ok.mp h
  obtain ⟨hfound, hopen⟩ := requireOpenLoan_ok hloan
  obtain ⟨⟨loan', s₁⟩, haccrue, h⟩ := bind_ok.mp h
  obtain ⟨totals, haccrued, rfl⟩ := accrueLoan_ok haccrue
  obtain ⟨hwithin, h⟩ := panicIf_bind.mp h
  obtain ⟨tokens, hpaid, h⟩ := (Token.pay_bind _).mp h
  obtain ⟨loan'', hdown, h⟩ := bind_ok.mp h
  obtain rfl := payDown_ok hdown
  obtain ⟨-, h⟩ := I128.sub_bind.mp h
  cases h
  obtain ⟨hid, -, htoken⟩ := paidDown_fixed (.inl rfl) loan' amount
  rw [haccrued.borrowToken] at hpaid htoken
  rw [haccrued.loanId] at hid
  have heffect : Effect tok self s (.call env (.repayLoan user loanId amount)) _ :=
    .repayLoan env user loanId amount loan loan' totals tokens (not_le.mp hpos) hfound hopen haccrued
      (not_lt.mp hwithin) hpaid
  rw [← hid, ← htoken] at heffect
  exact heffect

theorem liquidate_effect {liquidator borrower : Address} {loanId : ℕ} {debtToCover : ℤ}
    (h : liquidate tok self env liquidator borrower loanId debtToCover s = .ok s') :
    Effect tok self s (.call env (.liquidate liquidator borrower loanId debtToCover)) s' := by
  unfold liquidate at h
  obtain ⟨-, h⟩ := requireAuth_bind.mp h
  obtain ⟨s₂, hinner, rfl⟩ := withGuard_ok (checkPaused_bind h)
  replace h := hinner
  unfold liquidateInternal at h
  obtain ⟨hpos, h⟩ := panicIf_bind.mp h
  obtain ⟨loan, hloan, h⟩ := bind_ok.mp h
  obtain ⟨hfound, hopen⟩ := requireOpenLoan_ok hloan
  obtain ⟨⟨loan', s₁⟩, haccrue, h⟩ := bind_ok.mp h
  obtain ⟨totals, haccrued, rfl⟩ := accrueLoan_ok haccrue
  obtain ⟨hf, -, h⟩ := bind_ok.mp h
  obtain ⟨-, h⟩ := panicIf_bind.mp h
  obtain ⟨best, -, h⟩ := bind_ok.mp h
  obtain ⟨⟨collToken, collConfig⟩, -, h⟩ := expect_bind.mp h
  obtain ⟨price, -, h⟩ := bind_ok.mp h
  obtain ⟨⟨seized, bonus⟩, hseizure, h⟩ := bind_ok.mp h
  obtain ⟨henough, h⟩ := panicIf_bind.mp h
  obtain ⟨tokens₁, hcovered, h⟩ := (Token.pay_bind _).mp h
  obtain ⟨tokens, hseizes, h⟩ := (Token.pay_bind _).mp h
  obtain ⟨-, h⟩ := I128.sub_bind.mp h
  obtain ⟨-, h⟩ := I128.sub_bind.mp h
  obtain ⟨loan'', hdown, h⟩ := bind_ok.mp h
  obtain rfl := payDown_ok hdown
  obtain ⟨-, h⟩ := I128.sub_bind.mp h
  cases h
  obtain ⟨hid, -, htoken⟩ := paidDown_fixed (.inr rfl) loan' (min debtToCover loan'.totalDebt)
  rw [haccrued.borrowToken] at hcovered htoken
  rw [haccrued.loanId] at hid
  have heffect : Effect tok self s (.call env (.liquidate liquidator borrower loanId debtToCover)) _ :=
    .liquidate env liquidator borrower loanId debtToCover loan loan' totals collToken seized tokens₁
      tokens (not_le.mp hpos) hfound hopen haccrued (calculateLiquidationSeizure_nonneg hseizure)
      (not_lt.mp henough) hcovered hseizes
  rw [← hid, ← htoken] at heffect
  exact heffect

theorem next_effect {a : Action τ} (h : next tok self a s = .ok s') : Effect tok self s a s' := by
  cases a with
  | transfers tokens =>
    cases h
    exact .transfers tokens
  | call env op =>
    cases op with
    | initializeContract admin oracle treasury => exact initializeContract_effect h
    | registerCollateralType admin token feed ltv threshold bonus cap scale =>
      exact registerCollateralType_effect h
    | updateCollateralType admin token ltv threshold bonus cap => exact updateCollateralType_effect h
    | deactivateCollateralType admin token => exact setCollateralActive_effect trivial h
    | reactivateCollateralType admin token => exact setCollateralActive_effect trivial h
    | setProtocolParameters admin params => exact setProtocolParameters_effect h
    | setPrice admin feedId price => exact setPrice_effect h
    | pause admin => exact setPaused_effect trivial h
    | unpause admin => exact setPaused_effect trivial h
    | depositCollateral user token amount => exact depositCollateral_effect h
    | withdrawCollateral user token amount => exact withdrawCollateral_effect h
    | borrow user token amount => exact borrow_effect h
    | repayLoan user loanId amount => exact repayLoan_effect h
    | liquidate liquidator borrower loanId debtToCover => exact liquidate_effect h
    | accrueInterest borrower loanId => exact .accrueInterest env borrower loanId s' h
    | accrueAllInterest borrower => exact .accrueAllInterest env borrower s' h

end Effects

end CollateralManagement
