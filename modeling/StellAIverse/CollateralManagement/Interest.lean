import StellAIverse.CollateralManagement.Debt
import StellAIverse.Soroban.Accrual

/-!
# Interest over time

The interest of an open loan is due from the last accrual that added something. An
accrual at a later time brings the loan up to that time, and again has no effect.
-/

namespace CollateralManagement

open Soroban

variable {τ : Type} {s s' : State τ}

/-- Interest accrues in units of this many basis points times seconds. -/
def interestUnit : ℤ := bpsDenominator * secondsPerYear

theorem interestUnit_pos : 0 < interestUnit := by decide

/-- The interest that an accrual at this time adds to a loan. -/
def Loan.due (now : ℕ) (loan : Loan) : ℤ :=
  if loan.Open ∧ 0 < loan.principal ∧ loan.lastAccrualUpdate < now then
    Accrual.due (loan.principal * loan.interestRateBps) interestUnit (now - loan.lastAccrualUpdate)
  else 0

/-- The loan after an accrual at this time. -/
def Loan.upTo (now : ℕ) (loan : Loan) : Loan :=
  if 0 < loan.due now then
    { loan with
      accruedInterest := loan.accruedInterest + loan.due now
      totalDebt := loan.principal + (loan.accruedInterest + loan.due now)
      lastAccrualUpdate := now }
  else loan

section Loans

variable {now : ℕ} {loan loan' : Loan}

theorem Loan.Open.not_closed (h : loan.Open) : ¬ (loan.isLiquidated = true ∨ loan.isRepaid = true) := by
  simp [h.1, h.2]

theorem Loan.open_of_not (h : ¬ (loan.isLiquidated = true ∨ loan.isRepaid = true)) : loan.Open := by
  rw [not_or, Bool.not_eq_true, Bool.not_eq_true] at h
  exact h

theorem Loan.due_nonneg (now : ℕ) (loan : Loan) : 0 ≤ loan.due now := by
  unfold Loan.due
  split
  · rename_i h
    obtain ⟨-, hprincipal, hlast⟩ := h
    exact Accrual.due_nonneg interestUnit_pos (mul_nonneg hprincipal.le (Int.natCast_nonneg _))
      (by omega)
  · exact le_rfl

theorem Loan.due_of_not_open (h : ¬ loan.Open) : loan.due now = 0 := if_neg fun hc => h hc.1

theorem Loan.due_of_le (h : now ≤ loan.lastAccrualUpdate) : loan.due now = 0 :=
  if_neg fun hc => absurd hc.2.2 (not_lt.mpr h)

theorem Loan.upTo_of_due (h : loan.due now = 0) : loan.upTo now = loan :=
  if_neg (by rw [h]; exact lt_irrefl 0)

/-- The fields that no accrual changes. -/
theorem Loan.upTo_fixed (now : ℕ) (loan : Loan) :
    (loan.upTo now).loanId = loan.loanId ∧ (loan.upTo now).borrower = loan.borrower ∧
      (loan.upTo now).borrowToken = loan.borrowToken ∧
      (loan.upTo now).principal = loan.principal ∧
      (loan.upTo now).interestRateBps = loan.interestRateBps := by
  unfold Loan.upTo
  split <;> exact ⟨rfl, rfl, rfl, rfl, rfl⟩

theorem Loan.upTo_open (now : ℕ) (loan : Loan) : (loan.upTo now).Open ↔ loan.Open := by
  unfold Loan.upTo
  split <;> exact Iff.rfl

theorem Loan.upTo_accruedInterest (now : ℕ) (loan : Loan) :
    (loan.upTo now).accruedInterest = loan.accruedInterest + loan.due now := by
  unfold Loan.upTo
  split
  · rfl
  · have := loan.due_nonneg now
    omega

/-- Interest was booked up to now, or there was none to book. -/
theorem Loan.due_upTo (now : ℕ) (loan : Loan) : (loan.upTo now).due now = 0 := by
  by_cases h : 0 < loan.due now
  · unfold Loan.upTo
    rw [if_pos h]
    exact Loan.due_of_le le_rfl
  · have hzero : loan.due now = 0 := le_antisymm (not_lt.mp h) (loan.due_nonneg now)
    rw [Loan.upTo_of_due hzero, hzero]

theorem Loan.upTo_upTo (now : ℕ) (loan : Loan) : (loan.upTo now).upTo now = loan.upTo now :=
  Loan.upTo_of_due (Loan.due_upTo now loan)

/-- What is owed grows by the interest that was due. -/
theorem Loan.Sound.owed_upTo (h : loan.Sound) (now : ℕ) :
    (loan.upTo now).owed = loan.owed + loan.due now := by
  by_cases hopen : loan.Open
  · have howed : (loan.upTo now).owed = (loan.upTo now).totalDebt :=
      if_pos ((loan.upTo_open now).mpr hopen)
    rw [howed, show loan.owed = loan.totalDebt from if_pos hopen, (h.live hopen).2.2]
    unfold Loan.upTo
    split
    · simp only [add_assoc]
    · have := loan.due_nonneg now
      have := (h.live hopen).2.2
      omega
  · rw [Loan.due_of_not_open hopen, Loan.upTo_of_due (Loan.due_of_not_open hopen), add_zero]

theorem Loan.Sound.totalDebt_upTo (h : loan.Sound) (hopen : loan.Open) (now : ℕ) :
    (loan.upTo now).totalDebt = loan.totalDebt + loan.due now := by
  have howed := h.owed_upTo now
  rwa [show (loan.upTo now).owed = _ from if_pos ((loan.upTo_open now).mpr hopen),
    show loan.owed = _ from if_pos hopen] at howed

theorem Loan.Sound.upTo (h : loan.Sound) (now : ℕ) : (loan.upTo now).Sound := by
  refine ⟨fun hopen' => ?_, fun hclosed => ?_⟩
  · have hopen := (loan.upTo_open now).mp hopen'
    obtain ⟨hprincipal, hinterest, htotal⟩ := h.live hopen
    have hdue := loan.due_nonneg now
    rw [h.totalDebt_upTo hopen, (loan.upTo_fixed now).2.2.2.1, loan.upTo_accruedInterest]
    omega
  · have hopen : ¬ loan.Open := fun hopen => hclosed ((loan.upTo_open now).mpr hopen)
    rw [Loan.upTo_of_due (Loan.due_of_not_open hopen)]
    exact h.closed hopen

end Loans

/-- The totals with the interest of a loan. -/
def withDue (now : ℕ) (loan : Loan) (totals : Store Address ℤ) : Store Address ℤ :=
  if 0 < loan.due now then
    totals.set loan.borrowToken (totals.amount loan.borrowToken + loan.due now)
  else totals

theorem calculateAccruedInterest_ok {principal delta n : ℤ} {rateBps : ℕ}
    (h : calculateAccruedInterest principal rateBps delta = .ok n) (hprincipal : 0 < principal)
    (hdelta : 0 < delta) : n = Accrual.due (principal * rateBps) interestUnit delta := by
  unfold calculateAccruedInterest at h
  split at h
  · rename_i hnone
    cases h
    obtain rfl : rateBps = 0 := by omega
    simp [Accrual.due]
  · obtain ⟨-, h⟩ := I128.mul_bind.mp h
    obtain ⟨-, h⟩ := I128.mul_bind.mp h
    obtain ⟨-, -, rfl⟩ := I128.div_ok.mp h
    have hnonneg : 0 ≤ principal * rateBps * delta :=
      mul_nonneg (mul_nonneg hprincipal.le (Int.natCast_nonneg _)) hdelta.le
    exact Int.tdiv_eq_ediv_of_nonneg hnonneg

/-- What the formula computes for an open loan is what is due. -/
theorem calculateAccruedInterest_due {now : ℕ} {loan : Loan} {n : ℤ} (hopen : loan.Open)
    (hlast : loan.lastAccrualUpdate < now)
    (h : calculateAccruedInterest loan.principal loan.interestRateBps
      ((now : ℤ) - loan.lastAccrualUpdate) = .ok n) : n = loan.due now := by
  unfold Loan.due
  by_cases hprincipal : 0 < loan.principal
  · rw [if_pos ⟨hopen, hprincipal, hlast⟩]
    exact calculateAccruedInterest_ok h hprincipal (by omega)
  · rw [if_neg fun hc => hprincipal hc.2.1]
    unfold calculateAccruedInterest at h
    rw [if_pos (.inl (not_lt.mp hprincipal))] at h
    cases h
    rfl

/-- An accrual brings the loan up to now, and the total of its token with it. -/
theorem accrueLoan_upTo {env : Ledger} {loan loan' : Loan}
    (h : accrueLoan env loan s = .ok (loan', s')) :
    loan' = loan.upTo env.timestamp ∧
      s' = { s with totalDebt := withDue env.timestamp loan s.totalDebt } ∧
      (0 < loan.due env.timestamp →
        I128.InRange (s.totalDebt.amount loan.borrowToken + loan.due env.timestamp)) := by
  -- Where nothing is due, nothing is written.
  have idle : loan.due env.timestamp = 0 → (loan', s') = (loan, s) →
      loan' = loan.upTo env.timestamp ∧
        s' = { s with totalDebt := withDue env.timestamp loan s.totalDebt } ∧
        (0 < loan.due env.timestamp →
          I128.InRange (s.totalDebt.amount loan.borrowToken + loan.due env.timestamp)) := by
    intro hzero heq
    cases heq
    refine ⟨(Loan.upTo_of_due hzero).symm, ?_, fun hpos => absurd hpos (by omega)⟩
    unfold withDue
    rw [if_neg (by omega)]
  unfold accrueLoan at h
  split at h
  · rename_i hclosed
    cases h
    exact idle (Loan.due_of_not_open fun hopen => hopen.not_closed hclosed) rfl
  · rename_i hclosed
    have hopen := Loan.open_of_not hclosed
    dsimp only at h
    split at h
    · rename_i hdelta
      cases h
      exact idle (Loan.due_of_le (by omega)) rfl
    · rename_i hdelta
      obtain ⟨interest, hinterest, h⟩ := bind_ok.mp h
      have hdue := calculateAccruedInterest_due hopen (by omega) hinterest
      subst hdue
      split at h
      · rename_i hpos
        obtain ⟨-, h⟩ := I128.add_bind.mp h
        obtain ⟨-, h⟩ := I128.add_bind.mp h
        obtain ⟨hfits, h⟩ := I128.add_bind.mp h
        cases h
        refine ⟨?_, ?_, fun _ => hfits⟩
        · unfold Loan.upTo
          rw [if_pos hpos]
        · unfold withDue
          rw [if_pos hpos]
          rfl
      · rename_i hpos
        cases h
        exact idle (le_antisymm (not_lt.mp hpos) (loan.due_nonneg _)) rfl

theorem accrueOne_upTo {env : Ledger} {borrower : Address} {id : ℕ} (hb : Booked s)
    (h : accrueOne env borrower id s = .ok s') :
    id ∈ getUserLoanIds s borrower ∧ ∃ loan, s.loan.get? id = some loan ∧
      s' = { s with
        loan := s.loan.set id (loan.upTo env.timestamp)
        totalDebt := withDue env.timestamp loan s.totalDebt } ∧
      (0 < loan.due env.timestamp →
        I128.InRange (s.totalDebt.amount loan.borrowToken + loan.due env.timestamp)) := by
  unfold accrueOne at h
  obtain ⟨loan, hloan, h⟩ := bind_ok.mp h
  obtain ⟨hlisted, hk⟩ := requireUserLoan_ok hloan
  obtain ⟨⟨loan', s₁⟩, haccrue, h⟩ := bind_ok.mp h
  obtain ⟨rfl, rfl, hfits⟩ := accrueLoan_upTo haccrue
  cases h
  refine ⟨hlisted, loan, hk, ?_, hfits⟩
  unfold setLoan
  rw [(loan.upTo_fixed env.timestamp).1, (hb.numbered id loan hk).1]

/-- The loans of the list are brought up to now, the others are left alone. -/
theorem accrueEach_upTo {env : Ledger} {borrower : Address} {ids : List ℕ} (hb : Booked s)
    (h : accrueEach env borrower ids s = .ok s') (id : ℕ) :
    s'.loan.get? id =
      if id ∈ ids then (s.loan.get? id).map (Loan.upTo env.timestamp) else s.loan.get? id := by
  induction ids generalizing s with
  | nil =>
    cases h
    rw [if_neg List.not_mem_nil]
  | cons first rest ih =>
    obtain ⟨s₁, hone, hrest⟩ := bind_ok.mp h
    obtain ⟨-, loan, hk, rfl, -⟩ := accrueOne_upTo hb hone
    rw [ih (booked_accrueOne hone hb) hrest]
    simp only [Store.get?_set, List.mem_cons]
    by_cases hid : id = first
    · subst hid
      simp [hk, Loan.upTo_upTo]
    · simp [hid]

end CollateralManagement
