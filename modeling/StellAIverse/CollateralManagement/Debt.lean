import StellAIverse.CollateralManagement.Effects
import StellAIverse.Soroban.Run

/-!
# The ledger of debts

Interest is added to a loan and to the total of its token by the same amount, and
a payment is taken off both, so the total stays the sum over the open loans. Within
a loan the interest is paid first, which keeps the principal of an open loan
positive.
-/

namespace CollateralManagement

open Soroban

variable {τ : Type} {tok : Token τ} {self : Address} {s s' : State τ} {a : Action τ}

/-- What a run from deployment can lead to. -/
def Reachable (tok : Token τ) (self : Address) (s : State τ) : Prop :=
  ∃ tokens, Steps (next tok self) (fun _ _ => True) (deployed tokens) s

/-- What the loan adds to the debts of its token. -/
def Loan.owed (loan : Loan) : ℤ := if loan.Open then loan.totalDebt else 0

structure Loan.Sound (loan : Loan) : Prop where
  live : loan.Open → 0 < loan.principal ∧ 0 ≤ loan.accruedInterest ∧
    loan.totalDebt = loan.principal + loan.accruedInterest
  closed : ¬ loan.Open → loan.principal = 0 ∧ loan.accruedInterest = 0 ∧ loan.totalDebt = 0 ∧
    (loan.isRepaid = true ↔ loan.isLiquidated = false)

theorem Loan.Sound.owed_nonneg {loan : Loan} (h : loan.Sound) : 0 ≤ loan.owed := by
  unfold Loan.owed
  split
  · rename_i hopen
    obtain ⟨hprincipal, hinterest, htotal⟩ := h.live hopen
    omega
  · exact le_rfl

section Accrual

variable {now : ℕ} {loan loan' : Loan} {totals totals' : Store Address ℤ}

theorem Accrued.borrower (h : Accrued now loan totals loan' totals') :
    loan'.borrower = loan.borrower := by
  cases h <;> rfl

theorem Accrued.isOpen (h : Accrued now loan totals loan' totals') : loan'.Open ↔ loan.Open := by
  cases h <;> exact Iff.rfl

theorem Accrued.sound (h : Accrued now loan totals loan' totals') (hs : loan.Sound) :
    loan'.Sound := by
  cases h with
  | idle => exact hs
  | interest n isOpen positive =>
    obtain ⟨hprincipal, hinterest, -⟩ := hs.live isOpen
    exact ⟨fun _ => ⟨hprincipal, by positivity, rfl⟩, fun hclosed => absurd isOpen hclosed⟩

/-- Loan and total grow by the same amount. -/
theorem Accrued.amount (h : Accrued now loan totals loan' totals') (hs : loan.Sound)
    (t : Address) :
    totals'.amount t =
      totals.amount t + if loan.borrowToken = t then loan'.owed - loan.owed else 0 := by
  cases h with
  | idle => simp
  | interest n isOpen positive =>
    obtain ⟨-, -, htotal⟩ := hs.live isOpen
    have hgrowth : Loan.owed { loan with
        accruedInterest := loan.accruedInterest + n
        totalDebt := loan.principal + (loan.accruedInterest + n)
        lastAccrualUpdate := now } - loan.owed = n := by
      change (if loan.Open then loan.principal + (loan.accruedInterest + n) else 0) -
        (if loan.Open then loan.totalDebt else 0) = n
      rw [if_pos isOpen, if_pos isOpen, htotal]
      ring
    rw [Store.amount_set_add, hgrowth, add_sub_cancel_left]

end Accrual

section Payment

variable {close : Loan → Loan} {loan : Loan} {amount : ℤ}

/-- A payment takes its amount off the debt; whoever owes nothing any more is closed. -/
theorem paidDown_owed (hclose : close = closeRepaid ∨ close = closeLiquidated) (hopen : loan.Open)
    (hle : amount ≤ loan.totalDebt) : (paidDown close loan amount).owed = loan.owed - amount := by
  unfold paidDown
  rw [show loan.owed = loan.totalDebt from if_pos hopen]
  split
  · obtain rfl | rfl := hclose
    · rw [Loan.owed, if_neg (by simp [Loan.Open, closeRepaid])]
      omega
    · rw [Loan.owed, if_neg (by simp [Loan.Open, closeLiquidated])]
      omega
  · exact if_pos hopen

theorem paidDown_sound (hclose : close = closeRepaid ∨ close = closeLiquidated) (hopen : loan.Open)
    (hs : loan.Sound) : (paidDown close loan amount).Sound := by
  obtain ⟨hprincipal, hinterest, htotal⟩ := hs.live hopen
  unfold paidDown
  split
  · obtain rfl | rfl := hclose
    · refine ⟨fun ho => ?_, fun _ => ⟨rfl, rfl, rfl, ?_⟩⟩
      · cases ho.2
      · exact iff_of_true rfl hopen.1
    · refine ⟨fun ho => ?_, fun _ => ⟨rfl, rfl, rfl, ?_⟩⟩
      · cases ho.1
      · simp [closeLiquidated, hopen.2]
  · rename_i hleft
    refine ⟨fun _ => ?_, fun hc => absurd hopen hc⟩
    -- The principal is only touched once the interest is gone.
    rcases le_total amount loan.accruedInterest with hle | hle
    · simp only [min_eq_left hle]
      omega
    · simp only [min_eq_right hle]
      omega

end Payment

/-- What the open loans of a token owe. -/
def owedIn (loans : Store ℕ Loan) (t : Address) : ℤ :=
  loans.total fun _ loan => if loan.borrowToken = t then loan.owed else 0

theorem owedIn_set {loans : Store ℕ Loan} {id : ℕ} {loan loan' : Loan}
    (hk : loans.get? id = some loan) (htoken : loan'.borrowToken = loan.borrowToken) (t : Address) :
    owedIn (loans.set id loan') t =
      owedIn loans t + if loan.borrowToken = t then loan'.owed - loan.owed else 0 := by
  unfold owedIn
  rw [Store.total_set, Store.weight_some hk, htoken]
  split <;> ring

theorem owedIn_add {loans : Store ℕ Loan} {id : ℕ} (hk : loans.get? id = none) (loan : Loan)
    (t : Address) :
    owedIn (loans.set id loan) t =
      owedIn loans t + if loan.borrowToken = t then loan.owed else 0 := by
  unfold owedIn
  rw [Store.total_set, Store.weight_none hk, sub_zero]

/-- The totals are those of the open loans, and the lists of the borrowers have each loan
once. -/
structure Booked (s : State τ) : Prop where
  fresh : s.initialized = false →
    s.admin = none ∧ s.collateralTokens = [] ∧ ∀ id, s.loan.get? id = none
  numbered : ∀ id loan, s.loan.get? id = some loan → loan.loanId = id ∧ id < s.loanCounter
  sound : ∀ id loan, s.loan.get? id = some loan → loan.Sound
  totals : ∀ t, s.totalDebt.amount t = owedIn s.loan t
  listed : ∀ user id, id ∈ getUserLoanIds s user ↔
    ∃ loan, s.loan.get? id = some loan ∧ loan.borrower = user
  once : ∀ user, (getUserLoanIds s user).Nodup

theorem Booked.locked (hb : Booked s) (lock : Bool) : Booked { s with reentrancyLock := lock } :=
  ⟨hb.fresh, hb.numbered, hb.sound, hb.totals, hb.listed, hb.once⟩

theorem Booked.noLoan (h : Booked s) : s.loan.get? s.loanCounter = none := by
  cases hk : s.loan.get? s.loanCounter with
  | none => rfl
  | some loan => exact absurd (h.numbered _ loan hk).2 (lt_irrefl _)

/-- A stored loan is replaced by another state of it, and the totals follow. -/
theorem Booked.rewrite (h : Booked s) {id : ℕ} {loan loan' : Loan} {totals : Store Address ℤ}
    (hk : s.loan.get? id = some loan) (hid : loan'.loanId = loan.loanId)
    (hborrower : loan'.borrower = loan.borrower) (htoken : loan'.borrowToken = loan.borrowToken)
    (hsound : loan'.Sound)
    (htotals : ∀ t, totals.amount t =
      s.totalDebt.amount t + if loan.borrowToken = t then loan'.owed - loan.owed else 0) :
    Booked { s with loan := s.loan.set loan.loanId loan', totalDebt := totals } := by
  obtain ⟨hself, hcounter⟩ := h.numbered id loan hk
  rw [hself]
  refine ⟨fun hn => ?_, ?_, ?_, fun t => ?_, fun user id' => ?_, h.once⟩
  · cases ((h.fresh hn).2.2 id).symm.trans hk
  · exact Store.forall_set h.numbered ⟨hid.trans hself, hcounter⟩
  · exact Store.forall_set h.sound hsound
  · rw [owedIn_set hk htoken, ← h.totals, htotals]
  · refine (h.listed user id').trans ?_
    simp only [Store.get?_set]
    by_cases he : id' = id
    · subst he
      simp [hk, hborrower]
    · simp [he]

theorem booked_accrueOne {env : Ledger} {borrower : Address} {id : ℕ}
    (h : accrueOne env borrower id s = .ok s') (hb : Booked s) : Booked s' := by
  obtain ⟨loan, loan', totals, hk, haccrued, rfl⟩ := accrueOne_ok h
  have hsound := hb.sound id loan hk
  exact hb.rewrite hk haccrued.loanId haccrued.borrower haccrued.borrowToken (haccrued.sound hsound)
    (haccrued.amount hsound)

theorem booked_accrueEach {env : Ledger} {borrower : Address} {ids : List ℕ}
    (h : accrueEach env borrower ids s = .ok s') (hb : Booked s) : Booked s' :=
  accrueEach_preserves (fun _ _ _ => booked_accrueOne) h hb

/-- A payment on a loan, after its interest has been added. -/
theorem Booked.paid (h : Booked s) {id now : ℕ} {loan loan' : Loan} {totals : Store Address ℤ}
    {close : Loan → Loan} {amount : ℤ} (hclose : close = closeRepaid ∨ close = closeLiquidated)
    (hk : s.loan.get? id = some loan) (hopen : loan.Open)
    (haccrued : Accrued now loan s.totalDebt loan' totals)
    (hle : amount ≤ loan'.totalDebt) :
    Booked { s with
      loan := s.loan.set loan.loanId (paidDown close loan' amount)
      totalDebt := totals.set loan.borrowToken (totals.amount loan.borrowToken - amount) } := by
  have hsound := h.sound id loan hk
  have hopen' := haccrued.isOpen.mpr hopen
  obtain ⟨hid, hborrower, htoken⟩ := paidDown_fixed hclose loan' amount
  refine h.rewrite hk (hid.trans haccrued.loanId) (hborrower.trans haccrued.borrower)
    (htoken.trans haccrued.borrowToken) (paidDown_sound hclose hopen' (haccrued.sound hsound))
    fun t => ?_
  rw [paidDown_owed hclose hopen' hle, Store.amount_set_add, haccrued.amount hsound t]
  split <;> ring

theorem sumDebts_nonneg {counts : Loan → Bool} (hb : Booked s) {ids : List ℕ} {total r : ℤ}
    (h : sumDebts counts s ids total = .ok r) (htotal : 0 ≤ total) : 0 ≤ r := by
  induction ids generalizing total with
  | nil =>
    cases h
    exact htotal
  | cons id rest ih =>
    unfold sumDebts at h
    obtain ⟨loan, hk, h⟩ := expect_bind.mp h
    split at h
    · rename_i hcounts
      obtain ⟨-, h⟩ := I128.add_bind.mp h
      obtain ⟨hprincipal, hinterest, hdebt⟩ := (hb.sound id loan hk).live ⟨hcounts.1, hcounts.2.1⟩
      exact ih h (by omega)
    · exact ih h htotal

/-- A new loan, listed for its borrower. -/
theorem Booked.lent (h : Booked s) (hinit : s.initialized = true) (user token : Address)
    (rate now : ℕ) {amount : ℤ} (hpos : 0 < amount) :
    Booked { s with
      loan := s.loan.set s.loanCounter (newLoan s.loanCounter user token amount rate now)
      userLoanIds := s.userLoanIds.set user (getUserLoanIds s user ++ [s.loanCounter])
      loanCounter := s.loanCounter + 1
      totalDebt := s.totalDebt.set token (s.totalDebt.amount token + amount) } := by
  have hnone := h.noLoan
  have hlists : ∀ who, ((s.userLoanIds.set user (getUserLoanIds s user ++ [s.loanCounter])).get?
      who).getD [] = if who = user then getUserLoanIds s user ++ [s.loanCounter]
        else getUserLoanIds s who := by
    intro who
    rw [Store.get?_set]
    split <;> rfl
  have hunlisted : ∀ who, s.loanCounter ∉ getUserLoanIds s who := by
    intro who hmem
    obtain ⟨loan, hk, -⟩ := (h.listed who _).mp hmem
    cases hnone.symm.trans hk
  refine ⟨fun hn => ?_, ?_, ?_, fun t => ?_, fun who id => ?_, fun who => ?_⟩
  · cases hinit.symm.trans hn
  · refine Store.forall_set (fun id loan hk => ?_) ⟨rfl, Nat.lt_succ_self _⟩
    obtain ⟨hid, hlt⟩ := h.numbered id loan hk
    exact ⟨hid, hlt.trans (Nat.lt_succ_self _)⟩
  · refine Store.forall_set h.sound ⟨fun _ => ⟨hpos, le_rfl, (add_zero _).symm⟩, fun hc => ?_⟩
    exact absurd ⟨rfl, rfl⟩ hc
  · have howed : (newLoan s.loanCounter user token amount rate now).owed = amount :=
      if_pos ⟨rfl, rfl⟩
    rw [owedIn_add hnone, howed, ← h.totals, Store.amount_set_add, add_sub_cancel_left]
    rfl
  · change id ∈ ((s.userLoanIds.set user _).get? who).getD [] ↔ _
    rw [hlists]
    simp only [Store.get?_set]
    have hold := h.listed who id
    by_cases hid : id = s.loanCounter
    · subst hid
      by_cases hwho : who = user
      · simp [hwho, newLoan]
      · simp [hwho, hunlisted who, newLoan, Ne.symm hwho]
    · by_cases hwho : who = user
      · subst hwho
        simp [hid, hold]
      · simp [hid, hwho, hold]
  · change (((s.userLoanIds.set user _).get? who).getD []).Nodup
    rw [hlists]
    split
    · refine (h.once user).append (List.nodup_singleton _) fun id hmem hlast => ?_
      cases List.mem_singleton.mp hlast
      exact hunlisted user hmem
    · exact h.once who

theorem booked_step (h : Booked s) (heffect : Effect tok self s a s') : Booked s' := by
  cases heffect with
  | transfers | depositCollateral | withdrawCollateral =>
    exact ⟨h.fresh, h.numbered, h.sound, h.totals, h.listed, h.once⟩
  | initializeContract env admin oracle treasury fresh =>
    obtain ⟨-, -, hnone⟩ := h.fresh fresh
    refine ⟨fun hn => (by cases hn), fun id loan hk => ?_, h.sound, h.totals, h.listed, h.once⟩
    cases (hnone id).symm.trans hk
  | configure env op admin collateralType collateralTokens params prices paused configures known =>
    refine ⟨fun hn => ?_, h.numbered, h.sound, h.totals, h.listed, h.once⟩
    cases (h.fresh hn).1.symm.trans known
  | borrow env user token amount s₁ debt rate tokens positive accrued owes backed paid =>
    have hb := booked_accrueEach accrued (h.locked true)
    have hdebt := sumDebts_nonneg hb owes le_rfl
    have hinit : s₁.initialized = true := by
      cases hi : s₁.initialized with
      | true => rfl
      | false => exact absurd (hb.fresh hi).2.1 (backed (by omega))
    have hlent := hb.lent hinit user token rate env.timestamp positive
    exact ⟨hlent.fresh, hlent.numbered, hlent.sound, hlent.totals, hlent.listed, hlent.once⟩
  | repayLoan env user loanId amount loan loan' totals tokens positive found isOpen accrued within =>
    have hpaid := h.paid (.inl rfl) found isOpen accrued within
    exact ⟨hpaid.fresh, hpaid.numbered, hpaid.sound, hpaid.totals, hpaid.listed, hpaid.once⟩
  | liquidate env liquidator borrower loanId debtToCover loan loan' totals collToken seized tokens₁
      tokens positive found isOpen accrued =>
    have hpaid := h.paid (.inr rfl) found isOpen accrued (min_le_right debtToCover loan'.totalDebt)
    exact ⟨hpaid.fresh, hpaid.numbered, hpaid.sound, hpaid.totals, hpaid.listed, hpaid.once⟩
  | accrueInterest env borrower loanId s' accrued => exact booked_accrueOne accrued h
  | accrueAllInterest env borrower s' accrued => exact booked_accrueEach accrued h

theorem booked_deployed (tokens : τ) : Booked (deployed tokens) where
  fresh _ := ⟨rfl, rfl, fun _ => rfl⟩
  numbered _ _ hk := by cases hk
  sound _ _ hk := by cases hk
  totals _ := rfl
  listed user id := by simp [getUserLoanIds, deployed]
  once _ := List.nodup_nil

theorem Reachable.booked (hs : Reachable tok self s) : Booked s := by
  obtain ⟨tokens, hrun⟩ := hs
  exact hrun.preserves (fun _ _ _ _ hn h => booked_step h (next_effect hn)) (booked_deployed tokens)

theorem owedIn_eq (loans : Store ℕ Loan) (t : Address) :
    owedIn loans t = loans.total fun _ loan =>
      if loan.borrowToken = t ∧ loan.isRepaid = false ∧ loan.isLiquidated = false then loan.totalDebt
      else 0 := by
  apply Store.total_congr
  intro id loan _
  unfold Loan.owed
  by_cases hopen : loan.Open
  · rw [if_pos hopen]
    simp [hopen.1, hopen.2]
  · rw [if_neg hopen, ite_self, if_neg fun h => hopen ⟨h.2.2, h.2.1⟩]

/-- In every reachable state the total of a token is the debt of its loans that are neither
repaid nor liquidated, each loan adds up and is closed in exactly one way, and each loan id is
listed once, for its borrower. -/
theorem debts_agree (hs : Reachable tok self s) :
    (∀ t, s.totalDebt.amount t = s.loan.total fun _ loan =>
      if loan.borrowToken = t ∧ loan.isRepaid = false ∧ loan.isLiquidated = false then loan.totalDebt
      else 0) ∧
    (∀ id loan, s.loan.get? id = some loan →
      (loan.isRepaid = false ∧ loan.isLiquidated = false →
        0 < loan.principal ∧ 0 ≤ loan.accruedInterest ∧
          loan.totalDebt = loan.principal + loan.accruedInterest) ∧
      (¬ (loan.isRepaid = false ∧ loan.isLiquidated = false) →
        loan.principal = 0 ∧ loan.accruedInterest = 0 ∧ loan.totalDebt = 0 ∧
          (loan.isRepaid = true ↔ loan.isLiquidated = false)) ∧
      ∀ user, (getUserLoanIds s user).count id = if user = loan.borrower then 1 else 0) ∧
    ∀ user, ∀ id ∈ getUserLoanIds s user, ∃ loan, s.loan.get? id = some loan := by
  have h := hs.booked
  refine ⟨fun t => (h.totals t).trans (owedIn_eq s.loan t), fun id loan hk => ⟨?_, ?_, fun user => ?_⟩,
    fun user id hmem => ?_⟩
  · rintro ⟨hrepaid, hliquidated⟩
    exact (h.sound id loan hk).live ⟨hliquidated, hrepaid⟩
  · intro hclosed
    exact (h.sound id loan hk).closed fun hopen => hclosed hopen.symm
  · split
    · rename_i huser
      exact List.count_eq_one_of_mem (h.once user) ((h.listed user id).mpr ⟨loan, hk, huser.symm⟩)
    · rename_i huser
      apply List.count_eq_zero_of_not_mem
      intro hmem
      obtain ⟨loan', hk', hborrower⟩ := (h.listed user id).mp hmem
      obtain rfl : loan = loan' := Option.some.inj (hk.symm.trans hk')
      exact huser hborrower.symm
  · obtain ⟨loan, hk, -⟩ := (h.listed user id).mp hmem
    exact ⟨loan, hk⟩

namespace Sample

def contract : Address := ⟨0⟩

def admin : Address := ⟨1⟩

def oracle : Address := ⟨2⟩

def gold : Address := ⟨3⟩

def usdc : Address := ⟨4⟩

def alice : Address := ⟨5⟩

def bob : Address := ⟨6⟩

def carol : Address := ⟨7⟩

/-- Everyone signs, and the oracle contract does not answer. -/
def env (t : ℕ) : Ledger := ⟨⟨t, fun _ => true⟩, fun _ _ => none⟩

def start : State Balances :=
  deployed (Balances.issue [(usdc, contract, 10000), (gold, alice, 10000), (gold, carol, 10000),
    (usdc, alice, 10000), (usdc, bob, 10000)])

/-- A market for gold at two per unit, with Alice's deposit. -/
def opening : List (ℕ × Op) := [
  (0, .initializeContract admin oracle none),
  (0, .registerCollateralType admin gold "GOLD" 7500 8000 500 0 10),
  (0, .setPrice admin "GOLD" 20),
  (0, .depositCollateral alice gold 10000)]

/-- Calls at their times. -/
def calls (ops : List (ℕ × Op)) : List (Action Balances) := ops.map fun e => .call (env e.1) e.2

end Sample

section Runs

open Sample

/-- Two loans run for a year; one is repaid, the other is paid down and then liquidated when
gold falls. -/
def aYear : List (ℕ × Op) := opening ++ [
  (0, .borrow alice usdc 5000),
  (0, .borrow alice usdc 1000),
  (31536000, .accrueAllInterest alice),
  (31536000, .repayLoan alice 0 2000),
  (31536000, .repayLoan alice 1 1020),
  (31536000, .setPrice admin "GOLD" 3),
  (31536000, .liquidate bob alice 0 1000)]

theorem debts_agree_year :
    ∃ s, Reachable asset contract s ∧ s.totalDebt.amount usdc = 2100 ∧
      (s.loan.total fun _ loan =>
        if loan.borrowToken = usdc ∧ loan.isRepaid = false ∧ loan.isLiquidated = false
        then loan.totalDebt else 0) = 2100 ∧
      ∃ loan, s.loan.get? 1 = some loan ∧ loan.isRepaid = true ∧ loan.isLiquidated = false ∧
        loan.totalDebt = 0 := by
  have h : After (fun s => s.totalDebt.amount usdc = 2100 ∧
        ∃ loan ∈ s.loan.get? 1, loan.isRepaid = true)
      (execute (next asset contract) (calls aYear) start) := by
    decide +kernel
  obtain ⟨s, hs, htotal, loan, hk, hrepaid⟩ := h.exists_ok
  have hreach : Reachable asset contract s := ⟨_, execute_steps (calls aYear) (fun _ _ _ => trivial) hs⟩
  obtain ⟨htotals, hloans, -⟩ := debts_agree hreach
  obtain ⟨-, hclosed, -⟩ := hloans 1 loan hk
  obtain ⟨-, -, hzero, hone⟩ := hclosed (by simp [hrepaid])
  exact ⟨s, hreach, htotal, (htotals usdc).symm.trans htotal, loan, hk, hrepaid, hone.mp hrepaid, hzero⟩

end Runs

end CollateralManagement
