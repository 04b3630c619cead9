import StellAIverse.CollateralManagement.Seizure

/-!
# When interest can be booked

An accrual fails only where a product or a total leaves the range of the integers. The
totals that are stored are in range, and each loan is part of one, so that it is enough
to look at the product of each loan and at the total of each token.
-/

namespace CollateralManagement

open Soroban

variable {τ : Type} {tok : Token τ} {self : Address} {s s' : State τ} {a : Action τ}

/-- No stored total is beyond the range. -/
def Bounded (s : State τ) : Prop := ∀ t, s.totalDebt.amount t ≤ I128.max

section Bounds

variable {env : Ledger}

theorem Bounded.set (h : Bounded s) {totals : Store Address ℤ} {t : Address} {n : ℤ}
    (htotals : totals = s.totalDebt.set t n) (hn : n ≤ I128.max) (t' : Address) :
    totals.amount t' ≤ I128.max := by
  rw [htotals, Store.amount_set]
  split
  · exact hn
  · exact h t'

theorem bounded_accrueLoan {loan : Loan} {r : Loan × State τ} (h : accrueLoan env loan s = .ok r)
    (hbound : Bounded s) : Bounded r.2 := by
  obtain ⟨loan', s₁⟩ := r
  obtain ⟨-, rfl, hfits⟩ := accrueLoan_upTo h
  intro t
  change (withDue env.timestamp loan s.totalDebt).amount t ≤ I128.max
  unfold withDue
  split
  · rename_i hdue
    exact hbound.set rfl (hfits hdue).2 t
  · exact hbound t

theorem bounded_accrueOne {borrower : Address} {id : ℕ} (h : accrueOne env borrower id s = .ok s')
    (hbound : Bounded s) : Bounded s' := by
  unfold accrueOne at h
  obtain ⟨loan, -, h⟩ := bind_ok.mp h
  obtain ⟨⟨loan', s₁⟩, haccrue, h⟩ := bind_ok.mp h
  cases h
  exact bounded_accrueLoan haccrue hbound

theorem bounded_accrueEach {borrower : Address} {ids : List ℕ}
    (h : accrueEach env borrower ids s = .ok s') (hbound : Bounded s) : Bounded s' :=
  accrueEach_preserves (fun _ _ _ => bounded_accrueOne) h hbound

theorem bounded_repayLoan {user : Address} {loanId : ℕ} {amount : ℤ}
    (h : repayLoan tok self env user loanId amount s = .ok s') (hbound : Bounded s) :
    Bounded s' := by
  unfold repayLoan at h
  obtain ⟨-, h⟩ := requireAuth_bind.mp h
  obtain ⟨s₂, hinner, rfl⟩ := withGuard_ok (checkPaused_bind h)
  replace h := hinner
  unfold repayInternal at h
  obtain ⟨-, h⟩ := panicIf_bind.mp h
  obtain ⟨loan, -, h⟩ := bind_ok.mp h
  obtain ⟨⟨loan', s₁⟩, haccrue, h⟩ := bind_ok.mp h
  obtain ⟨-, h⟩ := panicIf_bind.mp h
  obtain ⟨tokens, -, h⟩ := (Token.pay_bind _).mp h
  obtain ⟨loan'', -, h⟩ := bind_ok.mp h
  obtain ⟨hleft, h⟩ := I128.sub_bind.mp h
  cases h
  have hbound₁ : Bounded s₁ := bounded_accrueLoan haccrue hbound
  exact hbound₁.set rfl hleft.2

theorem bounded_step (hbound : Bounded s) (h : next tok self a s = .ok s') : Bounded s' := by
  cases a with
  | transfers tokens =>
    cases h
    exact hbound
  | call env op =>
    cases op with
    | borrow user token amount =>
      obtain ⟨-, -, s₁, rate, tokens, haccrued, -, hfits, hs'⟩ := borrow_ok h
      have hbound₁ : Bounded s₁ := bounded_accrueEach haccrued hbound
      exact hbound₁.set (by rw [hs']) hfits.2
    | repayLoan user loanId amount => exact bounded_repayLoan h hbound
    | liquidate liquidator borrower loanId debtToCover =>
      obtain ⟨-, loan, s₁, -, haccrue, -, -, t, n, hn, htotals⟩ := liquidate_ok h
      have hbound₁ : Bounded s₁ := bounded_accrueLoan haccrue hbound
      exact hbound₁.set htotals hn.2
    | accrueInterest borrower loanId => exact bounded_accrueOne h hbound
    | accrueAllInterest borrower => exact bounded_accrueEach h hbound
    | _ =>
      cases next_effect h with
      | _ => exact hbound

theorem Reachable.bounded (hs : Reachable tok self s) : Bounded s := by
  obtain ⟨tokens, hrun⟩ := hs
  refine hrun.preserves (fun _ _ _ _ hn h => bounded_step h hn) fun t => ?_
  change (0 : ℤ) ≤ I128.max
  decide

end Bounds

/-- The product that an accrual computes is in range. -/
def Loan.Fits (now : ℕ) (loan : Loan) : Prop :=
  loan.principal * loan.interestRateBps * ((now : ℤ) - loan.lastAccrualUpdate) ≤ I128.max

theorem withDue_amount (now : ℕ) (loan : Loan) (totals : Store Address ℤ) (t : Address) :
    (withDue now loan totals).amount t =
      totals.amount t + if loan.borrowToken = t then loan.due now else 0 := by
  unfold withDue
  split
  · rw [Store.amount_set_add, add_sub_cancel_left]
  · have := loan.due_nonneg now
    split <;> omega

theorem calculateAccruedInterest_fits {principal delta n : ℤ} {rateBps : ℕ} (hdelta : 0 < delta)
    (h : calculateAccruedInterest principal rateBps delta = .ok n) :
    principal * rateBps * delta ≤ I128.max := by
  unfold calculateAccruedInterest at h
  split at h
  · rename_i hnone
    have hmax : (0 : ℤ) ≤ I128.max := by decide
    rcases hnone with hprincipal | rfl | hlate
    · have hproduct := mul_nonneg (Int.natCast_nonneg rateBps) hdelta.le
      have := mul_nonpos_of_nonpos_of_nonneg hprincipal hproduct
      rw [mul_assoc]
      omega
    · simpa using hmax
    · exact absurd hlate (not_le.mpr hdelta)
  · obtain ⟨-, h⟩ := I128.mul_bind.mp h
    exact (I128.mul_bind.mp h).1.2

theorem calculateAccruedInterest_of_fits {principal delta : ℤ} {rateBps : ℕ} (hprincipal : 0 < principal)
    (hdelta : 0 < delta) (hfits : principal * rateBps * delta ≤ I128.max) :
    ∃ n, calculateAccruedInterest principal rateBps delta = .ok n := by
  unfold calculateAccruedInterest
  split
  · exact ⟨0, rfl⟩
  · have hyearly : 0 ≤ principal * (rateBps : ℤ) := mul_nonneg hprincipal.le (Int.natCast_nonneg _)
    have hscaled : 0 ≤ principal * (rateBps : ℤ) * delta := mul_nonneg hyearly hdelta.le
    have hin := inRange_of_nonneg_of_le hscaled hfits le_rfl
    have hle : principal * (rateBps : ℤ) ≤ principal * rateBps * delta :=
      le_mul_of_one_le_right hyearly hdelta
    have hquotient := hin.of_le (Int.tdiv_nonneg hscaled (show 0 ≤ interestUnit by decide))
      (Int.tdiv_le_self _ hscaled)
    exact ⟨_, I128.mul_bind.mpr ⟨hin.of_le hyearly hle, I128.mul_bind.mpr ⟨hin,
      I128.div_ok.mpr ⟨by decide, hquotient, rfl⟩⟩⟩⟩

section OneLoan

variable {env : Ledger} {loan : Loan}

theorem accrueLoan_fits (hsound : loan.Sound) (hmax : s.totalDebt.amount loan.borrowToken ≤ I128.max)
    {r : Loan × State τ} (h : accrueLoan env loan s = .ok r) :
    loan.Fits env.timestamp ∧
      s.totalDebt.amount loan.borrowToken + loan.due env.timestamp ≤ I128.max := by
  obtain ⟨loan', s₁⟩ := r
  obtain ⟨-, -, htotal⟩ := accrueLoan_upTo h
  refine ⟨?_, ?_⟩
  · have hzero : (0 : ℤ) ≤ I128.max := by decide
    unfold accrueLoan at h
    split at h
    · rename_i hclosed
      have hprincipal := (hsound.closed fun hopen => hopen.not_closed hclosed).1
      unfold Loan.Fits
      rw [hprincipal, zero_mul, zero_mul]
      exact hzero
    · rename_i hclosed
      have hprincipal := (hsound.live (Loan.open_of_not hclosed)).1
      dsimp only at h
      split at h
      · rename_i hlate
        have hrate : 0 ≤ loan.principal * (loan.interestRateBps : ℤ) :=
          mul_nonneg hprincipal.le (Int.natCast_nonneg _)
        exact (mul_nonpos_of_nonneg_of_nonpos hrate hlate).trans hzero
      · rename_i hlate
        obtain ⟨interest, hinterest, -⟩ := bind_ok.mp h
        exact calculateAccruedInterest_fits (not_le.mp hlate) hinterest
  · rcases (loan.due_nonneg env.timestamp).lt_or_eq with hdue | hdue
    · exact (htotal hdue).2
    · rw [← hdue, add_zero]
      exact hmax

theorem accrueLoan_of_fits (hsound : loan.Sound)
    (hpart : loan.owed ≤ s.totalDebt.amount loan.borrowToken) (hfits : loan.Fits env.timestamp)
    (htotal : s.totalDebt.amount loan.borrowToken + loan.due env.timestamp ≤ I128.max) :
    ∃ r, accrueLoan env loan s = .ok r := by
  unfold accrueLoan
  split
  · exact ⟨_, rfl⟩
  · rename_i hclosed
    have hopen := Loan.open_of_not hclosed
    obtain ⟨hprincipal, haccrued, hsum⟩ := hsound.live hopen
    dsimp only
    split
    · exact ⟨_, rfl⟩
    · rename_i hlate
      obtain ⟨n, hn⟩ := calculateAccruedInterest_of_fits hprincipal (not_le.mp hlate) hfits
      have hdue := calculateAccruedInterest_due hopen (by omega) hn
      rw [hn, ok_bind]
      split
      · rename_i hpos
        have howed : loan.owed = loan.totalDebt := if_pos hopen
        rw [howed, hsum] at hpart
        refine ⟨_, I128.add_bind.mpr ⟨?_, I128.add_bind.mpr ⟨?_, I128.add_bind.mpr ⟨?_, rfl⟩⟩⟩⟩
        · exact inRange_of_nonneg_of_le (by omega) (by omega) htotal
        · exact inRange_of_nonneg_of_le (by omega) (by omega) htotal
        · exact inRange_of_nonneg_of_le (by omega) (by omega) htotal
      · exact ⟨_, rfl⟩

end OneLoan

/-- A loan is part of the total of its token. -/
theorem Booked.owed_le (hb : Booked s) {id : ℕ} {loan : Loan} (hk : s.loan.get? id = some loan) :
    loan.owed ≤ s.totalDebt.amount loan.borrowToken := by
  have hle := Store.weight_le_total (s := s.loan)
    (w := fun _ l => if l.borrowToken = loan.borrowToken then l.owed else 0) id (by
      intro id' loan' hk'
      have := (hb.sound id' loan' hk').owed_nonneg
      split <;> omega)
  rw [Store.weight_some hk, if_pos rfl] at hle
  rw [hb.totals]
  exact hle

/-- The interest due on a loan, in its token. -/
def dueIn (now : ℕ) (t : Address) (_ : ℕ) (loan : Loan) : ℤ :=
  if loan.borrowToken = t then loan.due now else 0

theorem dueIn_nonneg (now : ℕ) (t : Address) (id : ℕ) (loan : Loan) : 0 ≤ dueIn now t id loan := by
  have := loan.due_nonneg now
  unfold dueIn
  split <;> omega

theorem sum_dueIn_nonneg (now : ℕ) (t : Address) (loans : Store ℕ Loan) (ids : List ℕ) :
    0 ≤ (ids.map (loans.weight (dueIn now t))).sum := by
  apply List.sum_nonneg
  intro x hx
  obtain ⟨id, -, rfl⟩ := List.mem_map.mp hx
  unfold Store.weight
  split
  · exact dueIn_nonneg now t _ _
  · exact le_rfl

section AllLoans

variable {env : Ledger} {borrower : Address}

/-- The state once the interest due on a loan is booked. -/
def booking (now id : ℕ) (loan : Loan) (s : State τ) : State τ :=
  { s with
    loan := s.loan.set id (loan.upTo now)
    totalDebt := withDue now loan s.totalDebt }

/-- Another loan stays as it was. -/
theorem booking_get?_ne (now : ℕ) {id id' : ℕ} (loan : Loan) (s : State τ) (hne : id' ≠ id) :
    (booking now id loan s).loan.get? id' = s.loan.get? id' :=
  Store.get?_set_ne _ _ hne

/-- What is due on the first loan moves to the total of its token. -/
theorem booking_total {now id : ℕ} {loan : Loan} {rest : List ℕ} (hk : s.loan.get? id = some loan)
    (hnew : id ∉ rest) (t : Address) :
    (booking now id loan s).totalDebt.amount t +
        (rest.map ((booking now id loan s).loan.weight (dueIn now t))).sum =
      s.totalDebt.amount t + ((id :: rest).map (s.loan.weight (dueIn now t))).sum := by
  have hweights : rest.map ((booking now id loan s).loan.weight (dueIn now t)) =
      rest.map (s.loan.weight (dueIn now t)) := by
    apply List.map_congr_left
    intro id' hmem
    unfold Store.weight
    rw [booking_get?_ne now loan s (ne_of_mem_of_not_mem hmem hnew)]
  rw [hweights, List.map_cons, List.sum_cons, Store.weight_some hk, ← add_assoc]
  exact congrArg (· + _) (withDue_amount _ _ _ _)

theorem accrueOne_iff (hb : Booked s) (hbound : Bounded s) {id : ℕ} {loan : Loan}
    (hlisted : id ∈ getUserLoanIds s borrower) (hk : s.loan.get? id = some loan) :
    accrueOne env borrower id s = .ok s' ↔
      (loan.Fits env.timestamp ∧
        s.totalDebt.amount loan.borrowToken + loan.due env.timestamp ≤ I128.max) ∧
      s' = booking env.timestamp id loan s := by
  have hsound := hb.sound id loan hk
  have hfound : requireUserLoan s borrower id = .ok loan := by
    unfold requireUserLoan
    rw [if_pos hlisted]
    exact expect_ok.mpr hk
  constructor
  · intro h
    obtain ⟨-, loan₀, hk₀, hs', -⟩ := accrueOne_upTo hb h
    obtain rfl := Option.some.inj (hk.symm.trans hk₀)
    unfold accrueOne at h
    rw [hfound, ok_bind] at h
    obtain ⟨r, haccrue, -⟩ := bind_ok.mp h
    exact ⟨accrueLoan_fits hsound (hbound _) haccrue, hs'⟩
  · rintro ⟨⟨hfits, htotal⟩, rfl⟩
    obtain ⟨⟨loan', s₁⟩, haccrue⟩ := accrueLoan_of_fits hsound (hb.owed_le hk) hfits htotal
    obtain ⟨rfl, rfl, -⟩ := accrueLoan_upTo haccrue
    unfold accrueOne
    rw [hfound, ok_bind, haccrue, ok_bind]
    dsimp only
    unfold setLoan booking
    rw [(loan.upTo_fixed _).1, (hb.numbered id loan hk).1]

/-- The rest of the loop runs after the first loan is booked. -/
theorem accrueEach_cons_iff (hb : Booked s) (hbound : Bounded s) {id : ℕ} {loan : Loan}
    {rest : List ℕ} (hlisted : id ∈ getUserLoanIds s borrower) (hk : s.loan.get? id = some loan) :
    (∃ s', accrueEach env borrower (id :: rest) s = .ok s') ↔
      accrueOne env borrower id s = .ok (booking env.timestamp id loan s) ∧
      ∃ s', accrueEach env borrower rest (booking env.timestamp id loan s) = .ok s' := by
  constructor
  · rintro ⟨s', h⟩
    obtain ⟨s₂, hone, hmore⟩ := bind_ok.mp h
    obtain ⟨-, rfl⟩ := (accrueOne_iff hb hbound hlisted hk).mp hone
    exact ⟨hone, s', hmore⟩
  · rintro ⟨hone, s', hmore⟩
    exact ⟨s', bind_ok.mpr ⟨_, hone, hmore⟩⟩

/-- The loop completes when each product fits and each total does with all that is due. -/
theorem accrueEach_iff (hb : Booked s) (hbound : Bounded s) {ids : List ℕ} (hnodup : ids.Nodup)
    (hlisted : ∀ id ∈ ids, id ∈ getUserLoanIds s borrower) :
    (∃ s', accrueEach env borrower ids s = .ok s') ↔
      (∀ id ∈ ids, ∀ loan ∈ s.loan.get? id, loan.Fits env.timestamp) ∧
      ∀ t, s.totalDebt.amount t + (ids.map (s.loan.weight (dueIn env.timestamp t))).sum ≤
        I128.max := by
  induction ids generalizing s with
  | nil =>
    refine iff_of_true ⟨s, rfl⟩ ⟨fun _ hmem => absurd hmem List.not_mem_nil, fun t => ?_⟩
    rw [List.map_nil, List.sum_nil, add_zero]
    exact hbound t
  | cons id rest ih =>
    obtain ⟨hnew, hrest⟩ := List.nodup_cons.mp hnodup
    have hid := hlisted id List.mem_cons_self
    obtain ⟨loan, hk, -⟩ := (hb.listed borrower id).mp hid
    have hstep : accrueOne env borrower id s = .ok (booking env.timestamp id loan s) ↔ _ :=
      accrueOne_iff hb hbound hid hk
    have hih (hone : accrueOne env borrower id s = .ok (booking env.timestamp id loan s)) :
        (∃ s', accrueEach env borrower rest (booking env.timestamp id loan s) = .ok s') ↔
          (∀ id' ∈ rest, ∀ loan' ∈ s.loan.get? id', loan'.Fits env.timestamp) ∧
          ∀ t, s.totalDebt.amount t +
            ((id :: rest).map (s.loan.weight (dueIn env.timestamp t))).sum ≤ I128.max := by
      rw [ih (booked_accrueOne hone hb) (bounded_accrueOne hone hbound) hrest fun id' hmem =>
        hlisted id' (List.mem_cons_of_mem id hmem)]
      refine and_congr (forall₂_congr fun id' hmem => ?_) (forall_congr' fun t => ?_)
      · rw [booking_get?_ne _ loan s (ne_of_mem_of_not_mem hmem hnew)]
      · rw [booking_total hk hnew]
    rw [accrueEach_cons_iff hb hbound hid hk, and_congr_right hih]
    constructor
    · rintro ⟨hone, hfits, htotals⟩
      obtain ⟨⟨hfirst, -⟩, -⟩ := hstep.mp hone
      refine ⟨fun id' hmem loan' hk' => ?_, htotals⟩
      rcases List.mem_cons.mp hmem with rfl | hmem
      · obtain rfl := Option.some.inj (hk.symm.trans hk')
        exact hfirst
      · exact hfits id' hmem loan' hk'
    · rintro ⟨hfits, htotals⟩
      refine ⟨hstep.mpr ⟨⟨hfits id List.mem_cons_self loan hk, ?_⟩, rfl⟩, fun id' hmem =>
        hfits id' (List.mem_cons_of_mem id hmem), htotals⟩
      have htotal := htotals loan.borrowToken
      have hrest := sum_dueIn_nonneg env.timestamp loan.borrowToken s.loan rest
      rw [List.map_cons, List.sum_cons, Store.weight_some hk] at htotal
      unfold dueIn at htotal hrest
      rw [if_pos rfl] at htotal
      omega

/-- The interest due on the loans of a user by now can be booked. -/
def Bookable (now : ℕ) (user : Address) (s : State τ) : Prop :=
  (∀ id loan, s.loan.get? id = some loan → loan.borrower = user → loan.Fits now) ∧
    ∀ t, s.totalDebt.amount t + unbooked now (ofUserIn user t) s.loan ≤ I128.max

theorem accrueAllInterest_iff (hb : Booked s) (hbound : Bounded s) :
    (∃ s', accrueAllInterest env borrower s = .ok s') ↔ Bookable env.timestamp borrower s := by
  have hsum : ∀ t, unbooked env.timestamp (ofUserIn borrower t) s.loan =
      ((getUserLoanIds s borrower).map (s.loan.weight (dueIn env.timestamp t))).sum := by
    intro t
    have hkeys : unbooked env.timestamp (ofUserIn borrower t) s.loan =
        ((getUserLoanIds s borrower).map (s.loan.weight fun _ loan =>
          if ofUserIn borrower t loan = true then loan.due env.timestamp else 0)).sum := by
      apply Store.total_eq_sum_of_zero (hb.once borrower)
      intro id loan hk hunlisted
      apply if_neg
      intro hc
      exact hunlisted ((hb.listed borrower id).mpr ⟨loan, hk, ofUserIn_borrower hc⟩)
    rw [hkeys]
    congr 1
    apply List.map_congr_left
    intro id hmem
    obtain ⟨loan, hk, hborrower⟩ := (hb.listed borrower id).mp hmem
    rw [Store.weight_some hk, Store.weight_some hk]
    simp only [dueIn, ofUserIn, hborrower, true_and, decide_eq_true_eq]
  unfold accrueAllInterest Bookable
  rw [accrueEach_iff hb hbound (hb.once borrower) fun _ hmem => hmem]
  refine and_congr ⟨fun h id loan hk hborrower => ?_, fun h id hmem loan hk => ?_⟩
    (forall_congr' fun t => by rw [hsum])
  · exact h id ((hb.listed borrower id).mpr ⟨loan, hk, hborrower⟩) loan hk
  · obtain ⟨loan₀, hk₀, hborrower⟩ := (hb.listed borrower id).mp hmem
    obtain rfl := Option.some.inj (hk₀.symm.trans hk)
    exact h id _ hk hborrower

end AllLoans

end CollateralManagement
