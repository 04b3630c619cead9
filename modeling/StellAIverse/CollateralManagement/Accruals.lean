import StellAIverse.CollateralManagement.Interest
import StellAIverse.Soroban.History

/-!
# Accruals at any times

How often the interest of a loan is booked makes little difference: over any calls,
at any times, what was booked is what was due for the whole time, but for less than
one unit for each booking and one more.
-/

namespace CollateralManagement

open Soroban

variable {τ : Type} {tok : Token τ} {self : Address} {s s' : State τ} {a : Action τ}

def Action.time : Action τ → Option ℕ
  | .call env _ => some env.timestamp
  | .transfers _ => none

/-- No payment on the loan. -/
def Action.Spares (id : ℕ) : Action τ → Prop
  | .call _ (.repayLoan _ loanId _) => loanId ≠ id
  | .call _ (.liquidate _ _ loanId _) => loanId ≠ id
  | _ => True

/-- An accrual for this loan of this borrower, alone or with the other loans. -/
def Op.Accrues (borrower : Address) (id : ℕ) : Op → Prop
  | .accrueInterest who loanId => who = borrower ∧ loanId = id
  | .accrueAllInterest who => who = borrower
  | _ => False

/-- What becomes of an open loan on which nothing is paid. -/
theorem loan_step {id : ℕ} {loan : Loan} (hb : Booked s) (hspares : a.Spares id)
    (hk : s.loan.get? id = some loan) (heffect : Effect tok self s a s') :
    s'.loan.get? id = some loan ∨
      ∃ env op, a = .call env op ∧ s'.loan.get? id = some (loan.upTo env.timestamp) := by
  cases heffect with
  | transfers | configure | initializeContract | depositCollateral | withdrawCollateral =>
    exact .inl hk
  | borrow env user token amount s₁ debt rate tokens positive accrued =>
    have hloans := accrueEach_upTo (hb.locked true) accrued id
    have hone : s₁.loan.get? id = some loan ∨ s₁.loan.get? id = some (loan.upTo env.timestamp) := by
      rw [hloans, hk]
      split
      · exact .inr rfl
      · exact .inl rfl
    have hfresh : ∀ loan₁, s₁.loan.get? id = some loan₁ → id ≠ s₁.loanCounter := fun loan₁ hk₁ =>
      ((booked_accrueEach accrued (hb.locked true)).numbered id loan₁ hk₁).2.ne
    rcases hone with hk₁ | hk₁
    · exact .inl ((Store.get?_set_ne _ _ (hfresh _ hk₁)).trans hk₁)
    · exact .inr ⟨env, _, rfl, (Store.get?_set_ne _ _ (hfresh _ hk₁)).trans hk₁⟩
  | repayLoan env user loanId amount loan₀ loan' totals tokens positive found =>
    left
    have hid := (hb.numbered loanId loan₀ found).1
    exact (Store.get?_set_ne _ _ (by rw [hid]; exact Ne.symm hspares)).trans hk
  | liquidate env liquidator borrower loanId debtToCover loan₀ loan' totals collToken seized tokens₁
      tokens positive found =>
    left
    have hid := (hb.numbered loanId loan₀ found).1
    exact (Store.get?_set_ne _ _ (by rw [hid]; exact Ne.symm hspares)).trans hk
  | accrueInterest env borrower loanId s' accrued =>
    obtain ⟨-, loan₀, hk₀, rfl, -⟩ := accrueOne_upTo hb accrued
    by_cases hid : id = loanId
    · subst hid
      obtain rfl := Option.some.inj (hk.symm.trans hk₀)
      exact .inr ⟨env, _, rfl, Store.get?_set_self _ _ _⟩
    · exact .inl ((Store.get?_set_ne _ _ hid).trans hk)
  | accrueAllInterest env borrower s' accrued =>
    have hloans := accrueEach_upTo hb accrued id
    rw [hk] at hloans
    split at hloans
    · exact .inr ⟨env, _, rfl, hloans⟩
    · exact .inl hloans

/-- An accrual that names the loan, or its borrower, brings it up to now. -/
theorem accrues_step {id : ℕ} {loan : Loan} {env : Ledger} {op : Op} (hb : Booked s)
    (hk : s.loan.get? id = some loan) (haccrues : op.Accrues loan.borrower id)
    (heffect : Effect tok self s (.call env op) s') :
    s'.loan.get? id = some (loan.upTo env.timestamp) := by
  cases heffect with
  | accrueInterest _ borrower loanId s' accrued =>
    obtain ⟨rfl, rfl⟩ := haccrues
    obtain ⟨-, loan₀, hk₀, rfl, -⟩ := accrueOne_upTo hb accrued
    obtain rfl := Option.some.inj (hk.symm.trans hk₀)
    exact Store.get?_set_self _ _ _
  | accrueAllInterest _ borrower s' accrued =>
    obtain rfl : borrower = loan.borrower := haccrues
    rw [accrueEach_upTo hb accrued id, hk, if_pos ((hb.listed _ id).mpr ⟨loan, hk, rfl⟩)]
    rfl
  | configure _ _ _ _ _ _ _ _ configures =>
    cases op <;> first | exact haccrues.elim | exact configures.elim
  | _ => exact haccrues.elim

/-- No loan was brought up to a time that is still to come. -/
def Dated (now : ℕ) (s : State τ) : Prop :=
  ∀ id loan, s.loan.get? id = some loan → loan.lastAccrualUpdate ≤ now

theorem Dated.later {now later : ℕ} (h : Dated now s) (hle : now ≤ later) : Dated later s :=
  fun id loan hk => (h id loan hk).trans hle

theorem Accrued.lastAccrualUpdate_le {now : ℕ} {loan loan' : Loan} {totals totals' : Store Address ℤ}
    (h : Accrued now loan totals loan' totals') (hle : loan.lastAccrualUpdate ≤ now) :
    loan'.lastAccrualUpdate ≤ now := by
  cases h with
  | idle => exact hle
  | interest => exact le_rfl

theorem paidDown_lastAccrualUpdate {close : Loan → Loan}
    (hclose : close = closeRepaid ∨ close = closeLiquidated) (loan : Loan) (amount : ℤ) :
    (paidDown close loan amount).lastAccrualUpdate = loan.lastAccrualUpdate := by
  unfold paidDown
  obtain rfl | rfl := hclose <;> split <;> rfl

theorem Loan.upTo_lastAccrualUpdate {now : ℕ} {loan : Loan} (hle : loan.lastAccrualUpdate ≤ now) :
    loan.lastAccrualUpdate ≤ (loan.upTo now).lastAccrualUpdate ∧
      (loan.upTo now).lastAccrualUpdate ≤ now := by
  unfold Loan.upTo
  split
  · exact ⟨hle, le_rfl⟩
  · exact ⟨le_rfl, hle⟩

theorem dated_accrueEach {env : Ledger} {borrower : Address} {ids : List ℕ} (hb : Booked s)
    (h : accrueEach env borrower ids s = .ok s') (hd : Dated env.timestamp s) :
    Dated env.timestamp s' := by
  intro id loan' hk'
  rw [accrueEach_upTo hb h id] at hk'
  split at hk'
  · obtain ⟨loan, hk, rfl⟩ := Option.map_eq_some_iff.mp hk'
    exact (Loan.upTo_lastAccrualUpdate (hd id loan hk)).2
  · exact hd id loan' hk'

theorem dated_call {env : Ledger} {op : Op} (hb : Booked s) (hd : Dated env.timestamp s)
    (heffect : Effect tok self s (.call env op) s') : Dated env.timestamp s' := by
  cases heffect with
  | configure | initializeContract | depositCollateral | withdrawCollateral => exact hd
  | borrow _ user token amount s₁ debt rate tokens positive accrued =>
    exact Store.forall_set (dated_accrueEach (hb.locked true) accrued hd) le_rfl
  | repayLoan _ user loanId amount loan loan' totals tokens positive found isOpen accrued =>
    refine Store.forall_set hd ?_
    rw [paidDown_lastAccrualUpdate (.inl rfl)]
    exact accrued.lastAccrualUpdate_le (hd loanId loan found)
  | liquidate _ liquidator borrower loanId debtToCover loan loan' totals collToken seized tokens₁
      tokens positive found isOpen accrued =>
    refine Store.forall_set hd ?_
    rw [paidDown_lastAccrualUpdate (.inr rfl)]
    exact accrued.lastAccrualUpdate_le (hd loanId loan found)
  | accrueInterest _ borrower loanId s' accrued =>
    obtain ⟨-, loan, hk, rfl, -⟩ := accrueOne_upTo hb accrued
    exact Store.forall_set hd (Loan.upTo_lastAccrualUpdate (hd loanId loan hk)).2
  | accrueAllInterest _ borrower s' accrued => exact dated_accrueEach hb accrued hd

theorem dated_step {log : List (State τ × Action τ)} (htime : OnTime Action.time log a)
    (hb : Booked s) (hd : Dated (clock Action.time log) s) (h : next tok self a s = .ok s') :
    Dated (clock Action.time ((s, a) :: log)) s' := by
  have heffect := next_effect h
  cases a with
  | call env op => exact dated_call hb (hd.later (htime env.timestamp rfl)) heffect
  | transfers tokens =>
    cases heffect
    exact hd

theorem history_dated {ok : List (State τ × Action τ) → State τ → Action τ → Prop}
    {log : List (State τ × Action τ)} {s₀ : State τ} (old : List (State τ × Action τ))
    (hb₀ : Booked s₀) (hd₀ : Dated (clock Action.time old) s₀)
    (hrun : History (next tok self) ok s₀ log s)
    (htime : ∀ log s a, ok log s a → OnTime Action.time (log ++ old) a) :
    Booked s ∧ Dated (clock Action.time (log ++ old)) s := by
  refine hrun.preserves (P := fun log s => Booked s ∧ Dated (clock Action.time (log ++ old)) s)
    ⟨hb₀, hd₀⟩ ?_
  rintro log s a s' ha hn ⟨hb, hd⟩
  exact ⟨booked_step hb (next_effect hn), dated_step (htime log s a ha) hb hd hn⟩

deriving instance DecidableEq for Loan

/-- The invocation changed the stored loan. -/
def changes (tok : Token τ) (self : Address) (id : ℕ) (e : State τ × Action τ) : Bool :=
  match next tok self e.2 e.1 with
  | .ok s' => decide (s'.loan.get? id ≠ e.1.loan.get? id)
  | .error _ => false

theorem changes_of_next {id : ℕ} (h : next tok self a s = .ok s') :
    changes tok self id (s, a) = true ↔ s'.loan.get? id ≠ s.loan.get? id := by
  simp only [changes, h, decide_eq_true_eq]

/-- What bookings since then made of the loan. -/
structure Grown (loan loan' : Loan) (count : ℕ) : Prop where
  live : loan'.Open
  borrower : loan'.borrower = loan.borrower
  principal : loan'.principal = loan.principal
  rate : loan'.interestRateBps = loan.interestRateBps
  counted : (count : ℤ) ≤ loan'.accruedInterest - loan.accruedInterest
  tally : Accrual.Tally (loan.principal * loan.interestRateBps) interestUnit
    (loan'.lastAccrualUpdate - loan.lastAccrualUpdate)
    (loan'.accruedInterest - loan.accruedInterest) count

section Bookings

variable {loan loan' : Loan} {count now : ℕ}

theorem Grown.refl (hopen : loan.Open) : Grown loan loan 0 := by
  refine ⟨hopen, rfl, rfl, rfl, by simp, ?_⟩
  rw [sub_self, sub_self]
  exact .zero

theorem Grown.booked (h : Grown loan loan' count) (hdue : 0 < loan'.due now) :
    Grown loan (loan'.upTo now) (count + 1) := by
  obtain ⟨-, hborrower, -, hprincipal, hrate⟩ := loan'.upTo_fixed now
  have hlast : (loan'.upTo now).lastAccrualUpdate = now := by
    unfold Loan.upTo
    rw [if_pos hdue]
  have hseconds : loan'.due now = Accrual.due (loan.principal * loan.interestRateBps) interestUnit
      (now - loan'.lastAccrualUpdate) := by
    rw [← h.principal, ← h.rate]
    unfold Loan.due at hdue ⊢
    split at hdue
    · rename_i hc
      rw [if_pos hc]
    · exact absurd hdue (lt_irrefl 0)
  have htally := h.tally.book interestUnit_pos (now - loan'.lastAccrualUpdate)
  rw [← hseconds] at htally
  refine ⟨(loan'.upTo_open now).mpr h.live, hborrower.trans h.borrower, hprincipal.trans h.principal,
    hrate.trans h.rate, ?_, ?_⟩
  · have hcounted := h.counted
    rw [Loan.upTo_accruedInterest, Nat.cast_add, Nat.cast_one]
    omega
  · rw [Loan.upTo_accruedInterest, hlast]
    convert htally using 1 <;> ring

/-- Once the loan is up to now, its interest since then is what is due at once, but for one unit
for each booking. -/
theorem Grown.bounds (h : Grown loan loan' count) (hsound : loan'.Sound)
    (hlast : loan'.lastAccrualUpdate ≤ now) (hdue : loan'.due now = 0) :
    loan'.accruedInterest - loan.accruedInterest ≤
        Accrual.due (loan.principal * loan.interestRateBps) interestUnit
          (now - loan.lastAccrualUpdate) ∧
      Accrual.due (loan.principal * loan.interestRateBps) interestUnit
          (now - loan.lastAccrualUpdate) - count - 1 <
        loan'.accruedInterest - loan.accruedInterest := by
  have hprincipal := (hsound.live h.live).1
  have hrate : 0 ≤ loan.principal * (loan.interestRateBps : ℤ) := by
    rw [← h.principal]
    exact mul_nonneg hprincipal.le (Int.natCast_nonneg _)
  have hidle : Accrual.due (loan.principal * loan.interestRateBps) interestUnit
      (now - loan'.lastAccrualUpdate) ≤ 0 := by
    rcases hlast.lt_or_eq with hlt | heq
    · unfold Loan.due at hdue
      rw [if_pos ⟨h.live, hprincipal, hlt⟩, h.principal, h.rate] at hdue
      exact hdue.le
    · rw [heq, sub_self]
      simp [Accrual.due]
  have hbounds := h.tally.bounds interestUnit_pos (mul_nonneg hrate (by omega)) hidle
  have helapsed : (loan'.lastAccrualUpdate : ℤ) - loan.lastAccrualUpdate +
      (now - loan'.lastAccrualUpdate) = now - loan.lastAccrualUpdate := by ring
  rwa [helapsed] at hbounds

end Bookings

theorem grown_step {id count : ℕ} {loan loan' : Loan} (hb : Booked s) (hspares : a.Spares id)
    (hk : s.loan.get? id = some loan') (h : Grown loan loan' count)
    (hn : next tok self a s = .ok s') :
    ∃ loan'', s'.loan.get? id = some loan'' ∧
      Grown loan loan'' (count + if changes tok self id (s, a) then 1 else 0) := by
  have hsame : s'.loan.get? id = some loan' → changes tok self id (s, a) = false := by
    intro hk'
    rw [Bool.eq_false_iff, ne_eq, changes_of_next hn, not_not, hk', hk]
  rcases loan_step hb hspares hk (next_effect hn) with hk' | ⟨env, op, rfl, hk'⟩
  · refine ⟨loan', hk', ?_⟩
    rw [hsame hk']
    exact h
  · by_cases hdue : 0 < loan'.due env.timestamp
    · refine ⟨_, hk', ?_⟩
      rw [(changes_of_next hn).mpr ?_]
      · exact h.booked hdue
      · -- The interest tells the two records apart.
        rw [hk', hk, ne_eq, Option.some_inj]
        intro heq
        have hinterest := congrArg Loan.accruedInterest heq
        rw [Loan.upTo_accruedInterest] at hinterest
        omega
    · have hzero : loan'.due env.timestamp = 0 := le_antisymm (not_lt.mp hdue) (loan'.due_nonneg _)
      rw [Loan.upTo_of_due hzero] at hk'
      refine ⟨loan', hk', ?_⟩
      rw [hsame hk']
      exact h

theorem history_grown {ok : List (State τ × Action τ) → State τ → Action τ → Prop}
    {log : List (State τ × Action τ)} {s₀ : State τ} {id : ℕ} {loan : Loan} (hb₀ : Booked s₀)
    (hk : s₀.loan.get? id = some loan) (hopen : loan.Open) (hrun : History (next tok self) ok s₀ log s)
    (hspares : ∀ log s a, ok log s a → a.Spares id) :
    Booked s ∧ ∃ loan', s.loan.get? id = some loan' ∧
      Grown loan loan' (log.countP (changes tok self id)) := by
  refine hrun.preserves (P := fun log s => Booked s ∧ ∃ loan', s.loan.get? id = some loan' ∧
    Grown loan loan' (log.countP (changes tok self id))) ⟨hb₀, loan, hk, Grown.refl hopen⟩ ?_
  rintro log s a s' ha hn ⟨hb, loan', hk', hgrown⟩
  refine ⟨booked_step hb (next_effect hn), ?_⟩
  rw [List.countP_cons]
  exact grown_step hb (hspares log s a ha) hk' hgrown hn

/-- In every run with ledger time that does not go back and without a payment on the loan, after an
accrual of an open loan at a time the interest added since is what was due for the whole time at
once, rounded down, but for less than one unit for each call that changed the loan and one more.
A call that adds nothing leaves the loan as it is, so interest that is due for the whole time is
never kept off. -/
theorem accrual_timing {tokens : τ} {old log : List (State τ × Action τ)} {id : ℕ} {loan : Loan}
    (hreach : History (next tok self) (fun log _ a => OnTime Action.time log a) (deployed tokens)
      old s)
    (hk : s.loan.get? id = some loan) (hopen : loan.Open) {t : State τ} {env : Ledger} {op : Op}
    (hrun : History (next tok self)
      (fun log _ a => OnTime Action.time (log ++ old) a ∧ a.Spares id) s
      ((t, .call env op) :: log) s')
    (haccrues : op.Accrues loan.borrower id) :
    ∃ loan', s'.loan.get? id = some loan' ∧
      let added := loan'.accruedInterest - loan.accruedInterest
      let whole := loan.principal * loan.interestRateBps *
        ((env.timestamp : ℤ) - loan.lastAccrualUpdate) / (10000 * 31536000)
      let count := ((t, Action.call env op) :: log).countP (changes tok self id)
      added ≤ whole ∧ whole - count - 1 < added ∧ (0 < whole → 0 < added) ∧
        ∀ loan₀, t.loan.get? id = some loan₀ → loan₀.due env.timestamp = 0 → loan' = loan₀ := by
  obtain ⟨hb, hd⟩ := history_dated [] (booked_deployed tokens) (fun _ _ hk => by cases hk) hreach
    fun log s a ha => by rwa [List.append_nil]
  rw [List.append_nil] at hd
  obtain ⟨hb', hd'⟩ := history_dated old hb hd hrun fun _ _ _ ha => ha.1
  obtain ⟨-, loan', hk', hgrown⟩ := history_grown hb hk hopen hrun fun _ _ _ ha => ha.2
  refine ⟨loan', hk', ?_⟩
  cases hrun with
  | cons run admitted done =>
    obtain ⟨hbt, loan₀, hk₀, hgrown₀⟩ := history_grown hb hk hopen run fun _ _ _ ha => ha.2
    have hlast := accrues_step hbt hk₀ (hgrown₀.borrower ▸ haccrues) (next_effect done)
    obtain rfl := Option.some.inj (hk'.symm.trans hlast)
    have hnow : (loan₀.upTo env.timestamp).lastAccrualUpdate ≤ env.timestamp := hd' id _ hk'
    obtain ⟨hle, hlt⟩ := hgrown.bounds (hb'.sound id _ hk') hnow (loan₀.due_upTo _)
    refine ⟨hle, hlt, fun hwhole => ?_, fun loan₁ hk₁ hdue => ?_⟩
    · -- Each booking added one unit at least.
      have hcounted := hgrown.counted
      have hdue : 0 < Accrual.due (loan.principal * loan.interestRateBps) interestUnit
          (env.timestamp - loan.lastAccrualUpdate) := hwhole
      omega
    · obtain rfl := Option.some.inj (hk₀.symm.trans hk₁)
      exact Loan.upTo_of_due hdue

section Runs

open Sample

instance (id : ℕ) : DecidablePred (Action.Spares id : Action τ → Prop)
  | .call _ (.repayLoan _ _ _) | .call _ (.liquidate _ _ _ _) => inferInstanceAs (Decidable (_ ≠ _))
  | .call _ (.initializeContract ..) | .call _ (.registerCollateralType ..)
  | .call _ (.updateCollateralType ..) | .call _ (.deactivateCollateralType ..)
  | .call _ (.reactivateCollateralType ..) | .call _ (.setProtocolParameters ..)
  | .call _ (.setPrice ..) | .call _ (.pause ..) | .call _ (.unpause ..)
  | .call _ (.depositCollateral ..) | .call _ (.withdrawCollateral ..) | .call _ (.borrow ..)
  | .call _ (.accrueInterest ..) | .call _ (.accrueAllInterest ..) | .transfers _ => .isTrue trivial

/-- Alice borrows at two percent. -/
def borrowed : List (ℕ × Op) := opening ++ [(0, .borrow alice usdc 5000)]

/-- The first accrual adds one, the second nothing. -/
def accruals : List (ℕ × Op) := [
  (400000, .accrueInterest alice 0),
  (500000, .accrueAllInterest alice)]

/-- The third adds one more, when three would have been due at once. -/
theorem accrual_timing_thrice :
    ∃ (s s' : State Balances) (loan loan' : Loan), s.loan.get? 0 = some loan ∧
      s'.loan.get? 0 = some loan' ∧ loan.principal * loan.interestRateBps = 1000000 ∧
      1000000 * (1000000 - loan.lastAccrualUpdate) / (10000 * 31536000) = 3 ∧
      loan'.accruedInterest - loan.accruedInterest ≤ 3 ∧
      3 - 2 - 1 < loan'.accruedInterest - loan.accruedInterest := by
  have h : After (fun h₀ => (∃ loan ∈ h₀.2.loan.get? 0, loan.Open ∧ loan.borrower = alice ∧
        loan.principal = 5000 ∧ loan.interestRateBps = 200 ∧ loan.lastAccrualUpdate = 0) ∧
      After (fun h₁ => OnTime Action.time (h₁.1 ++ h₀.1)
          (.call (env 1000000) (.accrueInterest alice 0) : Action Balances) ∧
        ((h₁.2, Action.call (env 1000000) (.accrueInterest alice 0)) :: h₁.1).countP
          (changes asset contract 0) = 2 ∧
        After (fun _ => True) (accrueInterest (env 1000000) alice 0 h₁.2))
      (record (next asset contract) (fun log _ a => OnTime Action.time (log ++ h₀.1) a ∧ a.Spares 0)
        (calls accruals) ([], h₀.2)))
      (record (next asset contract) (fun log _ a => OnTime Action.time log a) (calls borrowed)
        ([], start)) := by
    decide +kernel
  obtain ⟨⟨old, s⟩, hold, ⟨loan, hk, hopen, hborrower, hprincipal, hrate, hlast⟩, h⟩ := h.exists_ok
  obtain ⟨⟨log, t⟩, hlog, htime, hcount, h⟩ := h.exists_ok
  obtain ⟨s', hs', -⟩ := h.exists_ok
  have hrun : History (next asset contract)
      (fun log _ a => OnTime Action.time (log ++ old) a ∧ a.Spares 0) s
      ((t, .call (env 1000000) (.accrueInterest alice 0)) :: log) s' :=
    .cons (record_run hlog) ⟨htime, trivial⟩ hs'
  obtain ⟨loan', hk', hle, hlt, -⟩ :=
    accrual_timing (record_run hold) hk hopen hrun ⟨hborrower.symm, rfl⟩
  rw [hcount] at hlt
  have hwhole : loan.principal * loan.interestRateBps *
      (((env 1000000).timestamp : ℤ) - loan.lastAccrualUpdate) / (10000 * 31536000) = 3 := by
    rw [hprincipal, hrate, hlast]
    decide
  rw [hwhole] at hle hlt
  refine ⟨s, s', loan, loan', hk, hk', ?_, ?_, hle, hlt⟩
  · rw [hprincipal, hrate]
    rfl
  · rw [hlast]

end Runs

end CollateralManagement
