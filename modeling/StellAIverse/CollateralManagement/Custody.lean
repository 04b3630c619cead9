import StellAIverse.CollateralManagement.Debt
import StellAIverse.Soroban.History

/-!
# Custody of the collateral

Each record of collateral and the total of its token change together. The account
covers the totals as long as a loan is paid out of what the contract holds beyond
them; nothing in the contract asks for that.
-/

namespace CollateralManagement

open Soroban

variable {τ : Type} {tok : Token τ} {self : Address} {s s' : State τ} {a : Action τ}

/-- Who acts in a call. -/
def Op.parties : Op → List Address
  | .depositCollateral user _ _ | .withdrawCollateral user _ _ | .borrow user _ _
  | .repayLoan user _ _ => [user]
  | .liquidate liquidator borrower _ _ => [liquidator, borrower]
  | _ => []

/-- The contract is no user of itself, and other transfers do not spend what it holds. -/
def Action.Outside (tok : Token τ) (self : Address) (s : State τ) : Action τ → Prop
  | .call _ op => self ∉ op.parties
  | .transfers tokens => ∀ t, tok.balance s.tokens t self ≤ tok.balance tokens t self

/-- A loan is paid out of what the account holds beyond the collateral. -/
def Action.LendsSpare (tok : Token τ) (self : Address) (s : State τ) : Action τ → Prop
  | .call _ (.borrow _ token amount) =>
    amount ≤ tok.balance s.tokens token self - s.totalCollateral.amount token
  | _ => True

instance (tok : Token τ) (self : Address) (s : State τ) : (a : Action τ) →
    Decidable (a.LendsSpare tok self s)
  | .call _ (.borrow ..) => inferInstanceAs (Decidable (_ ≤ _))
  | .call _ (.initializeContract ..) | .call _ (.registerCollateralType ..)
  | .call _ (.updateCollateralType ..) | .call _ (.deactivateCollateralType ..)
  | .call _ (.reactivateCollateralType ..) | .call _ (.setProtocolParameters ..)
  | .call _ (.setPrice ..) | .call _ (.pause ..) | .call _ (.unpause ..)
  | .call _ (.depositCollateral ..) | .call _ (.withdrawCollateral ..) | .call _ (.repayLoan ..)
  | .call _ (.liquidate ..) | .call _ (.accrueInterest ..) | .call _ (.accrueAllInterest ..)
  | .transfers _ => .isTrue trivial

/-- The recorded collateral of all users in a token. -/
def collateralIn (records : Store (Address × Address) UserCollateral) (t : Address) : ℤ :=
  records.total fun k record => if k.2 = t then record.amount else 0

structure Recorded (s : State τ) : Prop where
  keyed : ∀ k record, s.userCollateral.get? k = some record → (record.user, record.token) = k
  nonneg : ∀ k record, s.userCollateral.get? k = some record → 0 ≤ record.amount
  totals : ∀ t, s.totalCollateral.amount t = collateralIn s.userCollateral t
  bounded : ∀ t, s.totalCollateral.amount t ≤ I128.max
  unlocked : s.reentrancyLock = false

theorem Recorded.key (h : Recorded s) (user token : Address) :
    ((getUserCollateral s user token).user, (getUserCollateral s user token).token) =
      (user, token) := by
  unfold getUserCollateral
  cases hk : s.userCollateral.get? (user, token) with
  | none => rfl
  | some record => exact h.keyed _ record hk

theorem Recorded.amount_nonneg (h : Recorded s) (user token : Address) :
    0 ≤ (getUserCollateral s user token).amount := by
  unfold getUserCollateral
  cases hk : s.userCollateral.get? (user, token) with
  | none => exact le_rfl
  | some record => exact h.nonneg _ record hk

/-- What is recorded for a user weighs in the total of the token. -/
theorem weight_collateral (s : State τ) (user token t : Address) :
    s.userCollateral.weight (fun k record => if k.2 = t then record.amount else 0) (user, token) =
      if token = t then (getUserCollateral s user token).amount else 0 := by
  unfold getUserCollateral Store.weight
  cases s.userCollateral.get? (user, token) with
  | none => simp
  | some record => rfl

theorem Recorded.amount_le (h : Recorded s) (user token : Address) :
    (getUserCollateral s user token).amount ≤ s.totalCollateral.amount token := by
  have hle := Store.weight_le_total (s := s.userCollateral)
    (w := fun k record => if k.2 = token then record.amount else 0) (user, token) (by
      intro k record hk
      have := h.nonneg k record hk
      split <;> omega)
  rw [weight_collateral, if_pos rfl] at hle
  rw [h.totals]
  exact hle

/-- Record and total move by the same amount. -/
theorem Recorded.moved (h : Recorded s) (now : ℕ) {user token : Address} {d : ℤ}
    (hleft : 0 ≤ (getUserCollateral s user token).amount + d)
    (hfits : s.totalCollateral.amount token + d ≤ I128.max) :
    Recorded (withCollateral now user token ((getUserCollateral s user token).amount + d)
      (s.totalCollateral.amount token + d) s) := by
  have hkey := h.key user token
  unfold withCollateral setTotalCollateralForType setUserCollateral
  simp only [hkey]
  refine ⟨Store.forall_set h.keyed hkey, Store.forall_set h.nonneg hleft, fun t => ?_, fun t => ?_,
    h.unlocked⟩
  · unfold collateralIn
    rw [Store.total_set, weight_collateral, Store.amount_set_add, h.totals t]
    unfold collateralIn
    split <;> ring
  · rw [Store.amount_set]
    split
    · exact hfits
    · exact h.bounded t

theorem withCollateral_total (now : ℕ) (user token : Address) (amount total : ℤ) (s : State τ)
    (t : Address) :
    (withCollateral now user token amount total s).totalCollateral.amount t =
      if t = token then total else s.totalCollateral.amount t :=
  Store.amount_set _ _ _ _

theorem recorded_step (h : Recorded s) (heffect : Effect tok self s a s') : Recorded s' := by
  cases heffect with
  | transfers | configure | initializeContract | repayLoan =>
    exact ⟨h.keyed, h.nonneg, h.totals, h.bounded, by first | rfl | exact h.unlocked⟩
  | depositCollateral env user token amount tokens positive paid fits =>
    have h' : Recorded { s with tokens } := ⟨h.keyed, h.nonneg, h.totals, h.bounded, h.unlocked⟩
    exact h'.moved env.timestamp (add_nonneg (h.amount_nonneg user token) positive.le) fits
  | withdrawCollateral env user token amount tokens positive enough paid =>
    have h' : Recorded { s with tokens, reentrancyLock := false } :=
      ⟨h.keyed, h.nonneg, h.totals, h.bounded, rfl⟩
    exact h'.moved env.timestamp (d := -amount) (sub_nonneg.mpr enough)
      (add_le_of_le_of_nonpos (h.bounded token) (neg_nonpos.mpr positive.le))
  | borrow env user token amount s₁ debt rate tokens positive accrued =>
    obtain ⟨loan, totalDebt, rfl⟩ := accrueEach_frame accrued
    exact ⟨h.keyed, h.nonneg, h.totals, h.bounded, rfl⟩
  | liquidate env liquidator borrower loanId debtToCover loan loan' totals collToken seized tokens₁
      tokens positive found isOpen accrued nonneg enough =>
    have h' : Recorded { s with
        loan := s.loan.set loan.loanId
          (paidDown closeLiquidated loan' (min debtToCover loan'.totalDebt))
        totalDebt := totals.set loan.borrowToken
          (totals.amount loan.borrowToken - min debtToCover loan'.totalDebt)
        tokens, reentrancyLock := false } :=
      ⟨h.keyed, h.nonneg, h.totals, h.bounded, rfl⟩
    exact h'.moved env.timestamp (d := -seized) (sub_nonneg.mpr enough)
      (add_le_of_le_of_nonpos (h.bounded collToken) (neg_nonpos.mpr nonneg))
  | accrueInterest env borrower loanId s' accrued =>
    obtain ⟨loan, loan', totalDebt, -, -, rfl⟩ := accrueOne_ok accrued
    exact ⟨h.keyed, h.nonneg, h.totals, h.bounded, h.unlocked⟩
  | accrueAllInterest env borrower s' accrued =>
    obtain ⟨loan, totalDebt, rfl⟩ := accrueEach_frame accrued
    exact ⟨h.keyed, h.nonneg, h.totals, h.bounded, h.unlocked⟩

theorem recorded_deployed (tokens : τ) : Recorded (deployed tokens) where
  keyed _ _ hk := by cases hk
  nonneg _ _ hk := by cases hk
  totals _ := rfl
  bounded _ := by
    change (0 : ℤ) ≤ I128.max
    decide
  unlocked := rfl

/-- The account holds at least the collateral. -/
def Covered (tok : Token τ) (self : Address) (s : State τ) : Prop :=
  ∀ t, s.totalCollateral.amount t ≤ tok.balance s.tokens t self

theorem covered_step (hex : tok.Exact) (ho : a.Outside tok self s) (hl : a.LendsSpare tok self s)
    (h : Covered tok self s) (heffect : Effect tok self s a s') : Covered tok self s' := by
  intro t
  have ht := h t
  cases heffect with
  | transfers tokens => exact ht.trans (ho t)
  | configure | initializeContract => exact ht
  | depositCollateral env user token amount tokens positive paid =>
    have hin := hex.credit paid (notSelf ho) t
    rw [withCollateral_total]
    change _ ≤ tok.balance tokens t self
    rw [hin]
    by_cases he : t = token
    · simp only [he, if_true] at ht ⊢
      omega
    · simpa [he] using ht
  | withdrawCollateral env user token amount tokens positive enough paid =>
    have hout := hex.spend paid (notSelf ho) t
    rw [withCollateral_total]
    change _ ≤ tok.balance tokens t self
    rw [hout]
    by_cases he : t = token
    · simp only [he, if_true] at ht ⊢
      omega
    · simpa [he] using ht
  | borrow env user token amount s₁ debt rate tokens positive accrued owes backed paid =>
    obtain ⟨loan, totalDebt, rfl⟩ := accrueEach_frame accrued
    have hout := hex.spend paid (notSelf ho) t
    change amount ≤ tok.balance s.tokens token self - s.totalCollateral.amount token at hl
    change s.totalCollateral.amount t ≤ tok.balance tokens t self
    rw [hout]
    by_cases he : t = token
    · simp only [he, if_true] at ht ⊢
      omega
    · simpa [he] using ht
  | repayLoan env user loanId amount loan loan' totals tokens positive found isOpen accrued within
      paid =>
    have hin := hex.credit paid (notSelf ho) t
    change s.totalCollateral.amount t ≤ tok.balance tokens t self
    rw [hin]
    split <;> omega
  | liquidate env liquidator borrower loanId debtToCover loan loan' totals collToken seized tokens₁
      tokens positive found isOpen accrued nonneg enough covered seizes =>
    have hliquidator : liquidator ≠ self := by
      rintro rfl
      exact ho List.mem_cons_self
    have hin := hex.credit covered hliquidator t
    have hpaid := hex.amount _ _ _ _ _ _ covered
    have hout := hex.spend seizes hliquidator t
    rw [withCollateral_total]
    change _ ≤ tok.balance tokens t self
    rw [hout, hin]
    by_cases he : t = collToken
    · simp only [he, if_true] at ht ⊢
      split <;> omega
    · simp only [he, if_false]
      split <;> omega
  | accrueInterest env borrower loanId s' accrued =>
    obtain ⟨loan, loan', totalDebt, -, -, rfl⟩ := accrueOne_ok accrued
    exact ht
  | accrueAllInterest env borrower s' accrued =>
    obtain ⟨loan, totalDebt, rfl⟩ := accrueEach_frame accrued
    exact ht

/-- Loans that are all closed add nothing. -/
theorem sumDebts_closed {counts : Loan → Bool} (ids : List ℕ) (total : ℤ)
    (h : ∀ id ∈ ids, ∃ loan, s.loan.get? id = some loan ∧ ¬ loan.Open) :
    sumDebts counts s ids total = .ok total := by
  induction ids with
  | nil => rfl
  | cons id rest ih =>
    obtain ⟨loan, hk, hclosed⟩ := h id List.mem_cons_self
    unfold sumDebts
    rw [hk]
    change (if _ then _ else _) = _
    rw [if_neg fun hopen => hclosed ⟨hopen.1, hopen.2.1⟩]
    exact ih fun id' hmem => h id' (List.mem_cons_of_mem id hmem)

/-- No open loan of the user is stored. -/
def DebtFree (s : State τ) (user : Address) : Prop :=
  ∀ id loan, s.loan.get? id = some loan → loan.borrower = user →
    loan.isRepaid = true ∨ loan.isLiquidated = true

theorem DebtFree.userTotalDebt {user : Address} (h : DebtFree s user) (hb : Booked s) :
    userTotalDebt s user = .ok 0 := by
  apply sumDebts_closed
  intro id hmem
  obtain ⟨loan, hk, hborrower⟩ := (hb.listed user id).mp hmem
  refine ⟨loan, hk, fun hopen => ?_⟩
  rcases h id loan hk hborrower with hclosed | hclosed
  · cases hopen.2.symm.trans hclosed
  · cases hopen.1.symm.trans hclosed

theorem inRange_of_nonneg_of_le {n m : ℤ} (hn : 0 ≤ n) (hle : n ≤ m) (hm : m ≤ I128.max) :
    I128.InRange n := by
  refine ⟨?_, hle.trans hm⟩
  have hmin : I128.min ≤ 0 := by decide
  omega

/-- All recorded collateral leaves together, once the health check passes. -/
theorem withdrawInternal_all {env : Ledger} {user token : Address} {tokens : τ}
    (hsome : 0 < (getUserCollateral s user token).amount)
    (hle : (getUserCollateral s user token).amount ≤ s.totalCollateral.amount token)
    (hmax : s.totalCollateral.amount token ≤ I128.max)
    (hcheck : checkWithdrawal env user token 0 s = .ok ())
    (hpay : tok.pay s.tokens token self user (getUserCollateral s user token).amount = .ok tokens) :
    withdrawInternal tok self env user token (getUserCollateral s user token).amount s =
      .ok (withCollateral env.timestamp user token 0
        (s.totalCollateral.amount token - (getUserCollateral s user token).amount)
        { s with tokens }) := by
  have hzero : I128.sub (getUserCollateral s user token).amount
      (getUserCollateral s user token).amount = .ok 0 := by
    unfold I128.sub
    rw [sub_self]
    exact I128.fit_ok.mpr ⟨I128.inRange_zero, rfl⟩
  have hleft : I128.sub (s.totalCollateral.amount token) (getUserCollateral s user token).amount =
      .ok (s.totalCollateral.amount token - (getUserCollateral s user token).amount) :=
    I128.fit_ok.mpr ⟨inRange_of_nonneg_of_le (sub_nonneg.mpr hle) (sub_le_self _ hsome.le) hmax, rfl⟩
  unfold withdrawInternal
  rw [panicIf_of_not (not_le.mpr hsome)]
  change (panicIf ((getUserCollateral s user token).amount < _) _ >>= fun _ =>
    I128.sub (getUserCollateral s user token).amount _ >>= _) = _
  rw [panicIf_of_not (lt_irrefl _), ok_bind, hzero, ok_bind, hcheck, ok_bind, hpay, ok_bind]
  change (I128.sub (s.totalCollateral.amount token) _ >>= _) = _
  rw [hleft]
  rfl

/-- Without debt, all recorded collateral is paid back. -/
theorem withdrawCollateral_all (hhonours : tok.Honours) (hb : Booked s) (h : Recorded s)
    (hcovered : Covered tok self s) {env : Ledger} {user token : Address}
    (hauth : env.authorized user = true) (hpaused : s.paused = false) (hfree : DebtFree s user)
    (hsome : 0 < (getUserCollateral s user token).amount) :
    ∃ s', withdrawCollateral tok self env user token (getUserCollateral s user token).amount s =
        .ok s' ∧ (getUserCollateral s' user token).amount = 0 := by
  have hkey := h.key user token
  have hle := h.amount_le user token
  obtain ⟨tokens, hpaid⟩ := hhonours s.tokens token self user _ hsome.le (hle.trans (hcovered token))
  -- The check passes with the lock held.
  have hdebt : userTotalDebt { s with reentrancyLock := true } user = .ok 0 :=
    DebtFree.userTotalDebt (s := { s with reentrancyLock := true }) hfree
      ⟨hb.fresh, hb.numbered, hb.sound, hb.totals, hb.listed, hb.once⟩
  have hcheck : checkWithdrawal env user token 0 { s with reentrancyLock := true } = .ok () := by
    unfold checkWithdrawal
    rw [hdebt]
    rfl
  have hinner : withdrawInternal tok self env user token (getUserCollateral s user token).amount
      { s with reentrancyLock := true } = .ok (withCollateral env.timestamp user token 0
        (s.totalCollateral.amount token - (getUserCollateral s user token).amount)
        { s with tokens, reentrancyLock := true }) :=
    withdrawInternal_all (s := { s with reentrancyLock := true }) hsome hle (h.bounded token) hcheck
      (tok.pay_ok.mpr hpaid)
  refine ⟨withCollateral env.timestamp user token 0
    (s.totalCollateral.amount token - (getUserCollateral s user token).amount)
    { s with tokens, reentrancyLock := false }, ?_, ?_⟩
  · unfold withdrawCollateral requireAuth checkPaused withGuard
    rw [if_pos hauth, ok_bind, panicIf_of_not (by simp [hpaused]), ok_bind,
      panicIf_of_not (by simp [h.unlocked]), ok_bind, hinner]
    rfl
  · unfold withCollateral setTotalCollateralForType setUserCollateral
    unfold getUserCollateral at hkey ⊢
    simp [hkey]

/-- Where the only loan is somebody else's. -/
theorem Booked.debtFree_of_one (hb : Booked s) {user : Address} {loan : Loan}
    (hcounter : s.loanCounter = 1) (hk : s.loan.get? 0 = some loan) (hne : loan.borrower ≠ user) :
    DebtFree s user := by
  intro id loan' hk' hborrower
  have hid := (hb.numbered id loan' hk').2
  obtain rfl : id = 0 := by omega
  obtain rfl : loan = loan' := Option.some.inj (hk.symm.trans hk')
  exact absurd hborrower hne

/-- In every run in which loans are paid out of what the account holds beyond the collateral,
the total of each token is what is recorded for its users, none of it negative, the account
covers the total, and a user without debt can withdraw all that is recorded. -/
theorem collateral_covered (hex : tok.Exact) {tokens : τ} {log : List (State τ × Action τ)}
    (hrun : History (next tok self)
      (fun _ s a => a.Outside tok self s ∧ a.LendsSpare tok self s) (deployed tokens) log s) :
    (∀ t, s.totalCollateral.amount t =
      s.userCollateral.total fun k record => if k.2 = t then record.amount else 0) ∧
    (∀ user t, 0 ≤ (getUserCollateral s user t).amount) ∧
    (∀ t, s.totalCollateral.amount t ≤ tok.balance s.tokens t self) ∧
    (tok.Honours → ∀ (env : Ledger) (user t : Address), env.authorized user = true →
      s.paused = false → DebtFree s user → 0 < (getUserCollateral s user t).amount →
      ∃ s', withdrawCollateral tok self env user t (getUserCollateral s user t).amount s = .ok s' ∧
        (getUserCollateral s' user t).amount = 0) := by
  have hbooked : Booked s :=
    Reachable.booked ⟨tokens, hrun.steps fun _ _ _ _ => trivial⟩
  have hheld : Recorded s ∧ Covered tok self s := by
    refine hrun.preserves (P := fun _ s => Recorded s ∧ Covered tok self s)
      ⟨recorded_deployed tokens, fun t => hex.nonneg tokens t self⟩ ?_
    rintro log s a s' ⟨ho, hl⟩ hn ⟨hrecorded, hcovered⟩
    have heffect := next_effect hn
    exact ⟨recorded_step hrecorded heffect, covered_step hex ho hl hcovered heffect⟩
  obtain ⟨hrecorded, hcovered⟩ := hheld
  refine ⟨hrecorded.totals, hrecorded.amount_nonneg, hcovered, ?_⟩
  intro hhonours env user t hauth hpaused hfree hsome
  exact withdrawCollateral_all hhonours hbooked hrecorded hcovered hauth hpaused hfree hsome

section Runs

open Sample

/-- Alice borrows and is liquidated while Carol's deposit stays untouched. -/
def lending : List (ℕ × Op) := opening ++ [
  (0, .depositCollateral carol gold 10000),
  (0, .borrow alice usdc 6000),
  (0, .repayLoan alice 0 1000),
  (0, .setPrice admin "GOLD" 3),
  (0, .liquidate bob alice 0 5000)]

theorem collateral_covered_lending :
    ∃ s log, History (next asset contract)
        (fun _ s a => a.Outside asset contract s ∧ a.LendsSpare asset contract s) start log s ∧
      s.totalCollateral.amount gold ≤ asset.balance s.tokens gold contract ∧
      (getUserCollateral s alice gold).amount = 8250 ∧
      ∃ s', withdrawCollateral asset contract (env 0) carol gold 10000 s = .ok s' ∧
        (getUserCollateral s' carol gold).amount = 0 := by
  have h : After (fun h => (getUserCollateral h.2 alice gold).amount = 8250 ∧
        (getUserCollateral h.2 carol gold).amount = 10000 ∧ h.2.paused = false ∧
        h.2.loanCounter = 1 ∧ ∃ loan ∈ h.2.loan.get? 0, loan.borrower = alice)
      (record (next asset contract) (fun _ s a => a.LendsSpare asset contract s) (calls lending)
        ([], start)) := by
    decide +kernel
  obtain ⟨⟨log, s⟩, hrec, halice, hcarol, hpaused, hcounter, loan, hk, hborrower⟩ := h.exists_ok
  have hparties : ∀ e ∈ lending, contract ∉ e.2.parties := by decide
  have hrun : History (next asset contract)
      (fun _ s a => a.Outside asset contract s ∧ a.LendsSpare asset contract s) start log s :=
    record_map_history hrec fun e he _ _ hlends => ⟨hparties e he, hlends⟩
  have hbooked : Booked s := Reachable.booked ⟨_, hrun.steps fun _ _ _ _ => trivial⟩
  have hfree : DebtFree s carol := hbooked.debtFree_of_one hcounter hk (by rw [hborrower]; decide)
  obtain ⟨-, -, hcovered, hwithdraw⟩ := collateral_covered asset_exact hrun
  refine ⟨s, log, hrun, hcovered gold, halice, ?_⟩
  have hall := hwithdraw asset_honours (env 0) carol gold rfl hpaused hfree
    (by simp only [hcarol]; decide)
  simp only [hcarol] at hall
  exact hall

/-- Alice borrows gold, of which the contract holds nothing but the collateral. -/
def lendingCollateral : List (ℕ × Op) := opening ++ [
  (0, .depositCollateral carol gold 10000),
  (0, .borrow alice gold 16000)]

/-- The account no longer covers the gold of the depositors, and Carol, who owes nothing, is
refused. -/
theorem collateral_lent :
    ∃ s log, History (next asset contract) (fun _ s a => a.Outside asset contract s) start log s ∧
      (s.collateralType.get? gold).isSome = true ∧
      ¬ s.totalCollateral.amount gold ≤ asset.balance s.tokens gold contract ∧
      DebtFree s carol ∧ (getUserCollateral s carol gold).amount = 10000 ∧
      ∀ s', withdrawCollateral asset contract (env 0) carol gold 10000 s ≠ .ok s' := by
  have h : After (fun h => (h.2.collateralType.get? gold).isSome = true ∧
        h.2.totalCollateral.amount gold = 20000 ∧ asset.balance h.2.tokens gold contract = 4000 ∧
        (getUserCollateral h.2 carol gold).amount = 10000 ∧
        ¬ After (fun _ => True) (withdrawCollateral asset contract (env 0) carol gold 10000 h.2) ∧
        h.2.loanCounter = 1 ∧ ∃ loan ∈ h.2.loan.get? 0, loan.borrower = alice)
      (record (next asset contract) (fun _ _ _ => True) (calls lendingCollateral) ([], start)) := by
    decide +kernel
  obtain ⟨⟨log, s⟩, hrec, hregistered, htotal, hbalance, hcarol, hrefused, hcounter, loan, hk,
    hborrower⟩ := h.exists_ok
  have hparties : ∀ e ∈ lendingCollateral, contract ∉ e.2.parties := by decide
  have hrun : History (next asset contract) (fun _ s a => a.Outside asset contract s) start log s :=
    record_map_history hrec fun e he _ _ _ => hparties e he
  have hbooked : Booked s := Reachable.booked ⟨_, hrun.steps fun _ _ _ _ => trivial⟩
  refine ⟨s, log, hrun, hregistered, ?_, hbooked.debtFree_of_one hcounter hk ?_, hcarol,
    fun s' hs' => ?_⟩
  · simp only at htotal hbalance
    omega
  · rw [hborrower]
    decide
  · apply hrefused
    simp only [hs', After]

end Runs

end CollateralManagement
