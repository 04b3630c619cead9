import StellAIverse.TokenVesting.Revocation

/-!
# Amounts that are too large

Two products are checked: the total by the elapsed time, and what is not released
by the penalty. No creation and no change of a schedule bounds them, so that the
calls that compute them trap for large amounts, and only for these.
-/

namespace TokenVesting

open Soroban

variable {τ : Type} {tok : Token τ} {self : Address} {s s' : State τ} {a : Action τ}
  {op : Op} {log : List (State τ × Action τ)} {now id t : ℕ} {p : VestingSchedule}

/-- While the schedule releases, its total by the elapsed time fits. -/
def VestingSchedule.Scales (schedule : VestingSchedule) (t : ℕ) : Prop :=
  schedule.cliffTime ≤ t → schedule.startTime < t → t < schedule.endTime →
    I128.InRange (schedule.totalAmount * (t - schedule.startTime : ℕ))

/-- What is not released fits by the penalty. -/
def VestingSchedule.PenaltyScales (schedule : VestingSchedule) (t : ℕ) : Prop :=
  I128.InRange ((schedule.totalAmount - schedule.vestedAt t) * schedule.earlyPenaltyBps)

instance (schedule : VestingSchedule) (t : ℕ) : Decidable (schedule.Scales t) :=
  inferInstanceAs (Decidable (_ → _ → _ → _))

instance (schedule : VestingSchedule) (t : ℕ) : Decidable (schedule.PenaltyScales t) :=
  inferInstanceAs (Decidable (I128.InRange _))

theorem vestedFor_scales (ho : p.Ordered) (h0 : 0 ≤ p.totalAmount) (hfits : I128.InRange p.totalAmount)
    (h : p.Scales t) : vestedFor p t = .ok (p.vestedAt t) := by
  have hbounds := vestedAt_bounds ho h0 t
  have hvested : I128.InRange (p.vestedAt t) := hfits.of_le hbounds.1 hbounds.2
  obtain ⟨-, -, hlt⟩ := ho
  unfold vestedFor
  unfold VestingSchedule.vestedAt at hvested ⊢
  split
  · rfl
  · rename_i hlate
    rw [if_neg hlate] at hvested
    split
    · rfl
    · rename_i hbefore
      rw [if_neg hbefore] at hvested
      rw [U64.checkedSub, if_pos (by omega), ok_bind, U64.checkedSub, if_pos (by omega), ok_bind,
        if_neg (by omega), I128.checked_of_inRange (h (by omega) (by omega) (by omega)), ok_bind]
      exact I128.div_ok.mpr ⟨by omega, hvested, rfl⟩

theorem vestedFor_too_large (h : ¬ p.Scales t) :
    vestedFor p t = .error (.panic "Vesting multiplication overflow") := by
  unfold VestingSchedule.Scales at h
  simp only [Classical.not_imp] at h
  obtain ⟨hcliff, hstart, hend, hlarge⟩ := h
  unfold vestedFor
  rw [if_neg (by omega), if_neg (by omega), U64.checkedSub, if_pos (by omega), ok_bind,
    U64.checkedSub, if_pos (by omega), ok_bind, if_neg (by omega), I128.checked, if_neg hlarge]
  rfl

theorem claimableFromVested_fits (h0 : 0 ≤ p.claimedAmount) {vested : ℤ}
    (hfits : I128.InRange vested) :
    claimableFromVested p vested = .ok (max (vested - p.claimedAmount) 0) := by
  unfold claimableFromVested
  split
  · rw [max_eq_right (by omega)]
  · rw [I128.checked_of_inRange (hfits.of_le (by omega) (by omega)), max_eq_left (by omega)]

theorem calculatePenalty_scales {unvested : ℤ} {penaltyBps : ℕ} (h0 : 0 ≤ unvested)
    (hle : penaltyBps ≤ maxPenaltyBps) (hfits : I128.InRange unvested)
    (h : I128.InRange (unvested * penaltyBps)) :
    calculatePenalty unvested penaltyBps = .ok (penaltyOf unvested penaltyBps) := by
  have hbounds := penaltyOf_bounds h0 hle
  have hpenalty : I128.InRange (penaltyOf unvested penaltyBps) := hfits.of_le hbounds.1 hbounds.2
  unfold calculatePenalty
  unfold penaltyOf at hpenalty ⊢
  split
  · rfl
  · rename_i hsome
    rw [if_neg hsome] at hpenalty
    rw [I128.checked_of_inRange h, ok_bind]
    exact I128.div_ok.mpr ⟨by decide, hpenalty, rfl⟩

theorem calculatePenalty_ok_inRange {unvested penalty : ℤ} {penaltyBps : ℕ} (h0 : 0 ≤ unvested)
    (h : calculatePenalty unvested penaltyBps = .ok penalty) :
    I128.InRange (unvested * penaltyBps) := by
  unfold calculatePenalty at h
  split at h
  · rename_i hnone
    have hzero : unvested * (penaltyBps : ℤ) = 0 := by
      rcases hnone with hle | rfl
      · rw [le_antisymm hle h0, zero_mul]
      · rw [Nat.cast_zero, mul_zero]
    rw [hzero]
    exact I128.inRange_zero
  · exact (I128.checked_bind.mp h).1

/-- Every fault of an addition, a subtraction, a product or a quotient. -/
def arithmeticFaults : List Fault := [
  .overflow, .divisionByZero,
  .panic "Timestamp before schedule start", .panic "Schedule end before start",
  .panic "Vesting multiplication overflow", .panic "Claimable underflow", .panic "Claim overflow",
  .panic "Unvested underflow", .panic "Penalty multiplication overflow",
  .panic "Penalty exceeds unvested amount", .panic "Early withdrawal payout overflow",
  .panic "Refund underflow"]

/-- The call traps on its arithmetic. -/
def Overflows {α : Type} (x : Result α) : Prop := ∃ fault ∈ arithmeticFaults, x = .error fault

theorem not_overflows {α : Type} {x : Result α} (h : ∀ fault ∈ arithmeticFaults, Avoids fault x) :
    ¬ Overflows x := by
  rintro ⟨fault, hfault, hx⟩
  exact h fault hfault hx

section Faults

variable {fault : Fault} {env : Env}

theorem ne_of_arithmetic (hfault : fault ∈ arithmeticFaults) {other : Fault}
    (h : other ∉ arithmeticFaults) : fault ≠ other := by
  rintro rfl
  exact h hfault

theorem loadSchedule_avoids (hfault : fault ∈ arithmeticFaults) : Avoids fault (loadSchedule s id) :=
  (panicIf_avoids (ne_of_arithmetic hfault (by decide))).bind fun _ _ =>
    expect_avoids (ne_of_arithmetic hfault (by decide))

theorem loadSchedule_stored {q : VestingSchedule} (hk : s.schedule.get? id = some p)
    (h : loadSchedule s id = .ok q) : q = p := by
  obtain ⟨-, q', hq', hsame⟩ := loadSchedule_bind.mp ((bind_pure _).trans h)
  cases hsame
  exact Option.some.inj (hq'.symm.trans hk)

theorem assertAdmin_avoids (hfault : fault ∈ arithmeticFaults) {admin : Address} :
    Avoids fault (assertAdmin s admin) :=
  (expect_avoids (ne_of_arithmetic hfault (by decide))).bind fun _ _ =>
    panicIf_avoids (ne_of_arithmetic hfault (by decide))

theorem payment_avoids (hfault : fault ∈ arithmeticFaults) {token source target : Address}
    {amount : ℤ} : Avoids fault (transferToken tok s token source target amount) :=
  transferToken_avoids (ne_of_arithmetic hfault (by decide)) (ne_of_arithmetic hfault (by decide))
    (ne_of_arithmetic hfault (by decide))

theorem transferTokenUnchecked_avoids (hfault : fault ∈ arithmeticFaults)
    {token source target : Address} {amount : ℤ} :
    Avoids fault (transferTokenUnchecked tok s token source target amount) :=
  (panicIf_avoids (ne_of_arithmetic hfault (by decide))).bind fun _ _ =>
    (tok.pay_avoids (ne_of_arithmetic hfault (by decide))).bind fun _ _ => avoids_ok _

theorem transferIfPositive_avoids
    {pay : State τ → Address → Address → Address → ℤ → Result (State τ)}
    {token source target : Address} {amount : ℤ} (h : Avoids fault (pay s token source target amount)) :
    Avoids fault (transferIfPositive pay s token source target amount) := by
  unfold transferIfPositive
  split
  · exact h
  · exact avoids_ok s

/-- The amounts of a schedule fit, and it scales at the time of the call. -/
structure Computes (now : ℕ) (p : VestingSchedule) : Prop where
  ordered : p.Ordered
  claimed : 0 ≤ p.claimedAmount
  within : p.claimedAmount ≤ p.totalAmount
  penalty : p.earlyPenaltyBps ≤ maxPenaltyBps
  total : I128.InRange p.totalAmount
  scales : p.Scales now

theorem Computes.bounds (h : Computes now p) :
    0 ≤ p.vestedAt now ∧ p.vestedAt now ≤ p.totalAmount :=
  vestedAt_bounds h.ordered (h.claimed.trans h.within) now

theorem Computes.vested (h : Computes now p) : vestedFor p now = .ok (p.vestedAt now) :=
  vestedFor_scales h.ordered (h.claimed.trans h.within) h.total h.scales

theorem Computes.claimable (h : Computes now p) :
    claimableFromVested p (p.vestedAt now) = .ok (max (p.vestedAt now - p.claimedAmount) 0) :=
  claimableFromVested_fits h.claimed (h.total.of_le h.bounds.1 h.bounds.2)

theorem claim_avoids (hfault : fault ∈ arithmeticFaults) (hk : s.schedule.get? id = some p)
    (h : Computes env.timestamp p) {beneficiary : Address} :
    Avoids fault (claim tok self env id beneficiary s) := by
  have hbounds := h.bounds
  have hwithin := h.within
  have hclaimed := h.claimed
  unfold claim claimOne
  refine (requireAuth_avoids (ne_of_arithmetic hfault (by decide))).bind fun _ _ =>
    Avoids.bind ((loadSchedule_avoids hfault).bind fun q hq => ?_) fun r _ =>
      (panicIf_avoids (ne_of_arithmetic hfault (by decide))).bind fun _ _ => avoids_ok _
  obtain rfl := loadSchedule_stored hk hq
  refine (panicIf_avoids (ne_of_arithmetic hfault (by decide))).bind fun _ _ => ?_
  split
  · rw [if_pos rfl]
    exact error_avoids (ne_of_arithmetic hfault (by decide))
  · rw [h.vested, ok_bind, h.claimable, ok_bind]
    split
    · rw [if_pos rfl]
      exact error_avoids (ne_of_arithmetic hfault (by decide))
    · have hsum : I128.InRange
          (q.claimedAmount + max (q.vestedAt env.timestamp - q.claimedAmount) 0) :=
        h.total.of_le (by omega) (by omega)
      rw [I128.checked_of_inRange hsum, ok_bind]
      exact (payment_avoids hfault).bind fun _ _ => avoids_ok _

theorem earlyWithdraw_avoids (hfault : fault ∈ arithmeticFaults)
    (hk : s.schedule.get? id = some p) (h : Computes env.timestamp p)
    (hpenalty : p.PenaltyScales env.timestamp) {beneficiary : Address} :
    Avoids fault (earlyWithdraw tok self env id beneficiary s) := by
  have hbounds := h.bounds
  have hwithin := h.within
  have hclaimed := h.claimed
  have hunvested : 0 ≤ p.totalAmount - p.vestedAt env.timestamp := by omega
  have hfits : I128.InRange (p.totalAmount - p.vestedAt env.timestamp) :=
    h.total.of_le hunvested (by omega)
  have hpart := penaltyOf_bounds hunvested h.penalty
  unfold earlyWithdraw
  refine (requireAuth_avoids (ne_of_arithmetic hfault (by decide))).bind fun _ _ =>
    (loadSchedule_avoids hfault).bind fun q hq => ?_
  obtain rfl := loadSchedule_stored hk hq
  refine (panicIf_avoids (ne_of_arithmetic hfault (by decide))).bind fun _ _ =>
    (panicIf_avoids (ne_of_arithmetic hfault (by decide))).bind fun _ _ =>
    (panicIf_avoids (ne_of_arithmetic hfault (by decide))).bind fun _ _ => ?_
  rw [h.vested, ok_bind, h.claimable, ok_bind, I128.checked_of_inRange hfits, ok_bind,
    calculatePenalty_scales hunvested h.penalty hfits hpenalty, ok_bind,
    I128.checked_of_inRange (hfits.of_le (by omega) (by omega)), ok_bind,
    I128.checked_of_inRange (h.total.of_le (by omega) (by omega)), ok_bind]
  refine (panicIf_avoids (ne_of_arithmetic hfault (by decide))).bind fun _ _ => Avoids.bind ?_
    fun _ _ => (transferIfPositive_avoids (transferTokenUnchecked_avoids hfault)).bind fun _ _ =>
      (transferIfPositive_avoids (transferTokenUnchecked_avoids hfault)).bind fun _ _ => avoids_ok _
  exact (panicIf_avoids (ne_of_arithmetic hfault (by decide))).bind fun _ _ => avoids_ok _

theorem revokeSchedule_avoids (hfault : fault ∈ arithmeticFaults)
    (hk : s.schedule.get? id = some p) (h : Computes env.timestamp p) {admin : Address} :
    Avoids fault (revokeSchedule tok self env admin id s) := by
  have hbounds := h.bounds
  unfold revokeSchedule
  refine (requireAuth_avoids (ne_of_arithmetic hfault (by decide))).bind fun _ _ =>
    (assertAdmin_avoids hfault).bind fun _ _ => (loadSchedule_avoids hfault).bind fun q hq => ?_
  obtain rfl := loadSchedule_stored hk hq
  refine (panicIf_avoids (ne_of_arithmetic hfault (by decide))).bind fun _ _ =>
    (panicIf_avoids (ne_of_arithmetic hfault (by decide))).bind fun _ _ => ?_
  rw [h.vested, ok_bind, I128.checked_of_inRange (h.total.of_le (by omega) (by omega)), ok_bind]
  exact (transferIfPositive_avoids (payment_avoids hfault)).bind fun _ _ => avoids_ok _

end Faults

theorem earlyWithdraw_ok {env : Env} {beneficiary : Address} {r : EarlyWithdrawalResult × State τ}
    (h : earlyWithdraw tok self env id beneficiary s = .ok r) (hk : s.schedule.get? id = some p) :
    vestedFor p env.timestamp = .ok (p.vestedAt env.timestamp) ∧
      ∃ penalty, calculatePenalty (p.totalAmount - p.vestedAt env.timestamp) p.earlyPenaltyBps =
        .ok penalty := by
  unfold earlyWithdraw at h
  rw [requireAuth_bind, loadSchedule_bind] at h
  obtain ⟨-, -, q, hfound, h⟩ := h
  obtain rfl := Option.some.inj (hk.symm.trans hfound)
  rw [panicIf_bind, panicIf_bind, panicIf_bind] at h
  obtain ⟨-, -, -, h⟩ := h
  obtain ⟨vested, hvested, h⟩ := bind_ok.mp h
  obtain rfl := vestedFor_ok hvested
  obtain ⟨claimable, -, h⟩ := bind_ok.mp h
  rw [I128.checked_bind] at h
  obtain ⟨penalty, hpenalty, -⟩ := bind_ok.mp h.2
  exact ⟨hvested, penalty, hpenalty⟩

/-- The amounts of a creation are of the type that they have in the source. -/
def Action.AmountsFit : Action τ → Prop
  | .call _ (.createSchedule _ _ _ totalAmount _) => I128.InRange totalAmount
  | .call _ (.createSchedulesBatch _ _ _ amounts _) => ∀ amount ∈ amounts, I128.InRange amount
  | _ => True

instance : DecidablePred (Action.AmountsFit : Action τ → Prop)
  | .call _ (.createSchedule ..) => inferInstanceAs (Decidable (I128.InRange _))
  | .call _ (.createSchedulesBatch ..) => inferInstanceAs (Decidable (∀ amount ∈ _, _))
  | .call _ (.initializeContract ..) | .call _ (.claim ..) | .call _ (.claimBatch ..)
  | .call _ (.earlyWithdraw ..) | .call _ (.modifySchedule ..)
  | .call _ (.increaseScheduleAmount ..) | .call _ (.revokeSchedule ..) | .transfers _ =>
    .isTrue trivial

def TotalsFit (s : State τ) : Prop :=
  ∀ id schedule, s.schedule.get? id = some schedule → I128.InRange schedule.totalAmount

theorem TotalsFit.storedAll (h : TotalsFit s) {terms : Terms} {entries : List (Address × ℤ)}
    (hentries : ∀ e ∈ entries, I128.InRange e.2) (time : ℕ) (funder token : Address) :
    TotalsFit (storedAll terms time funder token entries s) := by
  induction entries generalizing s with
  | nil => exact h
  | cons e rest ih =>
    obtain ⟨hhead, htail⟩ := List.forall_mem_cons.mp hentries
    have hstored : TotalsFit (stored terms time funder token s e.1 e.2) := Store.forall_set h hhead
    exact ih hstored htail

theorem Claims.totalsFit {beneficiary : Address} (h : Claims tok self now beneficiary s s')
    (hs : TotalsFit s) : TotalsFit s' := by
  induction h with
  | refl => exact hs
  | tail _ hstep ih =>
    cases hstep with
    | mk id schedule tokens found => exact Store.forall_set ih (ih id schedule found)

theorem increaseScheduleAmount_inRange {funder : Address} {amount : ℤ} {r : VestingSchedule × State τ}
    (h : increaseScheduleAmount tok self env funder id amount s = .ok r)
    (hk : s.schedule.get? id = some p) : I128.InRange (p.totalAmount + amount) := by
  unfold increaseScheduleAmount validateAmount at h
  rw [requireAuth_bind, panicIf_bind, loadSchedule_bind] at h
  obtain ⟨-, -, -, q, hfound, h⟩ := h
  obtain rfl := Option.some.inj (hk.symm.trans hfound)
  rw [panicIf_bind, panicIf_bind, I128.checked_bind] at h
  exact h.2.2.1

theorem totalsFit_created {env : Env} (h : TotalsFit s) (hfits : (Action.call env op : Action τ).AmountsFit)
    (hn : next tok self (.call env op) s = .ok s') {funder : Address}
    (hcreator : op.creator = some funder) : TotalsFit s' := by
  cases op with
  | createSchedule funder token beneficiary amount terms =>
    obtain ⟨r, hr, rfl⟩ := map_ok.mp hn
    obtain ⟨-, -, tokens, -, hstored⟩ := createSchedule_ok hr
    rw [hstored]
    have hkept : TotalsFit { s with tokens, reentrancyLock := false } := h
    have hentries : ∀ e ∈ [(beneficiary, amount)], I128.InRange e.2 :=
      List.forall_mem_singleton.mpr hfits
    exact hkept.storedAll hentries _ _ _
  | createSchedulesBatch funder token beneficiaries amounts terms =>
    obtain ⟨r, hr, rfl⟩ := map_ok.mp hn
    obtain ⟨-, -, -, tokens, -, hstored⟩ := createSchedulesBatch_ok hr
    rw [hstored]
    have hkept : TotalsFit { s with tokens, reentrancyLock := false } := h
    exact hkept.storedAll (fun e he => hfits e.2 (List.of_mem_zip he).2) _ _ _
  | _ => cases hcreator

theorem totalsFit_call {env : Env} (hs : AllSound env.timestamp s) (h : TotalsFit s)
    (hfits : (Action.call env op : Action τ).AmountsFit)
    (hn : next tok self (.call env op) s = .ok s') : TotalsFit s' := by
  cases next_effect hn with
  | initializeContract => exact h
  | creates _ _ funder token terms entries tokens batch creator =>
    exact totalsFit_created h hfits hn creator
  | claims _ _ beneficiary s₁ batch claimant claims => exact claims.totalsFit h
  | earlyWithdraw _ id _ schedule _ _ _ found => exact Store.forall_set h (h id schedule found)
  | modifySchedule _ _ id _ schedule _ _ _ _ _ retimed found _ _ _ retimed_eq =>
    refine Store.forall_set h ?_
    rw [retimed_eq]
    exact h id schedule found
  | increaseScheduleAmount _ _ id amount schedule _ _ found =>
    obtain ⟨r, hr, -⟩ := map_ok.mp hn
    exact Store.forall_set h (increaseScheduleAmount_inRange hr found)
  | revokeSchedule _ _ id schedule vested _ _ found _ vested_eq =>
    -- What is left of the total is what was released of it.
    have hsound := hs id schedule found
    have hbounds := vestedAt_bounds hsound.ordered (hsound.claimed.trans hsound.within) env.timestamp
    rw [← vested_eq] at hbounds
    exact Store.forall_set h ((h id schedule found).of_le hbounds.1 hbounds.2)

/-- The calls come in the order of ledger time, with amounts that fit. -/
def Admits (log : List (State τ × Action τ)) (a : Action τ) : Prop :=
  OnTime Action.time log a ∧ a.AmountsFit

instance (log : List (State τ × Action τ)) (a : Action τ) : Decidable (Admits log a) :=
  inferInstanceAs (Decidable (_ ∧ _))

theorem history_totalsFit {tokens : τ}
    (hrun : History (next tok self) (fun log _ a => Admits log a) (deployed tokens) log s) :
    AllSound (clock Action.time log) s ∧ TotalsFit s := by
  refine hrun.preserves (P := fun log s => AllSound (clock Action.time log) s ∧ TotalsFit s)
    ⟨fun _ _ hk => (by cases hk), fun _ _ hk => (by cases hk)⟩ ?_
  rintro log s a s' ⟨htime, hfits⟩ hn ⟨hs, h⟩
  refine ⟨allSound_step htime hs hn, ?_⟩
  have hlater := hs.later (htime.clock_le s)
  cases a with
  | call env op => exact totalsFit_call hlater h hfits hn
  | transfers tokens =>
    cases hn
    exact h

/-- What is computed for a schedule at a time: nothing traps on its arithmetic where the two
products fit, and where one does not, what needs it does not complete. -/
structure Calculates (tok : Token τ) (account : Address) (s : State τ) (id : ℕ) (p : VestingSchedule)
    (env : Env) : Prop where
  vested : p.Scales env.timestamp → vestedFor p env.timestamp = .ok (p.vestedAt env.timestamp)
  too_large : ¬ p.Scales env.timestamp →
    vestedFor p env.timestamp = .error (.panic "Vesting multiplication overflow")
  claims : p.Scales env.timestamp → ∀ beneficiary,
    ¬ Overflows (claim tok account env id beneficiary s)
  claims_not : ¬ p.Scales env.timestamp → ∀ beneficiary r,
    claim tok account env id beneficiary s ≠ .ok r
  withdraws : p.Scales env.timestamp ∧ p.PenaltyScales env.timestamp → ∀ beneficiary,
    ¬ Overflows (earlyWithdraw tok account env id beneficiary s)
  withdraws_not : ¬ (p.Scales env.timestamp ∧ p.PenaltyScales env.timestamp) → ∀ beneficiary r,
    earlyWithdraw tok account env id beneficiary s ≠ .ok r
  revokes : p.Scales env.timestamp → ∀ admin,
    ¬ Overflows (revokeSchedule tok account env admin id s)
  revokes_not : ¬ p.Scales env.timestamp → ∀ admin r,
    revokeSchedule tok account env admin id s ≠ .ok r

/-- For every schedule that the contract has accepted, and every time, the two products are all
that can overflow. -/
theorem only_products_overflow {tokens : τ}
    (hrun : History (next tok self) (fun log _ a => Admits log a) (deployed tokens) log s)
    (hk : s.schedule.get? id = some p) (env : Env) : Calculates tok self s id p env := by
  obtain ⟨hall, htotals⟩ := history_totalsFit hrun
  have hs := hall id p hk
  have hcomputes : p.Scales env.timestamp → Computes env.timestamp p := fun hscales =>
    ⟨hs.ordered, hs.claimed, hs.within, hs.penalty, htotals id p hk, hscales⟩
  have hlarge : ¬ p.Scales env.timestamp → vestedFor p env.timestamp ≠ .ok (p.vestedAt env.timestamp) :=
    fun hnot hvested => by
      rw [vestedFor_too_large hnot] at hvested
      cases hvested
  constructor
  · exact fun hscales => (hcomputes hscales).vested
  · exact vestedFor_too_large
  · exact fun hscales _ => not_overflows fun _ hfault => claim_avoids hfault hk (hcomputes hscales)
  · intro hnot beneficiary r hr
    obtain ⟨q, hq, -, hvested, -⟩ := claim_ok hr
    obtain rfl := Option.some.inj (hk.symm.trans hq)
    exact hlarge hnot hvested
  · exact fun hscales _ => not_overflows fun _ hfault =>
      earlyWithdraw_avoids hfault hk (hcomputes hscales.1) hscales.2
  · intro hnot beneficiary r hr
    obtain ⟨hvested, penalty, hpenalty⟩ := earlyWithdraw_ok hr hk
    have hbounds := vestedAt_bounds hs.ordered (hs.claimed.trans hs.within) env.timestamp
    refine hnot ⟨not_not.mp fun hscales => hlarge hscales hvested, ?_⟩
    exact calculatePenalty_ok_inRange (sub_nonneg.mpr hbounds.2) hpenalty
  · exact fun hscales _ => not_overflows fun _ hfault =>
      revokeSchedule_avoids hfault hk (hcomputes hscales)
  · intro hnot admin r hr
    obtain ⟨q, hq, -, hvested, -⟩ := revokeSchedule_ok hr
    obtain rfl := Option.some.inj (hk.symm.trans hq)
    exact hlarge hnot hvested

section Runs

open Sample

/-- Carol holds half of what an `i128` can count. -/
def rich : State Balances := deployed (Balances.issue [(usdc, carol, 2 ^ 126)])

/-- Carol vests all that she has within ten seconds. -/
def vestsAll : List (ℕ × Op) := [
  (0, .initializeContract admin),
  (0, .createSchedule carol usdc alice (2 ^ 126) ⟨0, 0, 10, true, true, 1000⟩)]

/-- At 150 half of an ordinary schedule has vested, and nothing overflows. -/
theorem only_products_overflow_half :
    ∃ log s p, History (next asset contract) (fun log _ a => Admits log a) start log s ∧
      s.schedule.get? 1 = some p ∧ p.Scales 150 ∧ p.PenaltyScales 150 ∧ p.vestedAt 150 = 500 ∧
      vestedFor p 150 = .ok 500 ∧ Calculates asset contract s 1 p (env 150) := by
  have h : After (fun h => ∃ p ∈ h.2.schedule.get? 1, p.Scales 150 ∧ p.PenaltyScales 150 ∧
        p.vestedAt 150 = 500)
      (record (next asset contract) (fun log _ a => Admits log a) (calls opened) ([], start)) := by
    decide +kernel
  obtain ⟨⟨log, s⟩, hrec, p, hk, hscales, hpenalty, hhalf⟩ := h.exists_ok
  have hrun : History (next asset contract) (fun log _ a => Admits log a) start log s :=
    record_run hrec
  have hcalculates := only_products_overflow hrun hk (env 150)
  have hvested := hcalculates.vested hscales
  refine ⟨log, s, p, hrun, hk, hscales, hpenalty, hhalf, ?_, hcalculates⟩
  rw [← hhalf]
  exact hvested

/-- Carol's schedule traps from its second second on, until it is over. -/
theorem accepted_schedule_overflows :
    ¬ ∀ (log : List (State Balances × Action Balances)) (s : State Balances) (id : ℕ)
        (p : VestingSchedule) (env : Env),
      History (next asset contract) (fun log _ a => Admits log a) rich log s →
      s.schedule.get? id = some p →
      ¬ Overflows (vestedFor p env.timestamp) ∧
      (∀ beneficiary, ¬ Overflows (claim asset contract env id beneficiary s)) ∧
      (∀ beneficiary, ¬ Overflows (earlyWithdraw asset contract env id beneficiary s)) ∧
      ∀ admin, ¬ Overflows (revokeSchedule asset contract env admin id s) := by
  have h : After (fun h => ∃ p ∈ h.2.schedule.get? 1, ¬ p.Scales 2)
      (record (next asset contract) (fun log _ a => Admits log a) (calls vestsAll) ([], rich)) := by
    decide +kernel
  obtain ⟨⟨log, s⟩, hrec, p, hk, hnot⟩ := h.exists_ok
  intro hall
  obtain ⟨hvested, -⟩ := hall log s 1 p (env 2) (record_run hrec) hk
  exact hvested ⟨_, by decide, vestedFor_too_large hnot⟩

end Runs

end TokenVesting
