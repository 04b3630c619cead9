import StellAIverse.Vault.Solvency

/-!
# The three ways out

`withdraw`, `emergency_withdraw`, and a queued withdrawal that is processed at
once. The performance fee of `withdraw` applies above the high water mark, and
total assets never rise above it.
-/

namespace Vault

open Soroban

variable {τ : Type} {tok : Token τ} {self : Address} {s s' : State τ} {a : Action τ}

theorem marked_step (hm : s.totalAssets ≤ s.highWaterMark) (h : Effect tok self s a s') :
    s'.totalAssets ≤ s'.highWaterMark := by
  cases h with
  | initializeContract => exact le_rfl
  | deposit =>
    simp only
    split <;> omega
  | withdraw _ _ _ _ gross fee _ _ _ _ _ fee_eq _ net_pos =>
    rw [if_neg (by omega)] at fee_eq
    simp only [burned]
    omega
  | emergencyWithdraw _ _ _ _ _ _ _ _ _ _ _ gross_pos =>
    simp only [burned]
    omega
  | governanceWithdraw =>
    simp only
    omega
  | harvestStrategy =>
    simp only
    split <;> omega
  | processWithdrawalQueue _ _ _ _ _ _ _ _ _ _ gross_pos =>
    simp only [burned]
    omega
  | emergencyStrategyWithdrawal => split <;> exact hm
  | _ => exact hm

/-- No user has been paid more than the vault has paid. -/
def PaidOut (s : State τ) : Prop :=
  0 ≤ s.totalWithdrawals ∧ ∀ user record, s.userDeposit.get? user = some record →
    0 ≤ record.totalWithdrawn ∧ record.totalWithdrawn ≤ s.totalWithdrawals

theorem PaidOut.load (h : PaidOut s) (user : Address) :
    0 ≤ (loadUserDeposit s user).totalWithdrawn ∧
      (loadUserDeposit s user).totalWithdrawn ≤ s.totalWithdrawals := by
  unfold loadUserDeposit
  cases hk : s.userDeposit.get? user with
  | none => exact ⟨le_rfl, h.1⟩
  | some record => exact h.2 user record hk

/-- A payment enters the totals of the vault, and at most the user's as well. -/
theorem PaidOut.write (h : PaidOut s) {user : Address} {record : VaultUserDeposit} {n : ℤ}
    (hn : 0 ≤ n) (htotal : s'.totalWithdrawals = s.totalWithdrawals + n)
    (husers : s'.userDeposit = s.userDeposit.set user record)
    (h0 : 0 ≤ record.totalWithdrawn)
    (hle : record.totalWithdrawn ≤ (loadUserDeposit s user).totalWithdrawn + n) : PaidOut s' := by
  have hload := h.load user
  refine ⟨by have := h.1; omega, ?_⟩
  rw [husers]
  refine Store.forall_set (fun user' record' hk => ?_) ⟨h0, by omega⟩
  have := h.2 user' record' hk
  exact ⟨this.1, by omega⟩

theorem paidOut_step (hu : Untouched s) (hp : PaidOut s) (h : Effect tok self s a s') :
    PaidOut s' := by
  cases h with
  | initializeContract _ _ _ fresh =>
    refine ⟨le_rfl, fun user record hk => ?_⟩
    rw [hu.users (hu.token fresh) user] at hk
    cases hk
  | deposit _ user =>
    have hload := hp.load user
    refine hp.write le_rfl (add_zero _).symm rfl ?_ ?_
    · simp only [VaultUserDeposit.credited]
      omega
    · simp only [VaultUserDeposit.credited]
      omega
  | withdraw _ user _ _ gross fee _ _ _ _ _ _ _ net_pos =>
    have hload := hp.load user
    refine hp.write net_pos.le rfl rfl ?_ ?_
    · simp only [VaultUserDeposit.debited]
      omega
    · simp only [VaultUserDeposit.debited]
      omega
  | emergencyWithdraw _ user _ _ _ _ _ _ _ _ _ gross_pos =>
    have hload := hp.load user
    refine hp.write gross_pos.le rfl rfl ?_ ?_
    · simp only [VaultUserDeposit.debited]
      omega
    · simp only [VaultUserDeposit.debited]
      omega
  | queueWithdrawal _ user =>
    have hload := hp.load user
    exact hp.write le_rfl (add_zero _).symm rfl hload.1 (by simp only; omega)
  | processWithdrawalQueue _ _ _ _ _ _ _ _ _ _ gross_pos =>
    refine ⟨?_, fun user record hk => ?_⟩
    · have := hp.1
      simp only [burned]
      omega
    · have := hp.2 user record hk
      simp only [burned]
      omega
  | emergencyStrategyWithdrawal => split <;> exact hp
  | _ => exact hp

theorem Reachable.marked (hs : Reachable tok self s) :
    s.totalAssets ≤ s.highWaterMark ∧ PaidOut s := by
  obtain ⟨tokens, hrun⟩ := hs
  have hall : Untouched s ∧ s.totalAssets ≤ s.highWaterMark ∧ PaidOut s := by
    refine Steps.preserves
      (P := fun s => Untouched s ∧ s.totalAssets ≤ s.highWaterMark ∧ PaidOut s) ?_ hrun
      ⟨⟨fun _ => rfl, fun _ _ => rfl, fun _ => rfl⟩, le_rfl, le_rfl, fun _ _ hk => by cases hk⟩
    rintro s a s' - hn ⟨hu, hm, hp⟩
    have heff := next_effect hn
    exact ⟨untouched_step hu heff, marked_step hm heff, paidOut_step hu hp heff⟩
  exact hall.2

section Leaving

variable {env : Env} {user : Address} {shares : ℤ}

theorem withdrawalFee_zero (hm : s.totalAssets ≤ s.highWaterMark) : withdrawalFee s = .ok 0 :=
  if_neg (by omega)

theorem calculateAssetsForWithdrawal_inRange {A S assets : ℤ}
    (h : calculateAssetsForWithdrawal shares A S = .ok assets) : I128.InRange assets := by
  unfold calculateAssetsForWithdrawal at h
  rw [I128.checked_bind, I128.div_ok] at h
  obtain ⟨-, -, hfits, rfl⟩ := h
  exact hfits

/-- Without a fee the two calls do the same checks in the same order. -/
theorem withdraw_eq_emergencyWithdraw (hm : s.totalAssets ≤ s.highWaterMark)
    (hall : (loadUserDeposit s user).shares = shares) (hpos : 0 < shares) :
    withdraw tok self env user shares s = emergencyWithdraw tok self env user s := by
  unfold withdraw emergencyWithdraw
  simp only [hall]
  rw [panicIf_of_not (not_le.mpr hpos), panicIf_of_not (not_le.mpr hpos),
    panicIf_of_not (lt_irrefl shares), withdrawalFee_zero hm]
  simp only [ok_bind]
  refine bind_congr_ok fun _ _ => bind_congr_ok fun _ _ => bind_congr_ok fun gross hgross => ?_
  have hfits := calculateAssetsForWithdrawal_inRange hgross
  simp only [sub_zero, sub_self]
  rw [I128.checked_of_inRange hfits, ok_bind]
  refine bind_congr_ok fun _ _ => bind_congr_ok fun _ _ => bind_congr_ok fun _ _ => ?_
  rw [collectFee, if_pos le_rfl, ok_bind, I128.checked_of_inRange I128.inRange_zero]
  rfl

/-- What the vault checks before it pays `paid` for `shares`, and the tokens
after the payment. -/
structure Pays (tok : Token τ) (vault : Address) (s : State τ) (user : Address)
    (shares paid : ℤ) (tokens : τ) : Prop where
  paid_eq : paid = assetsFor shares s.totalAssets s.totalSupply
  converts : s.totalSupply ≠ 0 ∧ I128.InRange (shares * s.totalAssets) ∧ I128.InRange paid
  totals : I128.InRange (s.totalSupply - shares) ∧ I128.InRange (s.totalAssets - paid) ∧
    I128.InRange (s.totalWithdrawals + paid)
  unlocked : s.reentrancyLock = false
  positive : 0 < paid
  moved : ∃ token, s.token = some token ∧
    tok.transfer s.tokens token vault user paid = some tokens

theorem emergencyWithdraw_ok {paid : ℤ} {t : State τ} :
    emergencyWithdraw tok self env user s = .ok (paid, t) ↔
      ∃ tokens, (env.authorized user = true ∧ 0 < (loadUserDeposit s user).shares ∧
        0 < s.totalSupply ∧ I128.InRange ((loadUserDeposit s user).totalWithdrawn + paid)) ∧
      Pays tok self s user (loadUserDeposit s user).shares paid tokens ∧
      t = { burned s (loadUserDeposit s user).shares paid paid tokens with
        userDeposit := s.userDeposit.set user
          { loadUserDeposit s user with
            shares := 0, totalWithdrawn := (loadUserDeposit s user).totalWithdrawn + paid
            lastWithdrawalAt := env.timestamp } } := by
  unfold emergencyWithdraw
  simp only [requireAuth_bind, panicIf_bind, not_le, calculateAssetsForWithdrawal_bind,
    I128.checked_bind, getToken, expect_bind, transferToken_bind]
  constructor
  · rintro ⟨hauth, hpos, hS, hconv, h1, h2, h3, hwith, token, ht, ⟨hlock, hnet⟩, tokens, hpaid, h⟩
    cases h
    exact ⟨tokens, ⟨hauth, hpos, hS, hwith⟩,
      ⟨rfl, hconv, ⟨h1, h2, h3⟩, hlock, hnet, token, ht, hpaid⟩, rfl⟩
  · rintro ⟨tokens, ⟨hauth, hpos, hS, hwith⟩, hp, rfl⟩
    obtain ⟨rfl, hconv, ⟨h1, h2, h3⟩, hlock, hnet, token, ht, hpaid⟩ := hp
    exact ⟨hauth, hpos, hS, hconv, h1, h2, h3, hwith, token, ht, ⟨hlock, hnet⟩, tokens, hpaid, rfl⟩

/-- The state with a new item at the end of the queue. -/
def queued (s : State τ) (env : Env) (user : Address) (shares : ℤ) : State τ :=
  { s with
    userDeposit := s.userDeposit.set user { loadUserDeposit s user with
      shares := (loadUserDeposit s user).shares - shares, lastWithdrawalAt := env.timestamp }
    withdrawalQueueCounter := s.withdrawalQueueCounter + 1
    withdrawalQueueItem := s.withdrawalQueueItem.set (s.withdrawalQueueCounter + 1)
      ⟨s.withdrawalQueueCounter + 1, user, shares, assetsFor shares s.totalAssets s.totalSupply,
        env.timestamp, false⟩
    withdrawalQueueIds := s.withdrawalQueueIds ++ [s.withdrawalQueueCounter + 1] }

theorem queueWithdrawal_ok {r : ℕ × State τ} :
    queueWithdrawal env user shares s = .ok r ↔
      (env.authorized user = true ∧ 0 < shares ∧ shares ≤ (loadUserDeposit s user).shares ∧
        0 < s.totalSupply ∧ (s.totalSupply ≠ 0 ∧ I128.InRange (shares * s.totalAssets) ∧
          I128.InRange (assetsFor shares s.totalAssets s.totalSupply)) ∧
        s.minQueuedWithdrawal ≤ assetsFor shares s.totalAssets s.totalSupply ∧
        I128.InRange ((loadUserDeposit s user).shares - shares) ∧
        s.withdrawalQueueCounter + 1 < 2 ^ 64) ∧
      r = (s.withdrawalQueueCounter + 1, queued s env user shares) := by
  unfold queueWithdrawal
  simp only [requireAuth_bind, panicIf_bind, not_le, not_lt, calculateAssetsForWithdrawal_bind,
    I128.checked_bind, U64.checked_bind, Except.ok.injEq, eq_comm (b := r)]
  simp only [and_assoc]
  rfl

/-- Processing the item that has just been queued. -/
theorem processWithdrawalQueue_queued {paid : ℤ} {t : State τ} :
    processWithdrawalQueue tok self (s.withdrawalQueueCounter + 1) (queued s env user shares) =
        .ok (paid, t) ↔
      ∃ tokens, Pays tok self s user shares paid tokens ∧
        t = { burned (queued s env user shares) shares paid paid tokens with
          withdrawalQueueItem :=
            (queued s env user shares).withdrawalQueueItem.set (s.withdrawalQueueCounter + 1)
              ⟨s.withdrawalQueueCounter + 1, user, shares,
                assetsFor shares s.totalAssets s.totalSupply, env.timestamp, true⟩ } := by
  have hitem : (queued s env user shares).withdrawalQueueItem.get? (s.withdrawalQueueCounter + 1) =
      some ⟨s.withdrawalQueueCounter + 1, user, shares,
        assetsFor shares s.totalAssets s.totalSupply, env.timestamp, false⟩ :=
    Store.get?_set_self _ _ _
  unfold processWithdrawalQueue
  simp only [loadQueueItem, hitem, expect_bind, Option.some.injEq, exists_eq_left', panicIf_bind,
    Bool.false_eq_true, not_false_eq_true, true_and, calculateAssetsForWithdrawal_bind,
    I128.checked_bind, getToken, transferToken_bind]
  constructor
  · rintro ⟨hconv, h1, h2, h3, token, ht, ⟨hlock, hnet⟩, tokens, hpaid, h⟩
    cases h
    exact ⟨tokens, ⟨rfl, hconv, ⟨h1, h2, h3⟩, hlock, hnet, token, ht, hpaid⟩, rfl⟩
  · rintro ⟨tokens, hp, rfl⟩
    obtain ⟨rfl, hconv, ⟨h1, h2, h3⟩, hlock, hnet, token, ht, hpaid⟩ := hp
    exact ⟨hconv, h1, h2, h3, token, ht, ⟨hlock, hnet⟩, tokens, hpaid, rfl⟩

end Leaving

/-- Total assets stay at or below the mark, so `withdraw` charges no fee and is
`emergency_withdraw` for a user who leaves with everything; the queue pays the
same when its minimum admits the request. -/
theorem exits_agree (hs : Reachable tok self s) :
    s.totalAssets ≤ s.highWaterMark ∧
    ∀ (env : Env) (user : Address) (shares : ℤ), (loadUserDeposit s user).shares = shares →
      0 < shares →
      withdrawalFee s = .ok 0 ∧
      withdraw tok self env user shares s = emergencyWithdraw tok self env user s ∧
      (∀ paid s₁, withdraw tok self env user shares s = .ok (paid, s₁) →
        previewWithdraw shares s = .ok paid ∧ s₁.totalFeesCollected = s.totalFeesCollected ∧
        (s.minQueuedWithdrawal ≤ paid → s.withdrawalQueueCounter + 1 < 2 ^ 64 →
          ∃ id s₂ s₃, queueWithdrawal env user shares s = .ok (id, s₂) ∧
            processWithdrawalQueue tok self id s₂ = .ok (paid, s₃) ∧
            s₃.totalAssets = s₁.totalAssets ∧ s₃.totalSupply = s₁.totalSupply ∧
            s₃.tokens = s₁.tokens)) ∧
      ∀ id s₂ paid s₃, queueWithdrawal env user shares s = .ok (id, s₂) →
        processWithdrawalQueue tok self id s₂ = .ok (paid, s₃) →
        ∃ s₁, withdraw tok self env user shares s = .ok (paid, s₁) ∧
          s₁.totalAssets = s₃.totalAssets ∧ s₁.totalSupply = s₃.totalSupply ∧
          s₁.tokens = s₃.tokens := by
  obtain ⟨hm, hpaidOut⟩ := hs.marked
  refine ⟨hm, fun env user shares hall hpos => ?_⟩
  have hsame : withdraw tok self env user shares s = emergencyWithdraw tok self env user s :=
    withdraw_eq_emergencyWithdraw hm hall hpos
  refine ⟨withdrawalFee_zero hm, hsame, fun paid s₁ h => ?_, fun id s₂ paid s₃ hq hp => ?_⟩
  · rw [hsame, emergencyWithdraw_ok, hall] at h
    obtain ⟨tokens, ⟨hauth, -, hS, -⟩, hpays, rfl⟩ := h
    have heq := hpays.paid_eq
    refine ⟨?_, rfl, fun hmin hroom => ?_⟩
    · obtain ⟨hne, hproduct, hfits⟩ := hpays.converts
      unfold previewWithdraw calculateAssetsForWithdrawal
      rw [I128.checked_bind, I128.div_ok]
      rw [heq] at hfits
      exact ⟨hproduct, hne, hfits, heq.symm⟩
    · refine ⟨_, _, _, queueWithdrawal_ok.mpr ⟨?_, rfl⟩,
        processWithdrawalQueue_queued.mpr ⟨tokens, hpays, rfl⟩, rfl, rfl, rfl⟩
      rw [← heq, hall, sub_self]
      exact ⟨hauth, hpos, le_rfl, hS, hpays.converts, hmin, I128.inRange_zero, hroom⟩
  · obtain ⟨⟨hauth, -, -, hS, -⟩, hr⟩ := queueWithdrawal_ok.mp hq
    cases hr
    obtain ⟨tokens, hpays, rfl⟩ := processWithdrawalQueue_queued.mp hp
    have hload := hpaidOut.load user
    have hfits := hpays.totals.2.2.2
    have hmin := I128.inRange_zero.1
    have hpositive := hpays.positive
    rw [hsame]
    refine ⟨_, emergencyWithdraw_ok.mpr ⟨tokens, ⟨hauth, by omega, hS, ?_⟩, ?_, rfl⟩, ?_⟩
    · exact ⟨by omega, by omega⟩
    · rw [hall]
      exact hpays
    · rw [hall]
      exact ⟨rfl, rfl, rfl⟩

open Sample in
/-- One depositor leaves with everything, through either door. -/
theorem exits_agree_whole_holding :
    ∃ s, run [.initializeContract admin usdc, .deposit alice 5000] = .ok s ∧
      (loadUserDeposit s alice).shares = 5000 ∧
      withdraw asset contract env alice 5000 s = emergencyWithdraw asset contract env alice s ∧
      ∃ id s₂ s₃, queueWithdrawal env alice 5000 s = .ok (id, s₂) ∧
        processWithdrawalQueue asset contract id s₂ = .ok (5000, s₃) := by
  have h : After (fun s => (loadUserDeposit s alice).shares = 5000 ∧
      s.minQueuedWithdrawal ≤ 5000 ∧ s.withdrawalQueueCounter + 1 < 2 ^ 64 ∧
      After (fun r => r.1 = 5000) (withdraw asset contract env alice 5000 s))
      (run [.initializeContract admin usdc, .deposit alice 5000]) := by
    decide +kernel
  obtain ⟨s, hs, hshares, hmin, hroom, hpaid⟩ := h.exists_ok
  obtain ⟨⟨paid, s₁⟩, hwithdraw, rfl⟩ := hpaid.exists_ok
  obtain ⟨-, hexits⟩ := exits_agree (run_reachable hs)
  obtain ⟨-, hsame, hforward, -⟩ := hexits env alice 5000 hshares (by decide)
  obtain ⟨-, -, hqueue⟩ := hforward 5000 s₁ hwithdraw
  obtain ⟨id, s₂, s₃, hq, hp, -⟩ := hqueue hmin hroom
  exact ⟨s, hs, hshares, hsame, id, s₂, s₃, hq, hp⟩

end Vault
