import StellAIverse.Amm.Custody
import StellAIverse.Amm.ShareValue
import StellAIverse.Soroban.History

/-!
# Rewards of liquidity providers

A claim pays the provider's part of the reward balance it finds, and nothing
records that the provider has been paid. So the parts add up to no more than pro
rata as long as every provider claims once; the second claim of a provider takes
a part of what the first one left to the others.
-/

namespace Amm

open Soroban

variable {τ : Type} {tok : Token τ} {self : Address} {s s' : State τ} {a : Action τ}

/-- Who claims rewards of this pool, if the invocation is such a claim. -/
def Action.claimant (id : ℕ) : Action τ → Option Address
  | .call _ (.claimLpRewards provider id') => if id' = id then some provider else none
  | _ => none

/-- The call neither moves LP tokens of the pool nor deposits rewards of this token. -/
def Action.KeepsTerms (id : ℕ) (t : Address) : Action τ → Prop
  | .call _ (.addLiquidity _ id' _ _) => id' ≠ id
  | .call _ (.removeLiquidity _ id' _) => id' ≠ id
  | .call _ (.depositLpRewards _ id' t' _) => ¬ (id' = id ∧ t' = t)
  | _ => True

/-- LP balances and deposits stand, and every claim is its provider's first. -/
def ClaimedOnce (id : ℕ) (t : Address) (log : List (State τ × Action τ)) (_ : State τ)
    (a : Action τ) : Prop :=
  a.KeepsTerms id t ∧
    ∀ provider, a.claimant id = some provider → ∀ e ∈ log, e.2.claimant id ≠ some provider

/-- What a pair of shares comes to in one token. -/
def Pool.sharesIn (t : Address) (pool : Pool) (shares : ℤ × ℤ) : ℤ :=
  (if t = pool.tokenA then shares.1 else 0) + (if t = pool.tokenB then shares.2 else 0)

/-- What a claim pays its provider in one token; a claim that traps pays nothing. -/
def claimPaid (tok : Token τ) (self t : Address) (env : Env) (provider : Address) (id : ℕ)
    (s : State τ) : ℤ :=
  match s.pool.get? id, claimLpRewards tok self env provider id s with
  | some pool, .ok r => pool.sharesIn t r.1
  | _, _ => 0

/-- What one invocation paid the provider out of the rewards of a pool. -/
def rewardPaid (tok : Token τ) (self t provider : Address) (id : ℕ) : State τ × Action τ → ℤ
  | (s, .call env op) =>
    if (Action.call env op : Action τ).claimant id = some provider then
      claimPaid tok self t env provider id s
    else 0
  | (_, .transfers _) => 0

/-- What a provider was paid along a log. -/
def rewardsPaid (tok : Token τ) (self t provider : Address) (id : ℕ)
    (log : List (State τ × Action τ)) : ℤ :=
  (log.map (rewardPaid tok self t provider id)).sum

/-- No reward balance is in debt. -/
def RewardsFunded (s : State τ) : Prop := ∀ k v, s.lpRewardBalance.get? k = some v → 0 ≤ v

theorem RewardsFunded.amount (h : RewardsFunded s) (k : ℕ × Address) :
    0 ≤ s.lpRewardBalance.amount k := by
  unfold Store.amount
  cases hk : s.lpRewardBalance.get? k with
  | none => simp
  | some v => simpa using h k v hk

/-- The part of a reward that belongs to `held` out of `supply` LP tokens. -/
theorem portion_bounds {reward held supply : ℤ} (hr : 0 ≤ reward) (hh : 0 ≤ held)
    (hle : held ≤ supply) (hT : 0 < supply) :
    0 ≤ (reward * held).tdiv supply ∧ (reward * held).tdiv supply ≤ reward := by
  refine ⟨Int.tdiv_nonneg (mul_nonneg hr hh) hT.le, ?_⟩
  have hfloor := I128.tdiv_mul_le (mul_nonneg hr hh) hT
  have hpart := mul_le_mul_of_nonneg_left hle hr
  exact le_of_mul_le_mul_right (hfloor.trans hpart) hT

theorem trades_lpRewardBalance {user : Address} (h : Trades tok self user s s') :
    s'.lpRewardBalance = s.lpRewardBalance := by
  induction h with
  | refl => rfl
  | tail _ hstep ih =>
    cases hstep
    exact ih

theorem forall_afterShare {balances : Store (ℕ × Address) ℤ} {id : ℕ} {token : Address}
    {reward share : ℤ} (h : ∀ k v, balances.get? k = some v → 0 ≤ v) (hle : share ≤ reward) :
    ∀ k v, (afterShare balances id token reward share).get? k = some v → 0 ≤ v := by
  unfold afterShare
  split
  · exact Store.forall_set h (by omega)
  · exact h

theorem rewardsFunded_step (hw : WellFormed s) (hf : RewardsFunded s)
    (h : Effect tok self s a s') : RewardsFunded s' := by
  cases h with
  | depositLpRewards _ _ id token amount _ _ _ positive =>
    have hold := hf.amount (id, token)
    exact Store.forall_set hf (by omega)
  | claimLpRewards _ provider id pool shareA shareB _ stored _ supplied portionA portionB =>
    have hheld := hw.balance_nonneg (id, provider)
    have hle := hw.balance_le stored provider
    obtain ⟨-, hA⟩ := portion_bounds (hf.amount (id, pool.tokenA)) hheld hle supplied
    obtain ⟨-, hB⟩ := portion_bounds (hf.amount (id, pool.tokenB)) hheld hle supplied
    rw [← portionA] at hA
    rw [← portionB] at hB
    exact forall_afterShare (forall_afterShare hf hA) hB
  | trades _ _ _ _ _ _ _ _ _ trades =>
    unfold RewardsFunded
    rw [trades_lpRewardBalance trades]
    exact hf
  | _ => exact hf

theorem Reachable.rewardsFunded (hs : Reachable tok self s) : RewardsFunded s := by
  obtain ⟨tokens, hrun⟩ := hs
  have hinv : WellFormed s ∧ RewardsFunded s := by
    refine hrun.preserves (P := fun s => WellFormed s ∧ RewardsFunded s) ?_
      ⟨wellFormed_deployed tokens, fun _ _ hk => by cases hk⟩
    rintro s a s' - hn ⟨hw, hf⟩
    have heffect := next_effect hn
    exact ⟨wellFormed_step hw heffect, rewardsFunded_step hw hf heffect⟩
  exact hinv.2

theorem claimLpRewards_shares {env : Env} {provider : Address} {id : ℕ} {pool : Pool}
    {r : (ℤ × ℤ) × State τ} (h : claimLpRewards tok self env provider id s = .ok r)
    (hk : s.pool.get? id = some pool) :
    r.1 = ((getLpRewardBalance s id pool.tokenA * getLpBalance s id provider).tdiv
        pool.lpTotalSupply,
      (getLpRewardBalance s id pool.tokenB * getLpBalance s id provider).tdiv
        pool.lpTotalSupply) := by
  unfold claimLpRewards at h
  rw [requireAuth_bind] at h
  obtain ⟨s₁, hbody, hr⟩ := withReentrancyGuard_ok h.2
  unfold claimLpRewardsInternal at hbody
  simp only [getPool_bind, panicIf_bind, not_or, not_le, I128.mul_bind] at hbody
  obtain ⟨q, hq, -, -, h⟩ := hbody
  obtain rfl : pool = q := Option.some.inj (hk.symm.trans hq)
  obtain ⟨shareA, hA, h⟩ := bind_ok.mp h
  rw [I128.mul_bind] at h
  obtain ⟨shareB, hB, h⟩ := bind_ok.mp h.2
  rw [panicIf_bind] at h
  obtain ⟨s₂, -, h⟩ := bind_ok.mp h.2
  obtain ⟨s₃, -, h⟩ := bind_ok.mp h
  obtain ⟨shares, s₄⟩ := r
  cases h
  rw [(floorDiv_ok hA).2, (floorDiv_ok hB).2]
  rfl

/-- A claim pays at most the provider's part of the reward balance it finds. -/
theorem claimPaid_le (hw : WellFormed s) (hf : RewardsFunded s) {id : ℕ} {pool : Pool}
    (hk : s.pool.get? id = some pool) (t : Address) (env : Env) (provider : Address) :
    claimPaid tok self t env provider id s ≤
      (getLpRewardBalance s id t * getLpBalance s id provider).tdiv pool.lpTotalSupply := by
  obtain ⟨-, -, hformed⟩ := hw.pools id pool hk
  have hbound : 0 ≤
      (getLpRewardBalance s id t * getLpBalance s id provider).tdiv pool.lpTotalSupply :=
    Int.tdiv_nonneg (mul_nonneg (hf.amount (id, t)) (hw.balance_nonneg (id, provider)))
      hformed.nonneg.2.2
  unfold claimPaid
  rw [hk]
  cases hr : claimLpRewards tok self env provider id s with
  | error e => exact hbound
  | ok r =>
    simp only
    rw [claimLpRewards_shares hr hk]
    unfold Pool.sharesIn
    by_cases hA : t = pool.tokenA
    · rw [if_pos hA, if_neg (hA ▸ hformed.distinct), add_zero, hA]
    · by_cases hB : t = pool.tokenB
      · rw [if_neg hA, if_pos hB, zero_add, hB]
      · rw [if_neg hA, if_neg hB, add_zero]
        exact hbound

theorem rewardPaid_le (hw : WellFormed s) (hf : RewardsFunded s) {id : ℕ} {pool : Pool}
    (hk : s.pool.get? id = some pool) (t provider : Address)
    (ha : a.claimant id = some provider) :
    rewardPaid tok self t provider id (s, a) ≤
      (getLpRewardBalance s id t * getLpBalance s id provider).tdiv pool.lpTotalSupply := by
  cases a with
  | transfers tokens => cases ha
  | call env op =>
    simp only [rewardPaid, if_pos ha]
    exact claimPaid_le hw hf hk t env provider

theorem rewardPaid_other {t provider : Address} {id : ℕ} (ha : a.claimant id ≠ some provider) :
    rewardPaid tok self t provider id (s, a) = 0 := by
  cases a with
  | transfers tokens => rfl
  | call env op => exact if_neg ha

/-- Supply and holders of a pool, and at most this reward. -/
structure Terms (id : ℕ) (t : Address) (supply : ℤ) (held : Address → ℤ) (reward : ℤ)
    (s : State τ) : Prop where
  stored : ∃ pool, s.pool.get? id = some pool ∧ pool.lpTotalSupply = supply
  holders : ∀ provider, getLpBalance s id provider = held provider
  rewarded : getLpRewardBalance s id t ≤ reward

theorem afterShare_le {balances : Store (ℕ × Address) ℤ} {id : ℕ} {token : Address}
    {reward share : ℤ} (hreward : reward ≤ balances.amount (id, token)) (k : ℕ × Address) :
    (afterShare balances id token reward share).amount k ≤ balances.amount k := by
  unfold afterShare
  split
  · rw [Store.amount_set]
    split
    · rename_i he
      rw [he]
      omega
    · exact le_rfl
  · exact le_rfl

theorem terms_step (hw : WellFormed s) (h : Effect tok self s a s') {id : ℕ} {t : Address}
    {supply reward : ℤ} {held : Address → ℤ} (ha : a.KeepsTerms id t)
    (ht : Terms id t supply held reward s) : Terms id t supply held reward s' := by
  obtain ⟨⟨pool, hk, hT⟩, hheld, hreward⟩ := ht
  cases h with
  | createPool =>
    refine ⟨⟨pool, ?_, hT⟩, hheld, hreward⟩
    have hlt := (hw.pools id pool hk).2.1
    simp only
    rw [Store.get?_set_ne _ _ (by omega), hk]
  | addLiquidity _ provider id₀ x y pool₀ minted _ _ stored =>
    refine ⟨?_, fun p => ?_, hreward⟩
    · rcases hw.get?_write (pool₀.moved x y minted) stored hk with ⟨he, -, -⟩ | ⟨-, hsame⟩
      · exact absurd he ha
      · exact ⟨pool, hsame, hT⟩
    · rw [← hheld p]
      refine (Store.amount_set _ _ _ _).trans (if_neg ?_)
      rintro ⟨⟩
      exact ha rfl
  | removeLiquidity _ provider id₀ lp pool₀ x y _ _ _ stored =>
    refine ⟨?_, fun p => ?_, hreward⟩
    · rcases hw.get?_write (pool₀.moved (-x) (-y) (-lp)) stored hk with ⟨he, -, -⟩ | ⟨-, hsame⟩
      · exact absurd he ha
      · exact ⟨pool, hsame, hT⟩
    · rw [← hheld p]
      refine (Store.amount_set _ _ _ _).trans (if_neg ?_)
      rintro ⟨⟩
      exact ha rfl
  | trades _ _ _ s₁ breaker _ lock _ _ trades =>
    obtain ⟨pool', hk', -, hT'⟩ := trades_value (hw.frame breaker s.userPosition lock) trades hk
    refine ⟨⟨pool', hk', hT'.trans hT⟩, fun p => ?_, ?_⟩
    · rw [← hheld p]
      simp only [getLpBalance, trades_lpBalance trades]
    · simpa only [getLpRewardBalance, trades_lpRewardBalance trades] using hreward
  | depositLpRewards _ _ id₀ token =>
    refine ⟨⟨pool, hk, hT⟩, hheld, ?_⟩
    refine le_of_eq_of_le ((Store.amount_set _ _ _ _).trans (if_neg ?_)) hreward
    rintro ⟨⟩
    exact ha ⟨rfl, rfl⟩
  | claimLpRewards _ provider id₀ pool₀ shareA shareB _ stored =>
    refine ⟨⟨pool, hk, hT⟩, hheld, le_trans ?_ hreward⟩
    have hdistinct := (hw.pools id₀ pool₀ stored).2.2.distinct
    have hother := amount_afterShare s.lpRewardBalance id₀
      (s.lpRewardBalance.amount (id₀, pool₀.tokenA)) shareA hdistinct.symm
    exact (afterShare_le hother.ge _).trans (afterShare_le le_rfl _)
  | _ => exact ⟨⟨pool, hk, hT⟩, hheld, hreward⟩

/-- However the claims of a pool's providers are ordered, and whatever else happens
in between that leaves LP balances and deposits alone, a provider who claims once
is paid at most its floor of the reward balance. -/
theorem rewards_pro_rata {s₀ : State τ} (hs : Reachable tok self s₀) {id : ℕ} {pool : Pool}
    (hk : s₀.pool.get? id = some pool) (t : Address) {log : List (State τ × Action τ)}
    (hrun : History (next tok self) (ClaimedOnce id t) s₀ log s) (provider : Address) :
    rewardsPaid tok self t provider id log ≤
      getLpRewardBalance s₀ id t * getLpBalance s₀ id provider / pool.lpTotalSupply := by
  have hR := hs.rewardsFunded.amount (id, t)
  have hl := hs.wellFormed.balance_nonneg (id, provider)
  have hpart : 0 ≤ getLpRewardBalance s₀ id t * getLpBalance s₀ id provider := mul_nonneg hR hl
  obtain ⟨-, -, hT⟩ := (hs.wellFormed.pools id pool hk).2.2.nonneg
  rw [← Int.tdiv_eq_ediv_of_nonneg hpart]
  have hbound := Int.tdiv_nonneg hpart hT
  have hinv : Reachable tok self s ∧
      Terms id t pool.lpTotalSupply (getLpBalance s₀ id) (getLpRewardBalance s₀ id t) s ∧
      ((∀ e ∈ log, e.2.claimant id ≠ some provider) → rewardsPaid tok self t provider id log = 0) ∧
      rewardsPaid tok self t provider id log ≤
        (getLpRewardBalance s₀ id t * getLpBalance s₀ id provider).tdiv pool.lpTotalSupply := by
    refine hrun.preserves (P := fun log s => Reachable tok self s ∧
      Terms id t pool.lpTotalSupply (getLpBalance s₀ id) (getLpRewardBalance s₀ id t) s ∧
      ((∀ e ∈ log, e.2.claimant id ≠ some provider) → rewardsPaid tok self t provider id log = 0) ∧
      rewardsPaid tok self t provider id log ≤
        (getLpRewardBalance s₀ id t * getLpBalance s₀ id provider).tdiv pool.lpTotalSupply)
      ⟨hs, ⟨⟨pool, hk, rfl⟩, fun _ => rfl, le_rfl⟩, fun _ => rfl, hbound⟩ ?_
    rintro log s a s' ⟨hkeeps, hfirst⟩ hn ⟨hreach, hterms, hnone, hpaid⟩
    have hw := hreach.wellFormed
    have hcons : rewardsPaid tok self t provider id ((s, a) :: log) =
        rewardPaid tok self t provider id (s, a) + rewardsPaid tok self t provider id log := by
      simp [rewardsPaid]
    refine ⟨hreach.step hn, terms_step hw (next_effect hn) hkeeps hterms, fun hno => ?_, ?_⟩
    · rw [hcons, rewardPaid_other (hno _ List.mem_cons_self),
        hnone fun e he => hno e (List.mem_cons_of_mem _ he), add_zero]
    · rw [hcons]
      by_cases hclaim : a.claimant id = some provider
      · -- The first claim of this provider finds no more than the whole reward.
        rw [hnone (hfirst provider hclaim), add_zero]
        obtain ⟨⟨q, hq, hsupply⟩, hheld, hreward⟩ := hterms
        have hone : rewardPaid tok self t provider id (s, a) ≤ _ :=
          rewardPaid_le hw hreach.rewardsFunded hq t provider hclaim
        rw [hsupply, hheld] at hone
        have hfound : 0 ≤ getLpRewardBalance s id t * getLpBalance s₀ id provider :=
          mul_nonneg (hreach.rewardsFunded.amount (id, t)) hl
        rw [Int.tdiv_eq_ediv_of_nonneg hfound] at hone
        rw [Int.tdiv_eq_ediv_of_nonneg hpart]
        have hsmaller := mul_le_mul_of_nonneg_right hreward hl
        rcases hT.eq_or_lt with hzero | hpos
        · rw [← hzero, Int.ediv_zero] at hone ⊢
          exact hone
        · exact hone.trans (Int.ediv_le_ediv hpos hsmaller)
      · rw [rewardPaid_other hclaim, zero_add]
        exact hpaid
  exact hinv.2.2.2

section Runs

open Sample

/-- Alice and bob hold half of a pool each, and 1000 are there to be claimed. -/
def rewarded : List Op := opened 1000 1000 ++ [
  .addLiquidity bob 0 1000 1000,
  .depositLpRewards admin 0 usdc 1000]

/-- The claims of these providers, in this order. -/
def claims (providers : List Address) : List (Action Balances) :=
  providers.map fun provider => .call env (.claimLpRewards provider 0)

/-- A claim of a provider who has not claimed before. -/
def FirstClaim (log : List (State Balances × Action Balances)) (_ : State Balances)
    (a : Action Balances) : Prop :=
  (a.claimant 0).isSome = true ∧ ∀ e ∈ log, e.2.claimant 0 ≠ a.claimant 0

instance (log : List (State Balances × Action Balances)) (s : State Balances)
    (a : Action Balances) : Decidable (FirstClaim log s a) :=
  inferInstanceAs (Decidable (_ ∧ _))

theorem FirstClaim.once {log : List (State Balances × Action Balances)} {s : State Balances}
    {a : Action Balances} (h : FirstClaim log s a) : ClaimedOnce 0 usdc log s a := by
  obtain ⟨hclaim, hfirst⟩ := h
  refine ⟨?_, fun provider hp e he heq => hfirst e he (heq.trans hp.symm)⟩
  unfold Action.claimant at hclaim
  split at hclaim
  · trivial
  · cases hclaim

/-- Bob claims 500 and alice, after him, 250. -/
theorem rewards_pro_rata_both :
    ∃ s s' log, run rewarded = .ok s ∧
      History (next asset contract) (ClaimedOnce 0 usdc) s log s' ∧
      rewardsPaid asset contract usdc bob 0 log = 500 ∧
      rewardsPaid asset contract usdc alice 0 log = 250 ∧
      rewardsPaid asset contract usdc alice 0 log ≤
        getLpRewardBalance s 0 usdc * getLpBalance s 0 alice / 2000 := by
  have h : After (fun s => (∃ pool ∈ s.pool.get? 0, pool.lpTotalSupply = 2000) ∧
      After (fun h => rewardsPaid asset contract usdc bob 0 h.1 = 500 ∧
          rewardsPaid asset contract usdc alice 0 h.1 = 250)
        (record (next asset contract) FirstClaim (claims [bob, alice]) ([], s)))
      (run rewarded) := by
    decide +kernel
  obtain ⟨s, hs, ⟨pool, hk, hT⟩, hclaims⟩ := h.exists_ok
  obtain ⟨⟨log, s'⟩, hrec, hbob, halice⟩ := hclaims.exists_ok
  have hrun := record_history _ (fun _ _ _ _ => FirstClaim.once) .nil hrec
  have hle := rewards_pro_rata (run_reachable hs) hk usdc hrun alice
  rw [hT] at hle
  exact ⟨s, s', log, hs, hrun, hbob, halice, hle⟩

/-- Alice, who holds half of the LP tokens, claims twice and has 750 of 1000. -/
theorem rewards_claimed_twice :
    ¬ ∀ (s s' : State Balances) (log : List (State Balances × Action Balances)) (pool : Pool)
      (id : ℕ) (t provider : Address), Reachable asset contract s → s.pool.get? id = some pool →
      History (next asset contract) (fun _ _ a => (a.claimant id).isSome = true) s log s' →
      rewardsPaid asset contract t provider id log ≤
        getLpRewardBalance s id t * getLpBalance s id provider / pool.lpTotalSupply := by
  have h : After (fun s => (∃ pool ∈ s.pool.get? 0, getLpRewardBalance s 0 usdc = 1000 ∧
        getLpBalance s 0 alice = 1000 ∧ pool.lpTotalSupply = 2000) ∧
      After (fun h => rewardsPaid asset contract usdc alice 0 h.1 = 750)
        (record (next asset contract) (fun _ _ a => (a.claimant 0).isSome = true)
          (claims [alice, alice]) ([], s)))
      (run rewarded) := by
    decide +kernel
  obtain ⟨s, hs, ⟨pool, hk, hR, hl, hT⟩, hclaims⟩ := h.exists_ok
  obtain ⟨⟨log, s'⟩, hrec, halice⟩ := hclaims.exists_ok
  intro hall
  have hle := hall s s' log pool 0 usdc alice (run_reachable hs) hk
    (record_run hrec)
  rw [halice, hR, hl, hT] at hle
  exact absurd hle (by decide)

end Runs

end Amm
