import StellAIverse.Soroban.Run
import StellAIverse.Staking.Contract

/-!
# What a completed invocation does

The arithmetic of the contract in closed form, and `Effect`: for every entry
point which guards held and which entries were rewritten. `next_effect` connects
it to the entry points.
-/

namespace Staking

open Soroban

variable {τ : Type}

/-- The weight of `amount` under a multiplier. -/
def weightOf (amount : ℤ) (multiplierBps : ℕ) : ℤ := (amount * multiplierBps).tdiv bpsDenominator

/-- What the accumulator gains in `elapsed` seconds. -/
def incrementOf (rate : ℤ) (elapsed : ℕ) (totalWeighted : ℤ) : ℤ :=
  (rate * elapsed * precisionFactor).tdiv totalWeighted

/-- The accumulator brought up to `now`. -/
def rptAt (now : ℕ) (s : State τ) : ℤ :=
  if s.lastRewardTime < now ∧ 0 < s.totalWeightedStake then
    s.rewardPerTokenStored +
      incrementOf s.rewardRatePerSecond (now - s.lastRewardTime) s.totalWeightedStake
  else s.rewardPerTokenStored

/-- The state with its accumulator brought up to `now`. -/
def settled (now : ℕ) (s : State τ) : State τ :=
  { s with rewardPerTokenStored := rptAt now s, lastRewardTime := max s.lastRewardTime now }

/-- Rewards pending on a position at `now`. -/
def pendingOf (now : ℕ) (s : State τ) (position : StakePosition) (multiplierBps : ℕ) : ℤ :=
  if position.active = true ∧ 0 < s.totalWeightedStake then
    ((rptAt now s - position.rewardPerTokenPaid) * weightOf position.amount multiplierBps).tdiv
      precisionFactor
  else 0

/-- The state without the position `stakeId`. -/
def closed (s : State τ) (stakeId : ℕ) (position : StakePosition) (multiplierBps : ℕ) : State τ :=
  { s with
    stakePosition := s.stakePosition.set stakeId { position with active := false }
    totalStaked := s.totalStaked - position.amount
    totalWeightedStake := s.totalWeightedStake - weightOf position.amount multiplierBps }

section ClosedForms

variable {env : Env} {s s' : State τ} {β : Type}

theorem calculateWeight_ok {amount w : ℤ} {bps : ℕ} (h : calculateWeight amount bps = .ok w) :
    w = weightOf amount bps ∧ I128.InRange w := by
  unfold calculateWeight at h
  rw [I128.checked_bind, I128.div_ok] at h
  obtain ⟨-, -, hfits, rfl⟩ := h
  exact ⟨rfl, hfits⟩

theorem rewardIncrement_ok {rate W increment : ℤ} {elapsed : ℕ}
    (h : rewardIncrement rate elapsed W = .ok increment) :
    increment = incrementOf rate elapsed W := by
  unfold rewardIncrement at h
  simp only [I128.checked_bind, I128.div_ok] at h
  obtain ⟨-, -, -, -, rfl⟩ := h
  rfl

theorem updatePool_ok (h : updatePool env s = .ok s') : s' = settled env.timestamp s := by
  unfold updatePool at h
  unfold settled rptAt
  split at h
  · rename_i hpast
    cases h
    rw [if_neg (by omega), max_eq_left hpast]
  · split at h
    · rename_i hpast hnone
      cases h
      rw [if_neg (by omega), max_eq_right (by omega)]
    · rename_i hpast hsome
      obtain ⟨increment, hincrement, h⟩ := bind_ok.mp h
      rw [I128.checked_bind] at h
      cases h.2
      rw [if_pos (by omega), max_eq_right (by omega), rewardIncrement_ok hincrement]

theorem futureRewardPerToken_ok {rpt : ℤ} (hW : 0 < s.totalWeightedStake)
    (h : futureRewardPerToken env s = .ok rpt) : rpt = rptAt env.timestamp s := by
  unfold futureRewardPerToken at h
  unfold rptAt
  split at h
  · rename_i hlater
    obtain ⟨increment, hincrement, h⟩ := bind_ok.mp h
    rw [I128.checked_ok] at h
    rw [if_pos ⟨hlater, hW⟩, ← h.2, rewardIncrement_ok hincrement]
  · rename_i hpast
    cases h
    rw [if_neg (fun hc => hpast hc.1)]

theorem calculatePendingRewardsStatic_ok {position : StakePosition} {bps : ℕ} {pending : ℤ}
    (h : calculatePendingRewardsStatic env s position bps = .ok pending) :
    pending = pendingOf env.timestamp s position bps := by
  unfold calculatePendingRewardsStatic at h
  unfold pendingOf
  split at h
  · rename_i hoff
    cases h
    rw [if_neg (by simp [hoff])]
  · split at h
    · rename_i hnone
      cases h
      rw [if_neg (by omega)]
    · rename_i hon hsome
      obtain ⟨rpt, hrpt, h⟩ := bind_ok.mp h
      obtain ⟨w, hw, h⟩ := bind_ok.mp h
      simp only [I128.checked_bind, I128.div_ok] at h
      obtain ⟨-, -, -, -, rfl⟩ := h
      rw [if_pos ⟨by simpa using hon, by omega⟩, futureRewardPerToken_ok (by omega) hrpt,
        (calculateWeight_ok hw).1]

theorem deactivate_ok {stakeId : ℕ} {position : StakePosition} {bps : ℕ}
    (h : deactivate s stakeId position bps = .ok s') : s' = closed s stakeId position bps := by
  unfold deactivate at h
  simp only [I128.checked_bind] at h
  obtain ⟨-, h⟩ := h
  obtain ⟨w, hw, h⟩ := bind_ok.mp h
  rw [I128.checked_bind] at h
  cases h.2
  rw [closed, (calculateWeight_ok hw).1]

theorem calculatePenalty_ok {amount penalty : ℤ} {bps : ℕ}
    (h : calculatePenalty amount bps = .ok penalty) (hamount : 0 ≤ amount)
    (hbps : bps ≤ maxPenaltyBps) : 0 ≤ penalty ∧ penalty ≤ amount := by
  unfold calculatePenalty at h
  split at h
  · cases h
    exact ⟨le_rfl, hamount⟩
  · rw [I128.checked_bind, I128.div_ok] at h
    obtain ⟨-, -, -, rfl⟩ := h
    have hproduct : 0 ≤ amount * bps := mul_nonneg hamount (Int.natCast_nonneg _)
    have hfloor : (amount * bps).tdiv bpsDenominator * bpsDenominator ≤ amount * bps :=
      I128.tdiv_mul_le hproduct (by decide)
    have hwhole : amount * bps ≤ amount * bpsDenominator := by
      refine mul_le_mul_of_nonneg_left ?_ hamount
      unfold bpsDenominator
      unfold maxPenaltyBps at hbps
      omega
    exact ⟨Int.tdiv_nonneg hproduct (by decide),
      le_of_mul_le_mul_right (hfloor.trans hwhole) (by decide)⟩

theorem exitTerms_ok {position : StakePosition} {bps : ℕ} {penalty principal : ℤ}
    (h : exitTerms env position bps = .ok (penalty, principal)) (hamount : 0 ≤ position.amount)
    (hbps : bps ≤ maxPenaltyBps) :
    principal = position.amount - penalty ∧ 0 ≤ penalty ∧ penalty ≤ position.amount := by
  unfold exitTerms at h
  split at h
  · obtain ⟨p, hp, h⟩ := bind_ok.mp h
    rw [I128.checked_bind] at h
    cases h.2
    exact ⟨rfl, calculatePenalty_ok hp hamount hbps⟩
  · cases h
    exact ⟨by omega, le_rfl, hamount⟩

theorem assertAdmin_bind {caller : Address} {f : Unit → Result β} {r : β} :
    (assertAdmin s caller >>= f) = .ok r ↔ s.admin = some caller ∧ f () = .ok r := by
  simp only [assertAdmin, bind_assoc, expect_bind, panicIf_bind, ne_eq, not_not]
  constructor
  · rintro ⟨admin, hadmin, rfl, h⟩
    exact ⟨hadmin, h⟩
  · rintro ⟨hadmin, h⟩
    exact ⟨caller, hadmin, rfl, h⟩

theorem loadStake_bind {stakeId : ℕ} {f : StakePosition → Result β} {r : β} :
    (loadStake s stakeId >>= f) = .ok r ↔
      stakeId ≠ 0 ∧ ∃ position, s.stakePosition.get? stakeId = some position ∧
        f position = .ok r := by
  simp only [loadStake, bind_assoc, panicIf_bind, expect_bind, ne_eq]

theorem loadTier_bind {tierId : ℕ} {f : StakingTier → Result β} {r : β} :
    (loadTier s tierId >>= f) = .ok r ↔
      tierId ≠ 0 ∧ ∃ tier, s.tier.get? tierId = some tier ∧ f tier = .ok r := by
  simp only [loadTier, bind_assoc, panicIf_bind, expect_bind, ne_eq]

theorem rejectIf_bind {α : Type} {new : Option α} {bad : α → Prop} [DecidablePred bad]
    {message : String} {f : Unit → Result β} {r : β} :
    (rejectIf new bad message >>= f) = .ok r ↔ (∀ value ∈ new, ¬ bad value) ∧ f () = .ok r := by
  cases new with
  | none => simp [rejectIf]
  | some value => simp [rejectIf, panicIf_bind]

theorem transferToken_bind {tok : Token τ} {token source target : Address} {amount : ℤ}
    {f : State τ → Result β} {r : β} :
    (transferToken tok s token source target amount >>= f) = .ok r ↔
      (s.reentrancyLock = false ∧ 0 < amount) ∧
      ∃ tokens, tok.transfer s.tokens token source target amount = some tokens ∧
        f { s with tokens, reentrancyLock := false } = .ok r := by
  simp only [transferToken, enterNonReentrant, exitNonReentrant, transferTokenUnchecked,
    bind_assoc, panicIf_bind, Token.pay_bind, ok_bind, not_le, Bool.not_eq_true]
  tauto

/-- A payment that is skipped when there is nothing to pay. -/
def Sent (tok : Token τ) (t : τ) (token source target : Address) (n : ℤ) (t' : τ) : Prop :=
  if n > 0 then tok.transfer t token source target n = some t' else t' = t

theorem transferPositive_bind {tok : Token τ} {token source target : Address} {amount : ℤ}
    {f : State τ → Result β} {r : β} :
    (transferPositive tok s token source target amount >>= f) = .ok r ↔
      ∃ tokens, Sent tok s.tokens token source target amount tokens ∧
        f { s with tokens } = .ok r := by
  unfold transferPositive Sent
  split
  · rename_i hpos
    simp only [transferTokenUnchecked, bind_assoc, panicIf_bind, Token.pay_bind, ok_bind]
    exact ⟨fun h => h.2, fun h => ⟨by omega, h⟩⟩
  · simp

end ClosedForms

/-- The positions after the second pass of a batch claim. -/
def settleStore (rpt : ℤ) : List (ℕ × ℤ) → Store ℕ StakePosition → Store ℕ StakePosition
  | [], positions => positions
  | (stakeId, pending) :: rest, positions =>
    if pending > 0 then
      match positions.get? stakeId with
      | some position =>
        settleStore rpt rest (positions.set stakeId { position with rewardPerTokenPaid := rpt })
      | none => settleStore rpt rest positions
    else settleStore rpt rest positions

/-- What a list of pending rewards pays. -/
def paidOut (pendings : List ℤ) : ℤ := (pendings.map (max · 0)).sum

/-- What the first pass found on one listed stake. -/
structure Due (env : Env) (user : Address) (s : State τ) (stakeId : ℕ) (pending : ℤ) : Prop where
  due : ∃ position tier, s.stakePosition.get? stakeId = some position ∧
    position.user = user ∧ position.active = true ∧ s.tier.get? position.tierId = some tier ∧
    calculatePendingRewardsStatic env s position tier.rewardMultiplierBps = .ok pending

theorem pendingList_ok {env : Env} {user : Address} {s : State τ} {ids : List ℕ}
    {pendings : List ℤ} (h : pendingList env user s ids = .ok pendings) :
    List.Forall₂ (Due env user s) ids pendings := by
  induction ids generalizing pendings with
  | nil =>
    cases h
    exact .nil
  | cons id rest ih =>
    unfold pendingList at h
    simp only [loadStake_bind, loadTier_bind, panicIf_bind, ne_eq, not_not,
      Bool.not_eq_false] at h
    obtain ⟨-, position, hstored, huser, hactive, -, tier, htier, h⟩ := h
    obtain ⟨pending, hpending, h⟩ := bind_ok.mp h
    obtain ⟨tail, htail, h⟩ := bind_ok.mp h
    cases h
    exact .cons ⟨position, tier, hstored, huser, hactive, htier, hpending⟩ (ih htail)

theorem settleList_ok {rpt total total' : ℤ} {ids : List ℕ} {pendings : List ℤ}
    {s s' : State τ} (hlen : ids.length = pendings.length)
    (h : settleList rpt (ids.zip pendings) total s = .ok (total', s')) :
    s' = { s with stakePosition := settleStore rpt (ids.zip pendings) s.stakePosition } ∧
      total' = total + paidOut pendings := by
  induction ids generalizing pendings total s with
  | nil =>
    cases pendings with
    | nil =>
      cases h
      simp [paidOut, settleStore]
    | cons _ _ => simp at hlen
  | cons id ids ih =>
    cases pendings with
    | nil => simp at hlen
    | cons pending pendings =>
      have hlen' : ids.length = pendings.length := by simpa using hlen
      simp only [List.zip_cons_cons, settleList] at h
      simp only [List.zip_cons_cons, settleStore, paidOut, List.map_cons, List.sum_cons]
      split at h
      · rename_i hpos
        simp only [loadStake_bind, I128.checked_bind] at h
        obtain ⟨-, position, hstored, -, h⟩ := h
        obtain ⟨rfl, rfl⟩ := ih hlen' h
        rw [if_pos hpos, hstored, max_eq_left (by omega), paidOut]
        exact ⟨rfl, by ring⟩
      · rename_i hzero
        obtain ⟨rfl, rfl⟩ := ih hlen' h
        rw [if_neg hzero, max_eq_right (by omega), paidOut]
        exact ⟨rfl, by ring⟩

/-- The active positions of `user` among the listed ones, closed one by one. -/
inductive Closings (user : Address) : List ℕ → State τ → ℤ → State τ → Prop
  | nil (s : State τ) : Closings user [] s 0 s
  | skip (id : ℕ) (rest : List ℕ) (position : StakePosition) (s s' : State τ) (total : ℤ)
      (stored : s.stakePosition.get? id = some position)
      (other : position.user ≠ user ∨ position.active = false)
      (tail : Closings user rest s total s') : Closings user (id :: rest) s total s'
  | close (id : ℕ) (rest : List ℕ) (position : StakePosition) (tier : StakingTier)
      (s s' : State τ) (total : ℤ) (stored : s.stakePosition.get? id = some position)
      (mine : position.user = user) (active : position.active = true)
      (tiered : s.tier.get? position.tierId = some tier)
      (tail : Closings user rest (closed s id position tier.rewardMultiplierBps) total s') :
      Closings user (id :: rest) s (position.amount + total) s'

theorem deactivateAll_ok {user : Address} {ids : List ℕ} {total total' : ℤ} {s s' : State τ}
    (h : deactivateAll user ids total s = .ok (total', s')) :
    ∃ sum, Closings user ids s sum s' ∧ total' = total + sum := by
  induction ids generalizing total s with
  | nil =>
    cases h
    exact ⟨0, .nil _, (add_zero _).symm⟩
  | cons id rest ih =>
    unfold deactivateAll at h
    rw [loadStake_bind] at h
    obtain ⟨-, position, hstored, h⟩ := h
    split at h
    · rename_i hother
      obtain ⟨sum, hclosings, hsum⟩ := ih h
      exact ⟨sum, .skip id rest position s s' sum hstored hother hclosings, hsum⟩
    · rename_i hmine
      rw [loadTier_bind] at h
      obtain ⟨-, tier, htier, h⟩ := h
      obtain ⟨s₁, hs₁, h⟩ := bind_ok.mp h
      rw [I128.checked_bind] at h
      obtain ⟨sum, hclosings, hsum⟩ := ih h.2
      rw [deactivate_ok hs₁] at hclosings
      push Not at hmine
      exact ⟨position.amount + sum, .close id rest position tier s s' sum hstored hmine.1
        (by simpa using hmine.2) htier hclosings, by omega⟩

/-- Closing positions touches the positions and the two totals only. -/
theorem Closings.frame {user : Address} {ids : List ℕ} {s s' : State τ} {total : ℤ}
    (h : Closings user ids s total s') :
    s' = { s with
      stakePosition := s'.stakePosition, totalStaked := s'.totalStaked
      totalWeightedStake := s'.totalWeightedStake } := by
  induction h with
  | nil => rfl
  | skip _ _ _ _ _ _ _ _ _ ih => exact ih
  | close _ _ _ _ _ _ _ _ _ _ _ _ ih => exact ih

/-- A tier after an update. -/
def StakingTier.updated (tier : StakingTier) (new : TierUpdate) : StakingTier :=
  { tier with
    name := new.name.getD tier.name
    minStakeAmount := new.minStakeAmount.getD tier.minStakeAmount
    lockDurationSeconds := new.lockDurationSeconds.getD tier.lockDurationSeconds
    rewardMultiplierBps := new.rewardMultiplierBps.getD tier.rewardMultiplierBps
    penaltyBps := new.penaltyBps.getD tier.penaltyBps }

/-- What holds of the old value of a field and of every value that may replace it
holds after the update. -/
theorem updated_field {α : Type} {P : α → Prop} {new : Option α} {old : α} (hold : P old)
    (hnew : ∀ value, new = some value → P value) : P (new.getD old) := by
  cases new with
  | none => exact hold
  | some value => exact hnew value rfl

inductive Effect (tok : Token τ) (self : Address) (s : State τ) : Action τ → State τ → Prop
  | transfers (tokens : τ) : Effect tok self s (.transfers tokens) { s with tokens }
  | initializeContract (env : Env) (admin token : Address) (rate : ℤ) (fresh : s.admin = none)
      (nonneg : 0 ≤ rate) :
      Effect tok self s (.call env (.initializeContract admin token rate))
        { s with
          admin := some admin, rewardToken := some token, paused := false
          rewardRatePerSecond := rate, lastRewardTime := env.timestamp
          rewardPerTokenStored := 0, totalWeightedStake := 0, totalStaked := 0
          totalRewardsDistributed := 0, stakeCounter := 0, tierCounter := 0, tierIds := []
          reentrancyLock := false }
  | pause (env : Env) (admin : Address) (authorized : s.admin = some admin) :
      Effect tok self s (.call env (.pause admin)) { s with paused := true }
  | unpause (env : Env) (admin : Address) (authorized : s.admin = some admin) :
      Effect tok self s (.call env (.unpause admin)) { s with paused := false }
  | setRewardRate (env : Env) (admin : Address) (rate : ℤ) (authorized : s.admin = some admin)
      (nonneg : 0 ≤ rate) (settles : updatePool env s = .ok (settled env.timestamp s)) :
      Effect tok self s (.call env (.setRewardRate admin rate))
        { settled env.timestamp s with rewardRatePerSecond := rate }
  | addTier (env : Env) (admin : Address) (name : String) (least : ℤ)
      (lock multiplier penalty : ℕ) (authorized : s.admin = some admin)
      (positive : multiplier ≠ 0) (bounded : penalty ≤ maxPenaltyBps) :
      Effect tok self s (.call env (.addTier admin name least lock multiplier penalty))
        { s with
          tierCounter := s.tierCounter + 1
          tier := s.tier.set (s.tierCounter + 1)
            ⟨s.tierCounter + 1, name, least, lock, multiplier, penalty, true, env.timestamp⟩
          tierIds := s.tierIds ++ [s.tierCounter + 1] }
  | updateTier (env : Env) (admin : Address) (id : ℕ) (new : TierUpdate) (tier : StakingTier)
      (authorized : s.admin = some admin) (stored : s.tier.get? id = some tier)
      (active : tier.active = true) (positive : ∀ m ∈ new.rewardMultiplierBps, m ≠ 0)
      (bounded : ∀ p ∈ new.penaltyBps, p ≤ maxPenaltyBps) :
      Effect tok self s (.call env (.updateTier admin id new))
        { s with tier := s.tier.set id (tier.updated new) }
  | deactivateTier (env : Env) (admin : Address) (id : ℕ) (tier : StakingTier)
      (authorized : s.admin = some admin) (stored : s.tier.get? id = some tier) :
      Effect tok self s (.call env (.deactivateTier admin id))
        { s with tier := s.tier.set id { tier with active := false } }
  | stake (env : Env) (user token : Address) (amount : ℤ) (tierId : ℕ) (tier : StakingTier)
      (tokens : τ) (positive : 0 < amount) (stored : s.tier.get? tierId = some tier)
      (nonzero : tierId ≠ 0)
      (settles : updatePool env s = .ok (settled env.timestamp s))
      (weighs : calculateWeight amount tier.rewardMultiplierBps =
        .ok (weightOf amount tier.rewardMultiplierBps))
      (fits : I128.InRange (s.totalStaked + amount) ∧
        I128.InRange (s.totalWeightedStake + weightOf amount tier.rewardMultiplierBps))
      (asset : s.rewardToken = some token)
      (paid : tok.transfer s.tokens token user self amount = some tokens) :
      Effect tok self s (.call env (.stake user amount tierId))
        { settled env.timestamp s with
          stakeCounter := s.stakeCounter + 1
          stakePosition := s.stakePosition.set (s.stakeCounter + 1)
            ⟨s.stakeCounter + 1, user, amount, tierId, env.timestamp,
              env.timestamp + tier.lockDurationSeconds, rptAt env.timestamp s, true⟩
          userStakeIds := s.userStakeIds.set user (getUserStakeIds s user ++ [s.stakeCounter + 1])
          totalStaked := s.totalStaked + amount
          totalWeightedStake := s.totalWeightedStake + weightOf amount tier.rewardMultiplierBps
          tokens, reentrancyLock := false }
  | unstake (env : Env) (user token : Address) (id : ℕ) (position : StakePosition)
      (tier : StakingTier) (pending penalty principal : ℤ) (tokens₁ tokens : τ)
      (stored : s.stakePosition.get? id = some position) (mine : position.user = user)
      (active : position.active = true) (tiered : s.tier.get? position.tierId = some tier)
      (calculated :
        calculatePendingRewardsStatic env s position tier.rewardMultiplierBps = .ok pending)
      (settles : updatePool env s = .ok (settled env.timestamp s))
      (terms : exitTerms env position tier.penaltyBps = .ok (penalty, principal))
      (asset : s.rewardToken = some token)
      (sent : Sent tok s.tokens token self user principal tokens₁)
      (sent' : Sent tok tokens₁ token self user pending tokens) :
      Effect tok self s (.call env (.unstake user id))
        { closed (settled env.timestamp s) id position tier.rewardMultiplierBps with
          totalRewardsDistributed := s.totalRewardsDistributed + max pending 0
          tokens, reentrancyLock := false }
  | claimRewards (env : Env) (user token : Address) (id : ℕ) (position : StakePosition)
      (tier : StakingTier) (pending : ℤ) (tokens : τ)
      (stored : s.stakePosition.get? id = some position) (mine : position.user = user)
      (active : position.active = true) (tiered : s.tier.get? position.tierId = some tier)
      (calculated :
        calculatePendingRewardsStatic env s position tier.rewardMultiplierBps = .ok pending)
      (positive : 0 < pending) (settles : updatePool env s = .ok (settled env.timestamp s))
      (asset : s.rewardToken = some token)
      (paid : tok.transfer s.tokens token self user pending = some tokens) :
      Effect tok self s (.call env (.claimRewards user id))
        { settled env.timestamp s with
          stakePosition := s.stakePosition.set id
            { position with rewardPerTokenPaid := rptAt env.timestamp s }
          totalRewardsDistributed := s.totalRewardsDistributed + pending
          tokens, reentrancyLock := false }
  | claimRewardsBatch (env : Env) (user token : Address) (ids : List ℕ) (pendings : List ℤ)
      (tokens : τ) (due : List.Forall₂ (Due env user s) ids pendings)
      (positive : 0 < paidOut pendings)
      (settles : updatePool env s = .ok (settled env.timestamp s))
      (asset : s.rewardToken = some token)
      (paid : tok.transfer s.tokens token self user (paidOut pendings) = some tokens) :
      Effect tok self s (.call env (.claimRewardsBatch user ids))
        { settled env.timestamp s with
          stakePosition := settleStore (rptAt env.timestamp s) (ids.zip pendings) s.stakePosition
          totalRewardsDistributed := s.totalRewardsDistributed + paidOut pendings
          tokens, reentrancyLock := false }
  | emergencyWithdraw (env : Env) (admin user token : Address) (id : ℕ) (position : StakePosition)
      (tier : StakingTier) (tokens : τ) (authorized : s.admin = some admin)
      (stored : s.stakePosition.get? id = some position) (mine : position.user = user)
      (active : position.active = true) (tiered : s.tier.get? position.tierId = some tier)
      (asset : s.rewardToken = some token)
      (paid : tok.transfer s.tokens token self user position.amount = some tokens) :
      Effect tok self s (.call env (.emergencyWithdraw admin user id))
        { closed s id position tier.rewardMultiplierBps with tokens, reentrancyLock := false }
  | emergencyWithdrawAll (env : Env) (admin user : Address) (total : ℤ) (s₁ : State τ)
      (tokens : τ) (lock : Bool) (authorized : s.admin = some admin)
      (closings : Closings user (getUserStakeIds s user) s total s₁)
      (sent : if total > 0 then ∃ token, s.rewardToken = some token ∧
          tok.transfer s.tokens token self user total = some tokens
        else tokens = s.tokens) :
      Effect tok self s (.call env (.emergencyWithdrawAll admin user))
        { s₁ with tokens, reentrancyLock := lock }
  | fundRewards (env : Env) (funder token : Address) (amount : ℤ) (tokens : τ)
      (positive : 0 < amount) (asset : s.rewardToken = some token)
      (paid : tok.transfer s.tokens token funder self amount = some tokens) :
      Effect tok self s (.call env (.fundRewards funder amount))
        { s with tokens, reentrancyLock := false }

section Inversion

variable {tok : Token τ} {self : Address} {env : Env} {s s' : State τ}

theorem setRewardRate_effect {admin : Address} {rate : ℤ}
    (h : setRewardRate env admin rate s = .ok s') :
    Effect tok self s (.call env (.setRewardRate admin rate)) s' := by
  unfold setRewardRate at h
  simp only [requireAuth_bind, assertAdmin_bind, panicIf_bind, not_lt] at h
  obtain ⟨-, hadmin, hrate, h⟩ := h
  obtain ⟨s₁, hs₁, h⟩ := bind_ok.mp h
  obtain rfl := updatePool_ok hs₁
  cases h
  exact .setRewardRate env admin rate hadmin hrate hs₁

theorem addTier_effect {admin : Address} {name : String} {least : ℤ}
    {lock multiplier penalty : ℕ} {r : ℕ × State τ}
    (h : addTier env admin name least lock multiplier penalty s = .ok r) :
    Effect tok self s (.call env (.addTier admin name least lock multiplier penalty)) r.2 := by
  unfold addTier at h
  simp only [requireAuth_bind, assertAdmin_bind, panicIf_bind, not_lt] at h
  obtain ⟨-, hadmin, -, -, hmultiplier, hpenalty, -, h⟩ := h
  obtain ⟨id, hid, h⟩ := bind_ok.mp h
  unfold U32.checked at hid
  split at hid
  · cases hid
    cases h
    exact .addTier env admin name least lock multiplier penalty hadmin hmultiplier hpenalty
  · cases hid

theorem updateTier_effect {admin : Address} {id : ℕ} {new : TierUpdate}
    {r : StakingTier × State τ} (h : updateTier env admin id new s = .ok r) :
    Effect tok self s (.call env (.updateTier admin id new)) r.2 := by
  unfold updateTier at h
  simp only [requireAuth_bind, assertAdmin_bind, loadTier_bind, panicIf_bind, rejectIf_bind,
    not_lt, Bool.not_eq_false] at h
  obtain ⟨-, hadmin, -, tier, htier, hactive, -, -, hmultiplier, hpenalty, h⟩ := h
  cases h
  exact .updateTier env admin id new tier hadmin htier hactive hmultiplier hpenalty

theorem deactivateTier_effect {admin : Address} {id : ℕ}
    (h : deactivateTier env admin id s = .ok s') :
    Effect tok self s (.call env (.deactivateTier admin id)) s' := by
  unfold deactivateTier at h
  simp only [requireAuth_bind, assertAdmin_bind, loadTier_bind, panicIf_bind] at h
  obtain ⟨-, hadmin, -, tier, htier, -, h⟩ := h
  cases h
  exact .deactivateTier env admin id tier hadmin htier

theorem stake_effect {user : Address} {amount : ℤ} {tierId : ℕ} {r : StakeResult × State τ}
    (h : stake tok self env user amount tierId s = .ok r) :
    Effect tok self s (.call env (.stake user amount tierId)) r.2 := by
  unfold stake at h
  simp only [requireAuth_bind, panicIf_bind, loadTier_bind, not_le, not_lt] at h
  obtain ⟨-, -, hpos, hnonzero, tier, htier, -, -, h⟩ := h
  obtain ⟨s₁, hs₁, h⟩ := bind_ok.mp h
  obtain rfl := updatePool_ok hs₁
  simp only [U64.checked_bind, I128.checked_bind] at h
  obtain ⟨-, -, hstaked, h⟩ := h
  obtain ⟨w, hw, h⟩ := bind_ok.mp h
  obtain ⟨rfl, -⟩ := calculateWeight_ok hw
  simp only [I128.checked_bind, getRewardToken, expect_bind, transferToken_bind] at h
  obtain ⟨hweighted, token, htoken, -, tokens, hpaid, h⟩ := h
  cases h
  exact .stake env user token amount tierId tier tokens hpos htier hnonzero hs₁ hw
    ⟨hstaked, hweighted⟩ htoken hpaid

theorem unstake_effect {user : Address} {id : ℕ} {r : UnstakeResult × State τ}
    (h : unstake tok self env user id s = .ok r) :
    Effect tok self s (.call env (.unstake user id)) r.2 := by
  unfold unstake at h
  simp only [requireAuth_bind, loadStake_bind, panicIf_bind, loadTier_bind, ne_eq, not_not,
    Bool.not_eq_false] at h
  obtain ⟨-, -, position, hstored, hmine, hactive, -, tier, htier, h⟩ := h
  obtain ⟨pending, hpending, h⟩ := bind_ok.mp h
  obtain ⟨s₁, hs₁, h⟩ := bind_ok.mp h
  obtain rfl := updatePool_ok hs₁
  obtain ⟨⟨penalty, principal⟩, hterms, h⟩ := bind_ok.mp h
  simp only [I128.checked_bind] at h
  obtain ⟨-, h⟩ := h
  obtain ⟨s₂, hs₂, h⟩ := bind_ok.mp h
  obtain rfl := deactivate_ok hs₂
  obtain ⟨s₃, hs₃, h⟩ := bind_ok.mp h
  have hdistributed : s₃ = { closed (settled env.timestamp s) id position
      tier.rewardMultiplierBps with
      totalRewardsDistributed := s.totalRewardsDistributed + max pending 0 } := by
    unfold distributedPositive at hs₃
    split at hs₃
    · rename_i hpos
      rw [distributed, I128.checked_bind] at hs₃
      cases hs₃.2
      rw [max_eq_left (by omega)]
      rfl
    · rename_i hzero
      cases hs₃
      rw [max_eq_right (by omega), add_zero]
      rfl
  subst hdistributed
  simp only [getRewardToken, expect_bind, enterNonReentrant, bind_assoc, panicIf_bind, ok_bind,
    transferPositive_bind] at h
  obtain ⟨token, htoken, -, tokens₁, hsent, tokens, hsent', h⟩ := h
  cases h
  exact .unstake env user token id position tier pending penalty principal tokens₁ tokens hstored
    hmine hactive htier hpending hs₁ hterms htoken hsent hsent'

theorem claimRewards_ok {user : Address} {id : ℕ} {r : ℤ × State τ}
    (h : claimRewards tok self env user id s = .ok r) :
    env.authorized user = true ∧ s.reentrancyLock = false ∧
    I128.InRange (s.totalRewardsDistributed + r.1) ∧
    ∃ token position tier tokens, s.stakePosition.get? id = some position ∧
      position.user = user ∧ position.active = true ∧
      s.tier.get? position.tierId = some tier ∧
      calculatePendingRewardsStatic env s position tier.rewardMultiplierBps = .ok r.1 ∧ 0 < r.1 ∧
      updatePool env s = .ok (settled env.timestamp s) ∧ s.rewardToken = some token ∧
      tok.transfer s.tokens token self user r.1 = some tokens ∧
      r.2 = { settled env.timestamp s with
        stakePosition := s.stakePosition.set id
          { position with rewardPerTokenPaid := rptAt env.timestamp s }
        totalRewardsDistributed := s.totalRewardsDistributed + r.1
        tokens, reentrancyLock := false } := by
  unfold claimRewards at h
  simp only [requireAuth_bind, loadStake_bind, panicIf_bind, loadTier_bind, ne_eq, not_not,
    Bool.not_eq_false] at h
  obtain ⟨hauth, -, position, hstored, hmine, hactive, -, tier, htier, h⟩ := h
  obtain ⟨pending, hpending, h⟩ := bind_ok.mp h
  rw [panicIf_bind] at h
  obtain ⟨hpos, h⟩ := h
  obtain ⟨s₁, hs₁, h⟩ := bind_ok.mp h
  obtain rfl := updatePool_ok hs₁
  simp only [distributed, bind_assoc, ok_bind, I128.checked_bind, getRewardToken, expect_bind,
    transferToken_bind] at h
  obtain ⟨hfits, token, htoken, hunlocked, tokens, hpaid, h⟩ := h
  cases h
  exact ⟨hauth, hunlocked.1, hfits, token, position, tier, tokens, hstored, hmine, hactive, htier,
    hpending, by omega, hs₁, htoken, hpaid, rfl⟩

theorem claimRewards_effect {user : Address} {id : ℕ} {r : ℤ × State τ}
    (h : claimRewards tok self env user id s = .ok r) :
    Effect tok self s (.call env (.claimRewards user id)) r.2 := by
  obtain ⟨-, -, -, token, position, tier, tokens, hstored, hmine, hactive, htier, hpending, hpos,
    hs₁, htoken, hpaid, hr⟩ := claimRewards_ok h
  rw [hr]
  exact .claimRewards env user token id position tier r.1 tokens hstored hmine hactive htier
    hpending hpos hs₁ htoken hpaid

theorem claimRewardsBatch_ok {user : Address} {ids : List ℕ} {r : ℤ × State τ}
    (h : claimRewardsBatch tok self env user ids s = .ok r) :
    env.authorized user = true ∧ s.reentrancyLock = false ∧ ids.length ≤ maxBatchSize ∧
    I128.InRange (s.totalRewardsDistributed + r.1) ∧
    ∃ token pendings tokens, List.Forall₂ (Due env user s) ids pendings ∧
      r.1 = paidOut pendings ∧ 0 < r.1 ∧
      updatePool env s = .ok (settled env.timestamp s) ∧ s.rewardToken = some token ∧
      tok.transfer s.tokens token self user r.1 = some tokens ∧
      r.2 = { settled env.timestamp s with
        stakePosition := settleStore (rptAt env.timestamp s) (ids.zip pendings) s.stakePosition
        totalRewardsDistributed := s.totalRewardsDistributed + r.1
        tokens, reentrancyLock := false } := by
  unfold claimRewardsBatch at h
  simp only [requireAuth_bind, panicIf_bind, not_lt] at h
  obtain ⟨hauth, -, hlength, h⟩ := h
  obtain ⟨pendings, hpendings, h⟩ := bind_ok.mp h
  obtain ⟨s₁, hs₁, h⟩ := bind_ok.mp h
  obtain rfl := updatePool_ok hs₁
  obtain ⟨⟨total, s₂⟩, hs₂, h⟩ := bind_ok.mp h
  have hdue := pendingList_ok hpendings
  obtain ⟨rfl, rfl⟩ := settleList_ok hdue.length_eq hs₂
  simp only [panicIf_bind, distributed, bind_assoc, ok_bind, I128.checked_bind, getRewardToken,
    expect_bind, transferToken_bind, zero_add] at h
  obtain ⟨hpos, hfits, token, htoken, hunlocked, tokens, hpaid, h⟩ := h
  cases h
  exact ⟨hauth, hunlocked.1, hlength, hfits, token, pendings, tokens, hdue, rfl, by omega, hs₁,
    htoken, hpaid, rfl⟩

theorem claimRewardsBatch_effect {user : Address} {ids : List ℕ} {r : ℤ × State τ}
    (h : claimRewardsBatch tok self env user ids s = .ok r) :
    Effect tok self s (.call env (.claimRewardsBatch user ids)) r.2 := by
  obtain ⟨-, -, -, -, token, pendings, tokens, hdue, hr, hpos, hs₁, htoken, hpaid, hstate⟩ :=
    claimRewardsBatch_ok h
  rw [hr] at hpos hpaid hstate
  rw [hstate]
  exact .claimRewardsBatch env user token ids pendings tokens hdue hpos hs₁ htoken hpaid

theorem emergencyWithdraw_effect {admin user : Address} {id : ℕ} {r : UnstakeResult × State τ}
    (h : emergencyWithdraw tok self env admin user id s = .ok r) :
    Effect tok self s (.call env (.emergencyWithdraw admin user id)) r.2 := by
  unfold emergencyWithdraw at h
  simp only [requireAuth_bind, assertAdmin_bind, loadStake_bind, panicIf_bind, loadTier_bind,
    ne_eq, not_not, Bool.not_eq_false] at h
  obtain ⟨-, hadmin, -, position, hstored, hmine, hactive, -, tier, htier, h⟩ := h
  obtain ⟨s₁, hs₁, h⟩ := bind_ok.mp h
  obtain rfl := deactivate_ok hs₁
  simp only [getRewardToken, expect_bind, transferToken_bind] at h
  obtain ⟨token, htoken, -, tokens, hpaid, h⟩ := h
  cases h
  exact .emergencyWithdraw env admin user token id position tier tokens hadmin hstored hmine
    hactive htier htoken hpaid

theorem emergencyWithdrawAll_effect {admin user : Address} {r : ℤ × State τ}
    (h : emergencyWithdrawAll tok self env admin user s = .ok r) :
    Effect tok self s (.call env (.emergencyWithdrawAll admin user)) r.2 := by
  unfold emergencyWithdrawAll at h
  simp only [requireAuth_bind, assertAdmin_bind] at h
  obtain ⟨-, hadmin, h⟩ := h
  obtain ⟨⟨total, s₁⟩, hs₁, h⟩ := bind_ok.mp h
  obtain ⟨sum, hclosings, rfl⟩ := deactivateAll_ok hs₁
  have hframe := hclosings.frame
  simp only [zero_add] at h
  split at h
  · rename_i hpos
    simp only [getRewardToken, expect_bind, transferToken_bind] at h
    obtain ⟨token, htoken, -, tokens, hpaid, h⟩ := h
    cases h
    rw [hframe] at htoken hpaid
    exact .emergencyWithdrawAll env admin user sum s₁ tokens false hadmin hclosings
      (by rw [if_pos hpos]; exact ⟨token, htoken, hpaid⟩)
  · rename_i hzero
    cases h
    exact .emergencyWithdrawAll env admin user sum s₁ s₁.tokens s₁.reentrancyLock hadmin hclosings
      (by rw [if_neg hzero, hframe])

/-- Every completed invocation has its effect. -/
theorem next_effect {a : Action τ} (h : next tok self a s = .ok s') : Effect tok self s a s' := by
  cases a with
  | transfers tokens =>
    cases h
    exact .transfers tokens
  | call env op =>
    cases op with
    | initializeContract admin token rate =>
      simp only [next, invoke, initializeContract, panicIf_bind, requireAuth_bind, not_lt] at h
      cases h.2.2.2
      exact .initializeContract env admin token rate (by simpa using h.1) h.2.2.1
    | pause admin =>
      simp only [next, invoke, pause, requireAuth_bind, assertAdmin_bind, panicIf_bind] at h
      cases h.2.2.2
      exact .pause env admin h.2.1
    | unpause admin =>
      simp only [next, invoke, unpause, requireAuth_bind, assertAdmin_bind, panicIf_bind] at h
      cases h.2.2.2
      exact .unpause env admin h.2.1
    | setRewardRate admin rate => exact setRewardRate_effect h
    | addTier =>
      obtain ⟨r, hr, rfl⟩ := map_ok.mp h
      exact addTier_effect hr
    | updateTier =>
      obtain ⟨r, hr, rfl⟩ := map_ok.mp h
      exact updateTier_effect hr
    | deactivateTier => exact deactivateTier_effect h
    | stake =>
      obtain ⟨r, hr, rfl⟩ := map_ok.mp h
      exact stake_effect hr
    | unstake =>
      obtain ⟨r, hr, rfl⟩ := map_ok.mp h
      exact unstake_effect hr
    | claimRewards =>
      obtain ⟨r, hr, rfl⟩ := map_ok.mp h
      exact claimRewards_effect hr
    | claimRewardsBatch =>
      obtain ⟨r, hr, rfl⟩ := map_ok.mp h
      exact claimRewardsBatch_effect hr
    | emergencyWithdraw =>
      obtain ⟨r, hr, rfl⟩ := map_ok.mp h
      exact emergencyWithdraw_effect hr
    | emergencyWithdrawAll =>
      obtain ⟨r, hr, rfl⟩ := map_ok.mp h
      exact emergencyWithdrawAll_effect hr
    | fundRewards funder amount =>
      simp only [next, invoke, fundRewards, requireAuth_bind, panicIf_bind, getRewardToken,
        expect_bind, not_le] at h
      obtain ⟨-, hpos, token, htoken, h⟩ := h
      rw [← bind_pure (transferToken _ _ _ _ _ _)] at h
      obtain ⟨-, tokens, hpaid, h⟩ := transferToken_bind.mp h
      cases h
      exact .fundRewards env funder token amount tokens hpos htoken hpaid

end Inversion

end Staking
