import StellAIverse.CrossChainBridge.Validators
import StellAIverse.Soroban.LazyWindow

/-!
# Volume limits

The counters of the day and of the month are two lazily reset windows over one
stream of transfers. A limit below zero lets nothing pass, and then the counters
stay at zero.
-/

namespace CrossChainBridge

open Soroban

variable {τ : Type} {tok : MintToken τ} {host : Host} {self : Address} {s s' : State τ}
  {a : Action τ} {log : List (State τ × Action τ)}

namespace RateLimitState

variable {now : ℕ} {user : Address} {amount : ℤ} {state : RateLimitState}

def daily (state : RateLimitState) : Meter := ⟨state.lastDailyReset, state.dailyUsed⟩

def monthly (state : RateLimitState) : Meter := ⟨state.lastMonthlyReset, state.monthlyUsed⟩

/-- What the users of the day add up to. -/
def users (state : RateLimitState) : ℤ := state.perUserDaily.total fun _ used => used

theorem daily_roll (now : ℕ) (state : RateLimitState) :
    ((state.day now).month now).daily = state.daily.roll secondsPerDay now := by
  have hmonth (state : RateLimitState) : (state.month now).daily = state.daily := by
    unfold month
    split <;> rfl
  rw [hmonth]
  unfold day Meter.roll daily
  split <;> rfl

theorem monthly_roll (now : ℕ) (state : RateLimitState) :
    ((state.day now).month now).monthly = state.monthly.roll secondsPerMonth now := by
  have hday : (state.day now).monthly = state.monthly := by
    unfold day
    split <;> rfl
  rw [← hday]
  unfold month Meter.roll monthly
  split <;> rfl

theorem users_roll (h : state.users = state.dailyUsed) :
    ((state.day now).month now).users = ((state.day now).month now).dailyUsed := by
  have hday : (state.day now).users = (state.day now).dailyUsed := by
    unfold day
    split
    · rfl
    · exact h
  unfold month
  split <;> exact hday

theorem users_count (h : state.users = state.dailyUsed) :
    (state.count user amount).users = (state.count user amount).dailyUsed := by
  have hweight : state.perUserDaily.weight (fun _ used => used) user =
      state.perUserDaily.amount user := by
    unfold Store.weight Store.amount
    cases state.perUserDaily.get? user <;> rfl
  unfold users at h ⊢
  simp only [count, Store.total_set, hweight, h]
  ring

end RateLimitState

/-- When a transfer was initiated and its amount. -/
def initiation (e : State τ × Action τ) : Option (ℕ × ℤ) :=
  match e.2 with
  | .call env (.initiateTransfer _ _ _ amount _ _) => some (env.timestamp, amount)
  | _ => none

def initiations (log : List (State τ × Action τ)) : List (ℕ × ℤ) := log.filterMap initiation

/-- The counters are those of the transfers so far. -/
structure Counted (events : List (ℕ × ℤ)) (config : RateLimitConfig) (state : RateLimitState) :
    Prop where
  daily : Metered secondsPerDay config.dailyLimit events state.daily
  monthly : Metered secondsPerMonth config.monthlyLimit events state.monthly
  users : state.users = state.dailyUsed

/-- A transfer that passes is counted. -/
theorem Counted.passes {events : List (ℕ × ℤ)} {config : RateLimitConfig} {now : ℕ} {user : Address}
    {amount : ℤ} {state state' : RateLimitState} (h : Counted events config state)
    (hamount : 0 ≤ amount) (hpasses : Passes now config user amount state state') :
    Counted ((now, amount) :: events) config state' := by
  have hdaily := RateLimitState.daily_roll now state
  have hmonthly := RateLimitState.monthly_roll now state
  rw [hpasses.counted]
  constructor
  · have hspent : (((state.day now).month now).count user amount).daily =
        state.daily.spend secondsPerDay now amount := by
      rw [Meter.spend, ← hdaily]
      rfl
    rw [hspent]
    refine h.daily.spend hpasses.daily_past hamount ?_
    rw [← hdaily]
    exact hpasses.daily
  · have hspent : (((state.day now).month now).count user amount).monthly =
        state.monthly.spend secondsPerMonth now amount := by
      rw [Meter.spend, ← hmonthly]
      rfl
    rw [hspent]
    refine h.monthly.spend hpasses.monthly_past hamount ?_
    rw [← hmonthly]
    exact hpasses.monthly
  · exact RateLimitState.users_count (RateLimitState.users_roll h.users)

structure Rated (log : List (State τ × Action τ)) (s : State τ) : Prop where
  idle : s.rateLimitState = none → initiations log = []
  counted : ∀ config state, s.rateLimitConfig = some config → s.rateLimitState = some state →
    Counted (initiations log) config state

theorem rated_step (h : Rated log s) (hfresh : Fresh s) (heffect : Effect tok self s a s') :
    Rated ((s, a) :: log) s' := by
  cases heffect with
  | initializeContract env admin chainId signatureConfig feeConfig rateLimitConfig fresh =>
    have hnothing : initiations log = [] := h.idle (by rw [hfresh fresh]; rfl)
    refine ⟨fun hnone => (by cases hnone), ?_⟩
    rintro config state ⟨⟩ ⟨⟩
    change Counted (initiations log) _ _
    rw [hnothing]
    exact ⟨.new _ _ _, .new _ _ _, rfl⟩
  | initiateTransfer env destinationChain recipient tokenAddress amount nonce sender token
      sourceChain limits rates rates' config fee tokens supported chain abroad positive limited
      counters passes =>
    refine ⟨fun hnone => (by cases hnone), ?_⟩
    rintro config state hconfig ⟨⟩
    obtain rfl : limits = config := Option.some.inj (limited.symm.trans hconfig)
    exact (h.counted limits rates limited counters).passes positive.le passes
  | _ => exact ⟨h.idle, h.counted⟩

theorem history_rated {ok : List (State τ × Action τ) → State τ → Action τ → Prop} {start : τ}
    (hrun : History (next tok host self) ok (deployed start) log s) : Rated log s :=
  run_preserves hrun ⟨fun _ => rfl, fun _ _ hconfig => (by cases hconfig)⟩
    fun _ _ _ _ hfresh _ heffect h => rated_step h hfresh heffect

/-- The counters are the volumes since the last resets, within the given bounds, and an interval
of a day or of a month sees at most twice the bound. -/
structure VolumeLimited (dailyBound monthlyBound : ℤ) (log : List (State τ × Action τ))
    (state : RateLimitState) : Prop where
  daily : state.dailyUsed = volume (fun t => state.lastDailyReset ≤ t) (initiations log)
  daily_le : state.dailyUsed ≤ dailyBound
  monthly : state.monthlyUsed = volume (fun t => state.lastMonthlyReset ≤ t) (initiations log)
  monthly_le : state.monthlyUsed ≤ monthlyBound
  users : (state.perUserDaily.total fun _ used => used) = state.dailyUsed
  any_day : ∀ x, volume (fun t => x ≤ t ∧ t ≤ x + secondsPerDay) (initiations log) ≤ 2 * dailyBound
  any_month : ∀ x,
    volume (fun t => x ≤ t ∧ t ≤ x + secondsPerMonth) (initiations log) ≤ 2 * monthlyBound

/-- In every run, whatever its ledger times, the volumes are within the limits, where a negative
limit counts as zero. -/
theorem volume_limited {start : τ} {config : RateLimitConfig} {state : RateLimitState}
    (hrun : History (next tok host self) (fun _ _ _ => True) (deployed start) log s)
    (hconfig : s.rateLimitConfig = some config) (hstate : s.rateLimitState = some state) :
    VolumeLimited (max config.dailyLimit 0) (max config.monthlyLimit 0) log state := by
  obtain ⟨hdaily, hmonthly, husers⟩ := (history_rated hrun).counted config state hconfig hstate
  exact ⟨hdaily.used, hdaily.within, hmonthly.used, hmonthly.within, husers, hdaily.spread,
    hmonthly.spread⟩

section Runs

open Sample

/-- The limit of a day is used up twice. -/
def twoDays : List (ℕ × Op) := [
  (0, opened 67 100 500),
  (1, .addSupportedToken usdc "USDC" 7 true true []),
  (86400, .initiateTransfer .ethereum [5] usdc 100 1 alice),
  (86401, .initiateTransfer .ethereum [5] usdc 100 2 alice)]

theorem volume_limited_twoDays :
    ∃ log s, History (next issuedAsset verifier contract) (fun _ _ _ => True) start log s ∧
      volume (fun t => 86400 ≤ t ∧ t ≤ 172800) (initiations log) = 200 ∧
      ∃ config state, s.rateLimitConfig = some config ∧ s.rateLimitState = some state ∧
        config.dailyLimit = 100 ∧ state.lastDailyReset = 86401 ∧ state.dailyUsed = 100 ∧
        state.monthlyUsed = 200 ∧
        VolumeLimited (max config.dailyLimit 0) (max config.monthlyLimit 0) log state := by
  have h : After (fun h =>
        volume (fun t => 86400 ≤ t ∧ t ≤ 172800) (initiations h.1) = 200 ∧
        (∃ config ∈ h.2.rateLimitConfig, config.dailyLimit = 100) ∧
        ∃ state ∈ h.2.rateLimitState, state.lastDailyReset = 86401 ∧ state.dailyUsed = 100 ∧
          state.monthlyUsed = 200)
      (record (next issuedAsset verifier contract) (fun _ _ _ => True) (calls twoDays)
        ([], start)) := by
    decide +kernel
  obtain ⟨⟨log, s⟩, hrec, hvolume, ⟨config, hconfig, hlimit⟩, state, hstate, hreset, hday, hmonth⟩ :=
    h.exists_ok
  have hrun : History (next issuedAsset verifier contract) (fun _ _ _ => True) start log s :=
    record_history _ (fun _ _ _ _ _ => trivial) .nil hrec
  exact ⟨log, s, hrun, hvolume, config, state, hconfig, hstate, hlimit, hreset, hday, hmonth,
    volume_limited hrun hconfig hstate⟩

/-- A contract initialized with a negative limit has used nothing, which is more than that. -/
theorem negative_limit_exceeded :
    ¬ ∀ (log : List (State Balances × Action Balances)) (s : State Balances)
        (config : RateLimitConfig) (state : RateLimitState),
      History (next issuedAsset verifier contract) (fun log _ a => OnTime Action.time log a) start
        log s →
      s.rateLimitConfig = some config → s.rateLimitState = some state →
      VolumeLimited config.dailyLimit config.monthlyLimit log state := by
  have h : After (fun h => (∃ config ∈ h.2.rateLimitConfig, config.dailyLimit = -1) ∧
        ∃ state ∈ h.2.rateLimitState, state.dailyUsed = 0)
      (record (next issuedAsset verifier contract) (fun log _ a => OnTime Action.time log a)
        (calls [(0, opened 67 (-1) 500)]) ([], start)) := by
    decide +kernel
  obtain ⟨⟨log, s⟩, hrec, ⟨config, hconfig, hlimit⟩, state, hstate, hused⟩ := h.exists_ok
  have hrun : History (next issuedAsset verifier contract)
      (fun log _ a => OnTime Action.time log a) start log s :=
    record_run hrec
  intro hall
  have hle := (hall log s config state hrun hconfig hstate).daily_le
  rw [hused, hlimit] at hle
  exact absurd hle (by decide)

end Runs

end CrossChainBridge
