import StellAIverse.Vault.Deposits

/-!
# Harvests and migrations

The two operations that compare or move the balances of strategies. A harvest charges its
strategy for every gain on that strategy's own balance, the mark or not. A migration moves
allocations and leaves balances behind.
-/

namespace Vault

open Soroban

variable {τ : Type} {tok : Token τ} {self : Address} {s s' t : State τ} {a : Action τ}

def balance (s : State τ) (id : String) : ℤ :=
  match s.strategy.get? id with
  | some config => config.currentBalance
  | none => 0

theorem balance_some {id : String} {config : StrategyConfig}
    (h : s.strategy.get? id = some config) : balance s id = config.currentBalance := by
  simp [balance, h]

/-- The gain on the balance of a strategy that reports `reported`. -/
def reportedGain (s : State τ) (id : String) (reported : ℤ) : ℤ := max (reported - balance s id) 0

/-- The part of a gain that lifts total assets above the mark. -/
def gainAboveMark (s : State τ) (gains : ℤ) : ℤ :=
  min gains (max (s.totalAssets + gains - s.highWaterMark) 0)

/-- The fee of the rest of the gain, which only refills total assets, is lost in rounding. -/
def RefillRoundsOff (s : State τ) (gains : ℤ) : Prop :=
  gainAboveMark s gains * s.performanceFeeBps % bpsDenominator +
    (gains - gainAboveMark s gains) * s.performanceFeeBps < bpsDenominator

theorem harvestStrategy_ok {env : Env} {id : String} {reported : ℤ} {r : HarvestResult × State τ}
    (h : harvestStrategy env id reported s = .ok r) :
    r.1.gains = reportedGain s id reported ∧
      r.1.performanceFee = feeOn r.1.gains s.performanceFeeBps := by
  unfold harvestStrategy at h
  simp only [loadStrategy, expect_bind, panicIf_bind, Bool.not_eq_false] at h
  obtain ⟨config, hstored, -, h⟩ := h
  obtain ⟨gains, hgains, h⟩ := bind_ok.mp h
  obtain ⟨losses, -, h⟩ := bind_ok.mp h
  obtain ⟨fee, hfee, h⟩ := bind_ok.mp h
  obtain ⟨assets, -, h⟩ := bind_ok.mp h
  simp only [I128.checked_bind] at h
  obtain ⟨-, -, h⟩ := h
  obtain ⟨s₁, -, h⟩ := bind_ok.mp h
  cases h
  have hg := positivePart_ok hgains
  refine ⟨by rw [hg, reportedGain, balance_some hstored], ?_⟩
  rw [gainFee_ok hfee]
  split
  · rfl
  · rename_i hnone
    obtain rfl : gains = 0 := by omega
    simp [feeOn]

/-- Two gains, one part of the other, pay the same fee exactly if the difference rounds off. -/
theorem feeOn_eq_iff {part gains : ℤ} {feeBps : ℕ} (hpart : 0 ≤ part) (hle : part ≤ gains) :
    feeOn gains feeBps = feeOn part feeBps ↔
      part * feeBps % bpsDenominator + (gains - part) * feeBps < bpsDenominator := by
  have hp : 0 ≤ part * feeBps := by positivity
  have hg : 0 ≤ gains * feeBps := mul_nonneg (hpart.trans hle) (by positivity)
  have hrest : 0 ≤ (gains - part) * feeBps := mul_nonneg (by omega) (by positivity)
  have hsum : gains * feeBps = part * feeBps + (gains - part) * feeBps := by ring
  unfold feeOn bpsDenominator
  rw [Int.tdiv_eq_ediv_of_nonneg hp, Int.tdiv_eq_ediv_of_nonneg hg, hsum]
  omega

theorem gainAboveMark_bounds {gains : ℤ} (h : 0 ≤ gains) :
    0 ≤ gainAboveMark s gains ∧ gainAboveMark s gains ≤ gains := by
  unfold gainAboveMark
  omega

theorem feeOn_gainAboveMark_iff {gains : ℤ} (h : 0 ≤ gains) :
    feeOn gains s.performanceFeeBps = feeOn (gainAboveMark s gains) s.performanceFeeBps ↔
      RefillRoundsOff s gains := by
  obtain ⟨hpart, hle⟩ := gainAboveMark_bounds (s := s) h
  exact feeOn_eq_iff hpart hle

/-- A harvest that reports no more than the strategy had at its peak, and whose fee on the part
of the gain that refills total assets is lost in rounding. -/
def Action.Recovers (peak s : State τ) : Action τ → Prop
  | .call _ (.harvestStrategy id reported) =>
    reported ≤ balance peak id ∧ RefillRoundsOff s (reportedGain s id reported)
  | .transfers _ => True
  | _ => False

instance (s : State τ) (gains : ℤ) : Decidable (RefillRoundsOff s gains) :=
  inferInstanceAs (Decidable (_ < _))

/-- No strategy is above its peak, and total assets have fallen with the balances. -/
structure Below (peak s : State τ) : Prop where
  fees : s.totalFeesCollected = peak.totalFeesCollected
  balances : ∀ id config, s.strategy.get? id = some config →
    config.currentBalance - balance peak id ≤ 0
  assets : s.totalAssets ≤ peak.totalAssets +
    s.strategy.total fun id config => config.currentBalance - balance peak id
  mark : peak.totalAssets ≤ s.highWaterMark

theorem below_self (hm : s.totalAssets ≤ s.highWaterMark) : Below s s := by
  refine ⟨rfl, ?_, ?_, hm⟩
  · intro id config hstored
    rw [balance_some hstored]
    omega
  · rw [Store.total_eq_zero]
    · omega
    · intro id config hstored
      rw [balance_some hstored, sub_self]

theorem total_nonpos {K V : Type} [DecidableEq K] {w : K → V → ℤ} {store : Store K V}
    (h : ∀ k v, store.get? k = some v → w k v ≤ 0) : store.total w ≤ 0 := by
  have hle : store.total w ≤ store.total fun _ _ => 0 := Store.total_le_total h
  rwa [Store.total_eq_zero fun _ _ _ => rfl] at hle

/-- A balance that stays below its peak keeps total assets, with the gain, below theirs. -/
theorem Below.report {peak : State τ} (hb : Below peak s) {id : String} {config : StrategyConfig}
    (hstored : s.strategy.get? id = some config) (new : StrategyConfig)
    (hpeak : new.currentBalance ≤ balance peak id) :
    (∀ id' config', (s.strategy.set id new).get? id' = some config' →
      config'.currentBalance - balance peak id' ≤ 0) ∧
    s.totalAssets + (new.currentBalance - config.currentBalance) ≤ peak.totalAssets +
      (s.strategy.set id new).total fun id config => config.currentBalance - balance peak id := by
  refine ⟨Store.forall_set hb.balances (sub_nonpos.mpr hpeak), ?_⟩
  have hassets := hb.assets
  rw [Store.total_set, Store.weight_some hstored]
  omega

theorem Below.step {peak : State τ} (hb : Below peak s) (ha : a.Recovers peak s)
    (h : Effect tok self s a s') : Below peak s' := by
  cases h with
  | transfers => exact ⟨hb.fees, hb.balances, hb.assets, hb.mark⟩
  | harvestStrategy env id reported gains fee config stored active gains_eq fee_eq fits =>
    obtain ⟨hpeak, hrounds⟩ := ha
    rw [reportedGain, balance_some stored, ← gains_eq] at hrounds
    obtain ⟨hbalances, hassets⟩ := hb.report stored { config with
      currentBalance := reported, totalGains := config.totalGains + gains
      totalLosses := config.totalLosses + max (config.currentBalance - reported) 0
      lastHarvestAt := env.timestamp } hpeak
    have hlow := total_nonpos hbalances
    have hmark := hb.mark
    -- Nothing of the gain is above the mark, so the whole fee is rounded off.
    have hpart : gainAboveMark s gains = 0 := by
      unfold gainAboveMark
      simp only at hassets
      omega
    have hfree := (feeOn_gainAboveMark_iff (by omega)).mpr hrounds
    obtain rfl : fee = 0 := by
      rw [fee_eq, hfree, hpart]
      simp [feeOn]
    refine ⟨?_, hbalances, ?_, ?_⟩
    · simp only [max_self, add_zero]
      exact hb.fees
    · rw [sub_zero]
      exact hassets
    · simp only
      split <;> omega
  | _ => exact False.elim ha

/-- A harvest charges only the part of a gain above the mark exactly if the fee of the other
part is lost in rounding. Harvests of this kind, of any strategies, collect no fee as long as
no balance exceeds what it was before. -/
theorem harvest_above_mark (hs : Reachable tok self s) :
    (∀ env id reported r, harvestStrategy env id reported s = .ok r →
      (r.1.performanceFee = feeOn (gainAboveMark s r.1.gains) s.performanceFeeBps ↔
        RefillRoundsOff s (reportedGain s id reported))) ∧
    ∀ s', Steps (next tok self) (fun t a => a.Recovers s t) s s' →
      s'.totalFeesCollected = s.totalFeesCollected := by
  constructor
  · intro env id reported r h
    obtain ⟨hgains, hfee⟩ := harvestStrategy_ok h
    rw [hfee, hgains]
    exact feeOn_gainAboveMark_iff (le_max_right _ _)
  · intro s' hrun
    have hbelow : Below s s' :=
      hrun.preserves (P := Below s) (fun _ _ _ ha hn hb => hb.step ha (next_effect hn))
        (below_self hs.marked.1)
    exact hbelow.fees

section Recovery

open Sample

/-- A strategy of 1000 falls to 500 and recovers: the recovery is charged 20%. -/
theorem recovery_charged :
    ∃ s s₁ s₂ : State Balances, Reachable asset contract s ∧ balance s "lending" = 1000 ∧
      next asset contract (.call env (.harvestStrategy "lending" 500)) s = .ok s₁ ∧
      next asset contract (.call env (.harvestStrategy "lending" 1000)) s₁ = .ok s₂ ∧
      s₁.totalAssets + 500 ≤ s₁.highWaterMark ∧
      s₂.totalFeesCollected = s.totalFeesCollected + 100 := by
  have h : After (fun s => balance s "lending" = 1000 ∧ s.totalFeesCollected = 0 ∧
      After (fun s₁ => s₁.totalAssets + 500 ≤ s₁.highWaterMark ∧
        After (fun s₂ => s₂.totalFeesCollected = 100)
          (next asset contract (.call env (.harvestStrategy "lending" 1000)) s₁))
        (next asset contract (.call env (.harvestStrategy "lending" 500)) s))
      (run [.initializeContract admin usdc, .deposit alice 1000, .addStrategy admin "lending" alice,
        .setStrategyAllocation admin "lending" 10000]) := by
    decide +kernel
  obtain ⟨s, hs, hbalance, hfees, h⟩ := h.exists_ok
  obtain ⟨s₁, hs₁, hmark, h⟩ := h.exists_ok
  obtain ⟨s₂, hs₂, hfees₂⟩ := h.exists_ok
  exact ⟨s, s₁, s₂, run_reachable hs, hbalance, hs₁, hs₂, hmark, by omega⟩

/-- A loss of 4 and its recovery: the fee on 4 at 20% rounds to nothing. -/
theorem harvest_above_mark_small :
    ∃ s s' : State Balances, Reachable asset contract s ∧
      execute (next asset contract) [.call env (.harvestStrategy "lending" 996),
        .call env (.harvestStrategy "lending" 1000)] s = .ok s' ∧
      s'.totalFeesCollected = s.totalFeesCollected := by
  have h : After (fun s => balance s "lending" = 1000 ∧
      RefillRoundsOff s (reportedGain s "lending" 996) ∧
      After (fun s₁ => RefillRoundsOff s₁ (reportedGain s₁ "lending" 1000) ∧
        After (fun _ => True)
          (next asset contract (.call env (.harvestStrategy "lending" 1000)) s₁))
        (next asset contract (.call env (.harvestStrategy "lending" 996)) s))
      (run [.initializeContract admin usdc, .deposit alice 1000, .addStrategy admin "lending" alice,
        .setStrategyAllocation admin "lending" 10000]) := by
    decide +kernel
  obtain ⟨s, hs, hbalance, hrounds, h⟩ := h.exists_ok
  obtain ⟨s₁, hs₁, hrounds₁, h⟩ := h.exists_ok
  obtain ⟨s', hs', -⟩ := h.exists_ok
  have hdown : (Action.call env (.harvestStrategy "lending" 996)).Recovers s s :=
    ⟨by omega, hrounds⟩
  have hup : (Action.call env (.harvestStrategy "lending" 1000)).Recovers s s₁ :=
    ⟨by omega, hrounds₁⟩
  have hrun : Steps (next asset contract) (fun t a => a.Recovers s t) s s' :=
    ((Steps.refl s).tail hdown hs₁).tail hup hs'
  refine ⟨s, s', run_reachable hs, ?_, (harvest_above_mark (run_reachable hs)).2 s' hrun⟩
  simp only [execute, hs₁, hs', ok_bind]

end Recovery

/-- Everything allocated, over all strategies. -/
def allocated (s : State τ) : ℤ := s.strategy.total fun _ config => config.allocatedAssets

/-- Every strategy has the balance it was allocated. -/
def Synced (s : State τ) : Prop :=
  ∀ id config, s.strategy.get? id = some config → config.currentBalance = config.allocatedAssets

instance (s : State τ) : Decidable (Synced s) :=
  decidable_of_iff (∀ entry ∈ s.strategy.list,
    entry.2.currentBalance = entry.2.allocatedAssets)
    ⟨fun h id config hstored => h (id, config) (Store.mem_list.mpr hstored),
      fun h entry hentry => h entry.1 entry.2 (Store.mem_list.mp hentry)⟩

/-- What was allocated stays so, balances follow, and the target that reports what it is
allocated has no gain. -/
def Conserves (target : String) (s s' : State τ) : Prop :=
  allocated s' = allocated s ∧ (Synced s → Synced s' ∧
    ∀ env config r, s'.strategy.get? target = some config →
      harvestStrategy env target config.allocatedAssets s' = .ok r → r.1.gains = 0)

theorem allocated_migrate {source target : String} {fromConfig toConfig : StrategyConfig}
    (hfrom : s.strategy.get? source = some fromConfig)
    (hto : s.strategy.get? target = some toConfig) :
    allocated { s with
      strategy := (s.strategy.set source { fromConfig with allocatedAssets := 0 }).set target
        { toConfig with
          allocatedAssets := toConfig.allocatedAssets + fromConfig.allocatedAssets } } =
      allocated s + if source = target then fromConfig.allocatedAssets else 0 := by
  unfold allocated
  rw [Store.total_set, Store.total_set, Store.weight_set, Store.weight_some hfrom]
  split
  · rename_i hsame
    subst hsame
    cases hfrom.symm.trans hto
    rw [if_pos rfl]
    ring
  · rename_i hne
    rw [Store.weight_some hto, if_neg (fun h => hne h.symm)]
    ring

/-- A migration out of synced strategies leaves the target with less than its allocation. -/
theorem not_synced_migrate {target : String} {toConfig : StrategyConfig} {n : ℤ} (hn : 0 < n)
    (hsynced : Synced s) (hto : s.strategy.get? target = some toConfig)
    (hs' : s'.strategy.get? target =
      some { toConfig with allocatedAssets := toConfig.allocatedAssets + n }) : ¬ Synced s' := by
  intro hsynced'
  have hbefore := hsynced target toConfig hto
  have hafter := hsynced' target _ hs'
  simp only at hafter
  omega

/-- A migration conserves allocations exactly if it is between two strategies, and not every
balance agreed with its allocation before: otherwise they disagree after it. -/
theorem migrate_conserves_iff {env : Env} {admin : Address} {source target : String}
    (h : next tok self (.call env (.migrateStrategy admin source target)) s = .ok s') :
    Conserves target s s' ↔ source ≠ target ∧ ¬ Synced s := by
  cases next_effect h with
  | migrateStrategy _ _ _ _ fromConfig toConfig _ stored stored' _ positive =>
    have htotal := allocated_migrate stored stored'
    constructor
    · rintro ⟨hsum, hsynced⟩
      refine ⟨fun hsame => ?_, fun hbefore => ?_⟩
      · rw [htotal, if_pos hsame] at hsum
        omega
      · exact not_synced_migrate positive hbefore stored' (Store.get?_set_self _ _ _)
          (hsynced hbefore).1
    · rintro ⟨hne, hbefore⟩
      refine ⟨?_, fun hsynced => absurd hsynced hbefore⟩
      rw [htotal, if_neg hne, add_zero]

section Migration

open Sample

/-- Two strategies, allocated 60% and 40% of 1000. -/
def allocatedBoth (calls : List Op) : Result (State Balances) :=
  run ([.initializeContract admin usdc, .deposit alice 1000, .addStrategy admin "lending" alice,
    .addStrategy admin "staking" alice, .setStrategyAllocation admin "lending" 6000,
    .setStrategyAllocation admin "staking" 4000] ++ calls)

/-- A migration of a strategy to itself adds to what is allocated, and one between two synced
strategies takes them out of step. -/
theorem migration_not_conserved :
    ∃ s s₁ s₂ : State Balances, Reachable asset contract s ∧
      next asset contract (.call env (.migrateStrategy admin "lending" "lending")) s = .ok s₁ ∧
      allocated s = 1000 ∧ allocated s₁ = 1600 ∧ ¬ Conserves "lending" s s₁ ∧
      next asset contract (.call env (.migrateStrategy admin "lending" "staking")) s = .ok s₂ ∧
      Synced s ∧ ¬ Synced s₂ ∧ ¬ Conserves "staking" s s₂ := by
  have h : After (fun s => allocated s = 1000 ∧ Synced s ∧
      After (fun s₁ => allocated s₁ = 1600)
        (next asset contract (.call env (.migrateStrategy admin "lending" "lending")) s) ∧
      After (fun s₂ => ¬ Synced s₂)
        (next asset contract (.call env (.migrateStrategy admin "lending" "staking")) s))
      (allocatedBoth []) := by
    decide +kernel
  obtain ⟨s, hs, hbefore, hsynced, hself, hother⟩ := h.exists_ok
  obtain ⟨s₁, hs₁, hafter⟩ := hself.exists_ok
  obtain ⟨s₂, hs₂, hlost⟩ := hother.exists_ok
  refine ⟨s, s₁, s₂, run_reachable hs, hs₁, hbefore, hafter, fun hsame => ?_, hs₂, hsynced, hlost,
    fun hkept => hlost (hkept.2 hsynced).1⟩
  have := hsame.1
  omega

/-- After a harvest of the target the strategies are not synced, and what is allocated stays. -/
theorem migrate_conserves_after_harvest :
    ∃ s s' : State Balances,
      allocatedBoth [.harvestStrategy "staking" 500] = .ok s ∧
      next asset contract (.call env (.migrateStrategy admin "lending" "staking")) s = .ok s' ∧
      allocated s = 1000 ∧ Conserves "staking" s s' := by
  have h : After (fun s => allocated s = 1000 ∧ ¬ Synced s ∧ After (fun _ => True)
      (next asset contract (.call env (.migrateStrategy admin "lending" "staking")) s))
      (allocatedBoth [.harvestStrategy "staking" 500]) := by
    decide +kernel
  obtain ⟨s, hs, hbefore, hsynced, hmigrated⟩ := h.exists_ok
  obtain ⟨s', hs', -⟩ := hmigrated.exists_ok
  exact ⟨s, s', hs, hs', hbefore, (migrate_conserves_iff hs').mpr ⟨by decide, hsynced⟩⟩

end Migration

end Vault
