import StellAIverse.PortfolioManager.Ledger

/-!
# When a rebalance goes through

A rebalance completes exactly when its checks pass: the time, the slippage and
everything else. The slippage guard adds up signed amounts and compares the low
32 bits of the quotient; the drift trigger calls the rebalance itself, which
checks the time once more and lets only the administrator pass it.
-/

namespace PortfolioManager

open Soroban

variable {τ : Type} {tok : Token τ} {self : Address} {s : State τ} {env : Env}

/-- When the next rebalance is due. -/
def Portfolio.dueAt (portfolio : Portfolio) : ℕ :=
  portfolio.lastRebalanceTime + rebalanceIntervalSeconds portfolio.rebalanceFrequency

/-- What a rebalance needs besides the time and the slippage: a signature, an
active portfolio of as many assets as balances, and numbers that fit. -/
structure Rebalanceable (signed : Bool) (s : State τ) (portfolioId : ℕ) (newAssetBalances : List ℤ)
    (portfolio : Portfolio) : Prop where
  signed : signed = true
  active : portfolio.status = .active
  unpaused : isPaused s = false
  dated : portfolio.dueAt < 2 ^ 64
  counted : newAssetBalances.length = portfolio.targetWeights.length
  booked : ∃ booked, rebalancePositions portfolioId portfolio.totalAssets newAssetBalances 0
    s.assetPosition 0 = .ok booked
  numbered : portfolio.rebalanceCount + 1 < 2 ^ 32
  recorded : (s.rebalanceCounter.get? portfolioId).getD 0 + 1 < 2 ^ 64

/-- The slippage is computed and within its maximum. -/
def SlippageHeld (portfolio : Portfolio) (buys sells : List SwapRecord) : Prop :=
  ∃ totalSwapped slippageBps, sumSwapValues buys sells = .ok totalSwapped ∧
    slippageOf totalSwapped portfolio.totalAssets = .ok slippageBps ∧
    slippageBps ≤ portfolio.maxSlippageBps

theorem checkRebalanceTiming_bind {caller : Address} {now due : ℕ} {β : Type} {f : Unit → Result β}
    {r : β} : (checkRebalanceTiming s caller now due >>= f) = .ok r ↔
      (now < due → s.admin = some caller) ∧ f () = .ok r := by
  unfold checkRebalanceTiming getAdmin
  by_cases hlt : now < due
  · rw [if_pos hlt, bind_assoc]
    simp only [expect_bind, panicIf_bind, not_not, hlt, true_implies]
    constructor
    · rintro ⟨admin, hadmin, rfl, h⟩
      exact ⟨hadmin, h⟩
    · rintro ⟨hadmin, h⟩
      exact ⟨caller, hadmin, rfl, h⟩
  · simp [hlt]

/-- A rebalance completes exactly when all its checks pass. -/
theorem rebalance_ok_iff {caller : Address} {portfolioId : ℕ} {buys sells : List SwapRecord}
    {newAssetBalances : List ℤ} {portfolio : Portfolio}
    (hfound : s.portfolio.get? portfolioId = some portfolio) :
    (∃ r, rebalance env caller portfolioId buys sells newAssetBalances s = .ok r) ↔
      Rebalanceable (env.authorized caller) s portfolioId newAssetBalances portfolio ∧
      (env.timestamp < portfolio.dueAt → s.admin = some caller) ∧
      SlippageHeld portfolio buys sells := by
  unfold rebalance getPortfolio nextId
  constructor
  · rintro ⟨r, h⟩
    obtain ⟨hsigned, h⟩ := requireAuth_bind.mp h
    obtain ⟨found, hfound', h⟩ := expect_bind.mp h
    obtain rfl : portfolio = found := Option.some.inj (hfound.symm.trans hfound')
    obtain ⟨hactive, h⟩ := panicIf_bind.mp h
    obtain ⟨hpaused, h⟩ := panicIf_bind.mp h
    obtain ⟨hdated, h⟩ := U64.add_bind.mp h
    obtain ⟨htime, h⟩ := checkRebalanceTiming_bind.mp h
    obtain ⟨hcounted, h⟩ := panicIf_bind.mp h
    obtain ⟨total, htotal, h⟩ := bind_ok.mp h
    obtain ⟨bps, hbps, h⟩ := bind_ok.mp h
    obtain ⟨hle, h⟩ := panicIf_bind.mp h
    obtain ⟨booked, hbooked, h⟩ := bind_ok.mp h
    obtain ⟨hnumbered, h⟩ := U32.checked_bind.mp h
    obtain ⟨hrecorded, -⟩ := U64.add_bind.mp h
    exact ⟨⟨hsigned, not_not.mp hactive, eq_false_of_ne_true hpaused, hdated, not_not.mp hcounted,
      ⟨booked, hbooked⟩, hnumbered, hrecorded⟩, htime, total, bps, htotal, hbps, not_lt.mp hle⟩
  · rintro ⟨h, htime, total, bps, htotal, hbps, hle⟩
    obtain ⟨booked, hbooked⟩ := h.booked
    refine ⟨_, requireAuth_bind.mpr ⟨h.signed, expect_bind.mpr ⟨portfolio, hfound,
      panicIf_bind.mpr ⟨not_not.mpr h.active, panicIf_bind.mpr ⟨ne_true_of_eq_false h.unpaused,
      U64.add_bind.mpr ⟨h.dated, checkRebalanceTiming_bind.mpr ⟨htime,
      panicIf_bind.mpr ⟨not_not.mpr h.counted, bind_ok.mpr ⟨total, htotal,
      bind_ok.mpr ⟨bps, hbps, panicIf_bind.mpr ⟨not_lt.mpr hle, bind_ok.mpr ⟨booked, hbooked,
      U32.checked_bind.mpr ⟨h.numbered, U64.add_bind.mpr ⟨h.recorded, rfl⟩⟩⟩⟩⟩⟩⟩⟩⟩⟩⟩⟩⟩⟩

/-- Every running total of the amounts fits. -/
def RunningFit (amounts : List ℤ) : Prop := ∀ k, I128.InRange (amounts.take k).sum

/-- The amounts of all swaps, as the guard reads them. -/
def amountsIn (buys sells : List SwapRecord) : List ℤ := (buys ++ sells).map (·.amountIn)

/-- What is swapped, in absolute amounts, in basis points of the assets. -/
def turnoverBps (amounts : List ℤ) (totalAssets : ℤ) : ℤ :=
  (amounts.map fun amount => |amount|).sum * bpsDenominator / totalAssets

theorem sumAmountsIn_append (buys sells : List SwapRecord) (total : ℤ) :
    sumAmountsIn (buys ++ sells) total = sumAmountsIn buys total >>= sumAmountsIn sells := by
  induction buys generalizing total with
  | nil => rfl
  | cons swap rest ih =>
    simp only [List.cons_append, sumAmountsIn, bind_assoc]
    exact bind_congr_ok fun total _ => ih total

theorem sumAmountsIn_ok_iff {swaps : List SwapRecord} {total t : ℤ} (hfit : I128.InRange total) :
    sumAmountsIn swaps total = .ok t ↔
      (∀ k, I128.InRange (total + ((swaps.map (·.amountIn)).take k).sum)) ∧
      total + (swaps.map (·.amountIn)).sum = t := by
  induction swaps generalizing total with
  | nil => simp [sumAmountsIn, hfit]
  | cons swap rest ih =>
    rw [sumAmountsIn, I128.checked_bind, List.map_cons, List.sum_cons, ← add_assoc]
    constructor
    · rintro ⟨hone, h⟩
      obtain ⟨hrest, hsum⟩ := (ih hone).mp h
      refine ⟨fun k => ?_, hsum⟩
      cases k with
      | zero => simpa using hfit
      | succ k => simpa [add_assoc] using hrest k
    · rintro ⟨hall, hsum⟩
      have hone : I128.InRange (total + swap.amountIn) := by simpa using hall 1
      refine ⟨hone, (ih hone).mpr ⟨fun k => ?_, hsum⟩⟩
      simpa [add_assoc] using hall (k + 1)

theorem sumSwapValues_ok_iff {buys sells : List SwapRecord} {total : ℤ} :
    sumSwapValues buys sells = .ok total ↔
      RunningFit (amountsIn buys sells) ∧ (amountsIn buys sells).sum = total := by
  have happend : sumSwapValues buys sells = sumAmountsIn (buys ++ sells) 0 :=
    (sumAmountsIn_append buys sells 0).symm
  rw [happend, sumAmountsIn_ok_iff I128.inRange_zero]
  simp [RunningFit, amountsIn]

theorem weightIn_ok_iff {value totalAssets : ℤ} {weight : ℕ} (hassets : 0 < totalAssets) :
    weightIn value totalAssets = .ok weight ↔ I128.InRange (value * bpsDenominator) ∧
      U32.ofInt ((value * bpsDenominator).tdiv totalAssets) = weight := by
  unfold weightIn
  rw [if_pos hassets, I128.mul_bind, I128.div_bind]
  constructor
  · rintro ⟨hproduct, -, -, h⟩
    exact ⟨hproduct, Except.ok.inj h⟩
  · rintro ⟨hproduct, h⟩
    exact ⟨hproduct, hassets.ne', I128.inRange_tdiv hproduct hassets, congrArg _ h⟩

/-- The guard of a portfolio with assets. -/
theorem slippageHeld_iff {portfolio : Portfolio} {buys sells : List SwapRecord}
    (hassets : 0 < portfolio.totalAssets) :
    SlippageHeld portfolio buys sells ↔ RunningFit (amountsIn buys sells) ∧
      I128.InRange ((amountsIn buys sells).sum * bpsDenominator) ∧
      U32.ofInt (((amountsIn buys sells).sum * bpsDenominator).tdiv portfolio.totalAssets) ≤
        portfolio.maxSlippageBps := by
  unfold SlippageHeld slippageOf
  simp only [sumSwapValues_ok_iff, weightIn_ok_iff hassets]
  constructor
  · rintro ⟨_, _, ⟨hfit, rfl⟩, ⟨hproduct, rfl⟩, hle⟩
    exact ⟨hfit, hproduct, hle⟩
  · rintro ⟨hfit, hproduct, hle⟩
    exact ⟨_, _, ⟨hfit, rfl⟩, ⟨hproduct, rfl⟩, hle⟩

theorem sum_abs_of_nonneg {amounts : List ℤ} (h : ∀ amount ∈ amounts, 0 ≤ amount) :
    (amounts.map fun amount => |amount|).sum = amounts.sum := by
  rw [List.map_congr_left fun amount ha => abs_of_nonneg (h amount ha), List.map_id']

/-- For a portfolio with assets a completed rebalance has swapped within the maximum
unless the guard is blind: the low 32 bits of the signed quotient are within the
maximum and the quotient of the absolute amounts is not. Without negative amounts
and with a quotient of at most 32 bits it is not. -/
theorem slippage_guarded_iff {caller : Address} {portfolioId : ℕ} {buys sells : List SwapRecord}
    {newAssetBalances : List ℤ} {portfolio : Portfolio}
    (hfound : s.portfolio.get? portfolioId = some portfolio) (hassets : 0 < portfolio.totalAssets) :
    (((∃ r, rebalance env caller portfolioId buys sells newAssetBalances s = .ok r) →
        turnoverBps (amountsIn buys sells) portfolio.totalAssets ≤ portfolio.maxSlippageBps) ↔
      ¬ Rebalanceable (env.authorized caller) s portfolioId newAssetBalances portfolio ∨
      (env.timestamp < portfolio.dueAt ∧ s.admin ≠ some caller) ∨
      ¬ RunningFit (amountsIn buys sells) ∨
      ¬ I128.InRange ((amountsIn buys sells).sum * bpsDenominator) ∨
      portfolio.maxSlippageBps <
        U32.ofInt (((amountsIn buys sells).sum * bpsDenominator).tdiv portfolio.totalAssets) ∨
      turnoverBps (amountsIn buys sells) portfolio.totalAssets ≤ portfolio.maxSlippageBps) ∧
    ((∀ amount ∈ amountsIn buys sells, 0 ≤ amount) →
      turnoverBps (amountsIn buys sells) portfolio.totalAssets < 2 ^ 32 →
      (∃ r, rebalance env caller portfolioId buys sells newAssetBalances s = .ok r) →
      turnoverBps (amountsIn buys sells) portfolio.totalAssets ≤ portfolio.maxSlippageBps) := by
  rw [rebalance_ok_iff hfound, slippageHeld_iff hassets]
  refine ⟨?_, fun hnonneg hsmall h => ?_⟩
  · rw [← not_le (a := U32.ofInt _)]
    tauto
  · obtain ⟨-, -, -, -, hle⟩ := h
    have hsum := List.sum_nonneg hnonneg
    have hturnover : turnoverBps (amountsIn buys sells) portfolio.totalAssets =
        ((amountsIn buys sells).sum * bpsDenominator).tdiv portfolio.totalAssets := by
      rw [turnoverBps, sum_abs_of_nonneg hnonneg,
        Int.tdiv_eq_ediv_of_nonneg (mul_nonneg hsum (by decide))]
    have hquotient : 0 ≤ turnoverBps (amountsIn buys sells) portfolio.totalAssets := by
      rw [hturnover]
      exact Int.tdiv_nonneg (mul_nonneg hsum (by decide)) hassets.le
    rw [← hturnover] at hle
    have hlow := ofInt_of_small hquotient hsmall
    omega

section Runs

open Sample

/-- Mallory states that a twentieth of the assets is swapped. -/
theorem slippage_guarded_iff_twentieth :
    ∃ s portfolio, Steps (next asset contract) (fun _ _ => True) start s ∧
      s.portfolio.get? 1 = some portfolio ∧ 0 < portfolio.totalAssets ∧
      (∃ r, rebalance (Sample.env 2592000) mallory 1 [⟨gold, 30, 30, 0⟩] [] [200, 200, 200] s =
        .ok r) ∧
      turnoverBps (amountsIn [⟨gold, 30, 30, 0⟩] []) portfolio.totalAssets ≤
        portfolio.maxSlippageBps := by
  have h : After (fun s => ∃ portfolio ∈ s.portfolio.get? 1, 0 < portfolio.totalAssets ∧
        turnoverBps (amountsIn [⟨gold, 30, 30, 0⟩] []) portfolio.totalAssets < 2 ^ 32 ∧
        After (fun _ => True)
          (rebalance (Sample.env 2592000) mallory 1 [⟨gold, 30, 30, 0⟩] [] [200, 200, 200] s))
      (execute (next asset contract) (calls opening) start) := by
    decide +kernel
  obtain ⟨s, hs, portfolio, hfound, hassets, hsmall, hdone⟩ := h.exists_ok
  obtain ⟨r, hr, -⟩ := hdone.exists_ok
  have hrun : Steps (next asset contract) (fun _ _ => True) start s :=
    execute_steps _ (fun _ _ _ => trivial) hs
  exact ⟨s, portfolio, hrun, hfound, hassets, ⟨r, hr⟩,
    (slippage_guarded_iff hfound hassets).2 (by decide) hsmall ⟨r, hr⟩⟩

/-- A swap of 429496 times the assets passes. -/
theorem rebalance_unguarded :
    ¬ ∀ s, Steps (next asset contract) (fun _ _ => True) start s →
      ∀ env caller portfolioId buys sells newAssetBalances portfolio,
        s.portfolio.get? portfolioId = some portfolio → 0 < portfolio.totalAssets →
        (∃ r, rebalance env caller portfolioId buys sells newAssetBalances s = .ok r) →
        turnoverBps (amountsIn buys sells) portfolio.totalAssets ≤ portfolio.maxSlippageBps := by
  intro hall
  have h : After (fun s => ∃ portfolio ∈ s.portfolio.get? 1, 0 < portfolio.totalAssets ∧
        ¬ turnoverBps (amountsIn [⟨gold, 257698038, 0, 0⟩] []) portfolio.totalAssets ≤
          portfolio.maxSlippageBps ∧
        After (fun _ => True)
          (rebalance (Sample.env 2592000) mallory 1 [⟨gold, 257698038, 0, 0⟩] [] [200, 200, 200] s))
      (execute (next asset contract) (calls opening) start) := by
    decide +kernel
  obtain ⟨s, hs, portfolio, hfound, hassets, hbeyond, hdone⟩ := h.exists_ok
  obtain ⟨r, hr, -⟩ := hdone.exists_ok
  have hrun : Steps (next asset contract) (fun _ _ => True) start s :=
    execute_steps _ (fun _ _ _ => trivial) hs
  exact hbeyond (hall s hrun _ _ _ _ _ _ portfolio hfound hassets ⟨r, hr⟩)

end Runs

theorem rebalanceDue_ok_iff {portfolioId drift : ℕ} {newAssetBalances : List ℤ}
    {portfolio : Portfolio} {triggered : Bool}
    (hfound : s.portfolio.get? portfolioId = some portfolio)
    (hearly : env.timestamp < portfolio.dueAt)
    (hdrift : maxDrift s portfolioId newAssetBalances = .ok drift) :
    rebalanceDue env portfolioId newAssetBalances s = .ok triggered ↔
      portfolio.dueAt < 2 ^ 64 ∧ decide (portfolio.driftToleranceBps < drift) = triggered := by
  have hloaded : getPortfolio s portfolioId = .ok portfolio := expect_ok.mpr hfound
  unfold rebalanceDue
  rw [hloaded, ok_bind, U64.add_bind]
  change portfolio.dueAt < 2 ^ 64 ∧ (if env.timestamp ≥ portfolio.dueAt then _ else _) = _ ↔ _
  rw [if_neg (not_le.mpr hearly), hdrift, ok_bind, Except.ok.injEq]

/-- A trigger that fires is a rebalance. -/
theorem checkAndRebalance_of_due {caller : Address} {portfolioId : ℕ} {buys sells : List SwapRecord}
    {newAssetBalances : List ℤ}
    (hdue : rebalanceDue env portfolioId newAssetBalances s = .ok true) :
    (∃ r, checkAndRebalance env caller portfolioId newAssetBalances buys sells s = .ok r) ↔
      ∃ r, rebalance env caller portfolioId buys sells newAssetBalances s = .ok r := by
  unfold checkAndRebalance
  rw [hdue, ok_bind, if_pos rfl]
  constructor
  · rintro ⟨r, h⟩
    obtain ⟨done, hdone, -⟩ := bind_ok.mp h
    exact ⟨done, hdone⟩
  · rintro ⟨done, hdone⟩
    exact ⟨_, bind_ok.mpr ⟨done, hdone, rfl⟩⟩

/-- Before the next rebalance is due, and where the same rebalance would go through
afterwards, a drift beyond the tolerance triggers it for the administrator and for
nobody else. Within the tolerance nothing happens. -/
theorem drift_triggers_iff {caller : Address} {portfolioId drift : ℕ} {buys sells : List SwapRecord}
    {newAssetBalances : List ℤ} {portfolio : Portfolio}
    (hfound : s.portfolio.get? portfolioId = some portfolio)
    (hearly : env.timestamp < portfolio.dueAt)
    (hdrift : maxDrift s portfolioId newAssetBalances = .ok drift) :
    (portfolio.driftToleranceBps < drift → ∀ t, portfolio.dueAt ≤ t →
      (∃ r, rebalance { env with timestamp := t } caller portfolioId buys sells newAssetBalances s =
        .ok r) →
      ((∃ r, checkAndRebalance env caller portfolioId newAssetBalances buys sells s = .ok r) ↔
        s.admin = some caller)) ∧
    (drift ≤ portfolio.driftToleranceBps →
      (checkAndRebalance env caller portfolioId newAssetBalances buys sells s = .ok (none, s) ↔
        portfolio.dueAt < 2 ^ 64)) := by
  have hrebalance :
      (∃ r, rebalance env caller portfolioId buys sells newAssetBalances s = .ok r) ↔
        Rebalanceable (env.authorized caller) s portfolioId newAssetBalances portfolio ∧
        (env.timestamp < portfolio.dueAt → s.admin = some caller) ∧
        SlippageHeld portfolio buys sells := rebalance_ok_iff hfound
  refine ⟨fun hexceeds t hlate hlater => ?_, fun hwithin => ?_⟩
  · obtain ⟨hready, -, hslippage⟩ := (rebalance_ok_iff hfound).mp hlater
    have htriggered := (rebalanceDue_ok_iff hfound hearly hdrift).mpr
      ⟨hready.dated, decide_eq_true hexceeds⟩
    rw [checkAndRebalance_of_due htriggered, hrebalance]
    exact ⟨fun h => h.2.1 hearly, fun hadmin => ⟨hready, fun _ => hadmin, hslippage⟩⟩
  · constructor
    · intro h
      obtain ⟨triggered, hdue, -⟩ := bind_ok.mp h
      exact ((rebalanceDue_ok_iff hfound hearly hdrift).mp hdue).1
    · intro hdated
      have hidle := (rebalanceDue_ok_iff hfound hearly hdrift).mpr
        ⟨hdated, decide_eq_false (not_lt.mpr hwithin)⟩
      unfold checkAndRebalance
      rw [hidle]
      rfl

section Runs

open Sample

/-- All assets in gold: the administrator's call rebalances ten seconds after the creation. -/
theorem drift_triggers_iff_gold :
    ∃ s portfolio, Steps (next asset contract) (fun _ _ => True) start s ∧
      s.portfolio.get? 1 = some portfolio ∧ (Sample.env 10).timestamp < portfolio.dueAt ∧
      maxDrift s 1 [600, 0, 0] = .ok 6666 ∧ portfolio.driftToleranceBps < 6666 ∧
      ∃ r, checkAndRebalance (Sample.env 10) admin 1 [600, 0, 0] [] [] s = .ok r := by
  have h : After (fun s => ∃ portfolio ∈ s.portfolio.get? 1,
        (Sample.env 10).timestamp < portfolio.dueAt ∧ maxDrift s 1 [600, 0, 0] = .ok 6666 ∧
        portfolio.driftToleranceBps < 6666 ∧ s.admin = some admin ∧
        portfolio.dueAt ≤ 2592000 ∧
        After (fun _ => True) (rebalance (Sample.env 2592000) admin 1 [] [] [600, 0, 0] s))
      (execute (next asset contract) (calls opening) start) := by
    decide +kernel
  obtain ⟨s, hs, portfolio, hfound, hearly, hdrift, hexceeds, hadmin, hlate, hdone⟩ := h.exists_ok
  obtain ⟨r, hr, -⟩ := hdone.exists_ok
  have hrun : Steps (next asset contract) (fun _ _ => True) start s :=
    execute_steps _ (fun _ _ _ => trivial) hs
  exact ⟨s, portfolio, hrun, hfound, hearly, hdrift, hexceeds,
    ((drift_triggers_iff hfound hearly hdrift).1 hexceeds _ hlate ⟨r, hr⟩).mpr hadmin⟩

/-- Mallory's call fails although her rebalance goes through when it is due. -/
theorem drift_refused_mallory :
    ¬ ∀ s, Steps (next asset contract) (fun _ _ => True) start s →
      ∀ (env : Env) caller portfolioId buys sells newAssetBalances portfolio drift t,
        s.portfolio.get? portfolioId = some portfolio → portfolio.status = .active →
        env.timestamp < portfolio.dueAt → portfolio.dueAt ≤ t →
        maxDrift s portfolioId newAssetBalances = .ok drift →
        portfolio.driftToleranceBps < drift →
        (∃ r, rebalance { env with timestamp := t } caller portfolioId buys sells newAssetBalances s =
          .ok r) →
        ∃ r, checkAndRebalance env caller portfolioId newAssetBalances buys sells s = .ok r := by
  intro hall
  have h : After (fun s => ∃ portfolio ∈ s.portfolio.get? 1, portfolio.status = .active ∧
        (Sample.env 10).timestamp < portfolio.dueAt ∧ portfolio.dueAt ≤ 2592000 ∧
        maxDrift s 1 [600, 0, 0] = .ok 6666 ∧ portfolio.driftToleranceBps < 6666 ∧
        After (fun _ => True) (rebalance (Sample.env 2592000) mallory 1 [] [] [600, 0, 0] s) ∧
        (checkAndRebalance (Sample.env 10) mallory 1 [600, 0, 0] [] [] s).map (fun _ => ()) =
          .error (.panic "Rebalance too frequent"))
      (execute (next asset contract) (calls opening) start) := by
    decide +kernel
  obtain ⟨s, hs, portfolio, hfound, hactive, hearly, hlate, hdrift, hexceeds, hdone, hfails⟩ :=
    h.exists_ok
  obtain ⟨r, hr, -⟩ := hdone.exists_ok
  have hrun : Steps (next asset contract) (fun _ _ => True) start s :=
    execute_steps _ (fun _ _ _ => trivial) hs
  obtain ⟨r', hr'⟩ := hall s hrun _ _ _ _ _ _ portfolio _ _ hfound hactive hearly hlate hdrift
    hexceeds ⟨r, hr⟩
  rw [hr'] at hfails
  cases hfails

end Runs

end PortfolioManager
