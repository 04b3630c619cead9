import Mathlib.Algebra.BigOperators.Intervals
import StellAIverse.PortfolioManager.Ledger

/-!
# Assets and positions

The assets of a portfolio follow the value of its positions through price updates
and through dividends of assets at par. A rebalance does not add a difference: it
writes the value of the positions over the assets, and with it deposits that are
in no position.
-/

namespace PortfolioManager

open Soroban

variable {τ : Type} {tok : Token τ} {self : Address} {env : Env} {s s' : State τ}

/-- What one position is worth at its last price. -/
def AssetPosition.value (pos : AssetPosition) : ℤ :=
  (pos.balance * pos.lastPrice).tdiv precisionFactor

def valueIn (positions : Positions) (portfolioId i : ℕ) : ℤ :=
  match positions.get? (portfolioId, i) with
  | some pos => pos.value
  | none => 0

/-- What the first `count` positions of a portfolio are worth. -/
def positionsValue (positions : Positions) (portfolioId count : ℕ) : ℤ :=
  ∑ i ∈ Finset.range count, valueIn positions portfolioId i

theorem valueIn_some {positions : Positions} {portfolioId i : ℕ} {pos : AssetPosition}
    (h : positions.get? (portfolioId, i) = some pos) : valueIn positions portfolioId i = pos.value := by
  simp [valueIn, h]

theorem valueIn_congr {positions positions' : Positions} {portfolioId i : ℕ}
    (h : positions'.get? (portfolioId, i) = positions.get? (portfolioId, i)) :
    valueIn positions' portfolioId i = valueIn positions portfolioId i := by
  rw [valueIn, valueIn, h]

/-- One position is written. -/
theorem positionsValue_set {positions : Positions} {portfolioId count i : ℕ}
    {pos : AssetPosition} (pos' : AssetPosition)
    (hpos : positions.get? (portfolioId, i) = some pos) (hi : i < count) :
    positionsValue (positions.set (portfolioId, i) pos') portfolioId count =
      positionsValue positions portfolioId count + (pos'.value - pos.value) := by
  have hmem := Finset.mem_range.mpr hi
  have hrest : ∑ j ∈ (Finset.range count).erase i,
        valueIn (positions.set (portfolioId, i) pos') portfolioId j =
      ∑ j ∈ (Finset.range count).erase i, valueIn positions portfolioId j := by
    refine Finset.sum_congr rfl fun j hj => valueIn_congr (Store.get?_set_ne _ _ fun he => ?_)
    exact Finset.ne_of_mem_erase hj (Prod.mk.inj he).2
  unfold positionsValue
  rw [← Finset.add_sum_erase _ _ hmem, ← Finset.add_sum_erase _ _ hmem, hrest,
    valueIn_some (Store.get?_set_self _ _ _), valueIn_some hpos]
  ring

/-- No position appears. -/
def NoneAdded (positions positions' : Positions) : Prop :=
  ∀ key, positions.get? key = none → positions'.get? key = none

theorem NoneAdded.refl (positions : Positions) : NoneAdded positions positions := fun _ h => h

theorem NoneAdded.trans {p p' p'' : Positions} (h : NoneAdded p p') (h' : NoneAdded p' p'') :
    NoneAdded p p'' := fun key hk => h' key (h key hk)

theorem noneAdded_set {positions : Positions} {key : ℕ × ℕ} {pos : AssetPosition}
    (pos' : AssetPosition) (hpos : positions.get? key = some pos) :
    NoneAdded positions (positions.set key pos') := by
  intro k hk
  rw [Store.get?_set_ne _ _ fun he => by rw [he, hpos] at hk; cases hk]
  exact hk

/-- The submitted balances are booked from an index on, and nothing else is written. -/
theorem rebalancePositions_booked {portfolioId : ℕ} {totalAssets total total' : ℤ}
    {balances : List ℤ} {i : ℕ} {positions positions' : Positions}
    (h : rebalancePositions portfolioId totalAssets balances i positions total =
      .ok (positions', total')) :
    NoneAdded positions positions' ∧
    (∀ key, (∀ j, key ≠ (portfolioId, i + j)) → positions'.get? key = positions.get? key) ∧
    ∑ j ∈ Finset.Ico i (i + balances.length), valueIn positions' portfolioId j =
      statedValue positions portfolioId balances i := by
  induction balances generalizing i positions total with
  | nil =>
    cases h
    exact ⟨.refl _, fun _ _ => rfl, by simp [statedValue]⟩
  | cons balance rest ih =>
    unfold rebalancePositions getAssetPosition at h
    obtain ⟨pos, hpos, h⟩ := expect_bind.mp h
    replace h := valueAt_bind h
    obtain ⟨weight, -, h⟩ := bind_ok.mp h
    obtain ⟨-, h⟩ := I128.checked_bind.mp h
    obtain ⟨hnone, hother, hsum⟩ := ih h
    have hprice : priceOf positions portfolioId i = pos.lastPrice := by simp [priceOf, hpos]
    have hfirst : valueIn positions' portfolioId i =
        (balance * pos.lastPrice).tdiv precisionFactor := by
      rw [valueIn_congr (hother (portfolioId, i) fun j he => by
        have := (Prod.mk.inj he).2
        omega)]
      exact valueIn_some (Store.get?_set_self _ _ _)
    refine ⟨(noneAdded_set _ hpos).trans hnone, fun key hkey => ?_, ?_⟩
    · have hlater : ∀ j, key ≠ (portfolioId, i + 1 + j) := by
        intro j
        rw [Nat.add_assoc]
        exact hkey (1 + j)
      exact (hother key hlater).trans (Store.get?_set_ne _ _ (hkey 0))
    · have hrest := statedValue_congr (positions.set (portfolioId, i)
        { pos with balance, currentWeightBps := weight }) (priceOf_set hpos rfl) rest (i + 1)
      rw [hrest] at hsum
      have hlength : i + (balance :: rest).length = i + 1 + rest.length := by
        rw [List.length_cons]
        omega
      rw [Finset.sum_eq_sum_Ico_succ_bot (by simp), hlength, hsum, hfirst, statedValue, hprice]

/-- The position a dividend of this token is added to. -/
def creditedIn (positions : Positions) (portfolioId : ℕ) (indices : List ℕ) (token : Address) :
    Option ℕ :=
  indices.find? fun j => heldIn positions portfolioId [j] token

/-- What a dividend does to the positions: tokens and prices stay, and where the
position it goes to is at par, the value rises by what is counted. -/
theorem addDividend_valued {portfolioId count : ℕ} {token : Address} {amount : ℤ}
    {weights : List AssetAllocation} {j : ℕ} {positions positions' : Positions} {total total' : ℤ}
    (hcount : j + weights.length ≤ count)
    (h : addDividend portfolioId token amount weights j positions total = .ok (positions', total')) :
    NoneAdded positions positions' ∧
    (∀ i, priceOf positions' portfolioId i = priceOf positions portfolioId i) ∧
    ((∀ i ∈ creditedIn positions portfolioId (List.range' j weights.length) token,
        priceOf positions portfolioId i = precisionFactor) →
      positionsValue positions' portfolioId count - positionsValue positions portfolioId count =
        total' - total) := by
  induction weights generalizing j with
  | nil =>
    cases h
    exact ⟨.refl _, fun _ => rfl, fun _ => by ring⟩
  | cons weight rest ih =>
    unfold addDividend getAssetPosition at h
    obtain ⟨pos, hpos, h⟩ := expect_bind.mp h
    rw [List.length_cons] at hcount ⊢
    have hheld : heldIn positions portfolioId [j] token = decide (pos.token = token) := by
      simp [heldIn, hpos]
    rw [List.range'_succ, creditedIn, List.find?_cons, hheld]
    split at h
    · rename_i htoken
      obtain ⟨-, h⟩ := I128.checked_bind.mp h
      obtain ⟨-, h⟩ := I128.checked_bind.mp h
      cases h
      refine ⟨noneAdded_set _ hpos, priceOf_set hpos rfl, fun hpar => ?_⟩
      have hprice : pos.lastPrice = precisionFactor := by
        rw [decide_eq_true htoken] at hpar
        simpa [priceOf, hpos] using hpar j rfl
      rw [positionsValue_set _ hpos (by omega)]
      have hfactor : precisionFactor ≠ 0 := by decide
      simp only [AssetPosition.value, hprice, Int.mul_tdiv_cancel _ hfactor]
      ring
    · rename_i htoken
      rw [decide_eq_false htoken]
      exact ih (by omega) h

theorem creditedIn_congr {positions positions' : Positions} {portfolioId : ℕ}
    (h : ∀ indices t, heldIn positions' portfolioId indices t = heldIn positions portfolioId indices t)
    (indices : List ℕ) (token : Address) :
    creditedIn positions' portfolioId indices token =
      creditedIn positions portfolioId indices token := by
  simp only [creditedIn, h]

theorem addDividends_valued {portfolioId : ℕ} {weights : List AssetAllocation}
    {dividends : List (Address × ℤ)} {positions positions' : Positions} {total total' : ℤ}
    (h : addDividends portfolioId weights dividends positions total = .ok (positions', total')) :
    NoneAdded positions positions' ∧
    ((∀ d ∈ dividends, ∀ i ∈ creditedIn positions portfolioId (List.range' 0 weights.length) d.1,
        priceOf positions portfolioId i = precisionFactor) →
      positionsValue positions' portfolioId weights.length -
        positionsValue positions portfolioId weights.length = total' - total) := by
  induction dividends generalizing positions total with
  | nil =>
    cases h
    exact ⟨.refl _, fun _ => by ring⟩
  | cons dividend rest ih =>
    obtain ⟨token, amount⟩ := dividend
    unfold addDividends at h
    obtain ⟨⟨positions₁, total₁⟩, hone, h⟩ := bind_ok.mp h
    obtain ⟨-, -, hsame⟩ := addDividend_ok hone
    obtain ⟨hnone, hprices, hrise⟩ := addDividend_valued (zero_add weights.length).le hone
    obtain ⟨hnone', hrise'⟩ := ih h
    refine ⟨hnone.trans hnone', fun hpar => ?_⟩
    have hfirst := hrise fun i hi => hpar (token, amount) List.mem_cons_self i hi
    have hlast := hrise' fun d hd i hi => by
      rw [creditedIn_congr hsame] at hi
      rw [hprices]
      exact hpar d (List.mem_cons_of_mem _ hd) i hi
    linarith

theorem rebalance_booked {caller : Address} {portfolioId : ℕ} {buys sells : List SwapRecord}
    {newAssetBalances : List ℤ} {record : RebalanceRecord}
    (h : rebalance env caller portfolioId buys sells newAssetBalances s = .ok (record, s')) :
    NoneAdded s.assetPosition s'.assetPosition ∧
    ∃ portfolio portfolio', s.portfolio.get? portfolioId = some portfolio ∧
      newAssetBalances.length = portfolio.targetWeights.length ∧
      s'.portfolio = s.portfolio.set portfolio.portfolioId portfolio' ∧
      portfolio'.totalAssets = statedValue s.assetPosition portfolioId newAssetBalances 0 ∧
      portfolio'.totalAssets =
        positionsValue s'.assetPosition portfolioId portfolio.targetWeights.length := by
  unfold rebalance getPortfolio at h
  obtain ⟨-, h⟩ := requireAuth_bind.mp h
  obtain ⟨portfolio, hfound, h⟩ := expect_bind.mp h
  obtain ⟨-, h⟩ := panicIf_bind.mp h
  obtain ⟨-, h⟩ := panicIf_bind.mp h
  obtain ⟨-, h⟩ := U64.add_bind.mp h
  obtain ⟨-, -, h⟩ := bind_ok.mp h
  obtain ⟨hcounted, h⟩ := panicIf_bind.mp h
  obtain ⟨totalSwapped, -, h⟩ := bind_ok.mp h
  obtain ⟨slippageBps, -, h⟩ := bind_ok.mp h
  obtain ⟨-, h⟩ := panicIf_bind.mp h
  obtain ⟨⟨assetPosition, totalAssets⟩, hbooked, h⟩ := bind_ok.mp h
  obtain ⟨-, h⟩ := U32.checked_bind.mp h
  obtain ⟨rebalanceId, -, h⟩ := bind_ok.mp h
  cases h
  obtain ⟨htotal, -⟩ := rebalancePositions_ok hbooked
  obtain ⟨hnone, -, hsum⟩ := rebalancePositions_booked hbooked
  rw [zero_add] at htotal hsum
  have hlength := not_not.mp hcounted
  refine ⟨hnone, portfolio, _, hfound, hlength, rfl, htotal, ?_⟩
  rw [positionsValue, Finset.range_eq_Ico, ← hlength, hsum]
  exact htotal

theorem updateAssetPosition_booked {caller : Address} {portfolioId assetIndex : ℕ}
    {newBalance price : ℤ}
    (h : updateAssetPosition env caller portfolioId assetIndex newBalance price s = .ok s') :
    NoneAdded s.assetPosition s'.assetPosition ∧
    ∃ pos pos' portfolio portfolio', s.portfolio.get? portfolioId = some portfolio ∧
      s.assetPosition.get? (portfolioId, assetIndex) = some pos ∧
      s'.assetPosition = s.assetPosition.set (portfolioId, assetIndex) pos' ∧
      s'.portfolio = s.portfolio.set portfolio.portfolioId portfolio' ∧
      portfolio'.totalAssets = portfolio.totalAssets + (pos'.value - pos.value) := by
  unfold updateAssetPosition getPortfolio getAssetPosition at h
  obtain ⟨-, h⟩ := requireAuth_bind.mp h
  obtain ⟨-, h⟩ := assertAdmin_bind h
  obtain ⟨portfolio, hfound, h⟩ := expect_bind.mp h
  obtain ⟨pos, hpos, h⟩ := expect_bind.mp h
  replace h := valueAt_bind h
  replace h := valueAt_bind h
  obtain ⟨-, h⟩ := I128.sub_bind.mp h
  obtain ⟨weight, -, h⟩ := bind_ok.mp h
  obtain ⟨-, h⟩ := I128.checked_bind.mp h
  cases h
  exact ⟨noneAdded_set _ hpos, pos, _, portfolio, _, hfound, hpos, rfl, rfl, rfl⟩

theorem collectDividends_booked {caller : Address} {portfolioId : ℕ}
    {dividendAmounts : List (Address × ℤ)} {record : DividendRecord}
    (h : collectDividends env caller portfolioId dividendAmounts s = .ok (record, s')) :
    NoneAdded s.assetPosition s'.assetPosition ∧
    ∃ portfolio portfolio', s.portfolio.get? portfolioId = some portfolio ∧
      s'.portfolio = s.portfolio.set portfolio.portfolioId portfolio' ∧
      ((∀ d ∈ dividendAmounts, ∀ i ∈ creditedIn s.assetPosition portfolioId
          (List.range' 0 portfolio.targetWeights.length) d.1,
          priceOf s.assetPosition portfolioId i = precisionFactor) →
        portfolio'.totalAssets - portfolio.totalAssets =
          positionsValue s'.assetPosition portfolioId portfolio.targetWeights.length -
          positionsValue s.assetPosition portfolioId portfolio.targetWeights.length) := by
  unfold collectDividends getPortfolio at h
  obtain ⟨-, h⟩ := requireAuth_bind.mp h
  obtain ⟨-, h⟩ := assertAdmin_bind h
  obtain ⟨portfolio, hfound, h⟩ := expect_bind.mp h
  obtain ⟨-, h⟩ := panicIf_bind.mp h
  obtain ⟨⟨assetPosition, totalDividend⟩, hbooked, h⟩ := bind_ok.mp h
  obtain ⟨-, h⟩ := I128.checked_bind.mp h
  obtain ⟨-, h⟩ := I128.checked_bind.mp h
  obtain ⟨-, h⟩ := I128.checked_bind.mp h
  obtain ⟨perShareAmount, -, h⟩ := bind_ok.mp h
  obtain ⟨recordId, -, h⟩ := bind_ok.mp h
  cases h
  obtain ⟨hnone, hrise⟩ := addDividends_valued hbooked
  refine ⟨hnone, portfolio, _, hfound, rfl, fun hpar => ?_⟩
  rw [hrise hpar]
  simp only [sub_zero, add_sub_cancel_left]

/-- The positions of a portfolio have the numbers of its targets. -/
structure Confined (s : State τ) : Prop where
  beyond : ∀ id portfolio i, s.portfolio.get? id = some portfolio →
    portfolio.targetWeights.length ≤ i → s.assetPosition.get? (id, i) = none
  unused : ∀ id i, s.portfolioCounter.getD 0 < id → s.assetPosition.get? (id, i) = none

theorem confined_deployed (tokens : τ) : Confined (deployed tokens) where
  beyond _ _ _ h := by cases h
  unused _ _ _ := rfl

/-- A call that revalues a portfolio adds no position. -/
theorem noneAdded_of_rise {op : Op} (hcall : invoke tok self env op s = .ok s')
    (hrise : op.rise env s ≠ none) : NoneAdded s.assetPosition s'.assetPosition := by
  cases op with
  | rebalance =>
    obtain ⟨⟨record, s₁⟩, h, rfl⟩ := map_ok.mp hcall
    exact (rebalance_booked h).1
  | checkAndRebalance =>
    obtain ⟨⟨record, s₁⟩, h, rfl⟩ := map_ok.mp hcall
    unfold checkAndRebalance at h
    obtain ⟨triggered, -, h⟩ := bind_ok.mp h
    split at h
    · obtain ⟨⟨record', s₂⟩, h, hdone⟩ := bind_ok.mp h
      cases hdone
      exact (rebalance_booked h).1
    · cases h
      exact .refl _
  | updateAssetPosition => exact (updateAssetPosition_booked hcall).1
  | collectDividends =>
    obtain ⟨⟨record, s₁⟩, h, rfl⟩ := map_ok.mp hcall
    exact (collectDividends_booked h).1
  | _ => exact absurd rfl hrise

theorem retargetPositions_noneAdded {portfolioId : ℕ} {totalAssets : ℤ}
    {weights : List AssetAllocation} {i : ℕ} {positions positions' : Positions}
    (h : retargetPositions portfolioId totalAssets weights i positions = .ok positions') :
    NoneAdded positions positions' := by
  induction weights generalizing i positions with
  | nil =>
    cases h
    exact .refl _
  | cons weight rest ih =>
    unfold retargetPositions getAssetPosition at h
    obtain ⟨pos, hpos, h⟩ := expect_bind.mp h
    obtain ⟨current, -, h⟩ := bind_ok.mp h
    exact (noneAdded_set _ hpos).trans (ih h)

/-- A portfolio is written that keeps its number of targets, and no position is added. -/
theorem Confined.amended (h : Confined s) (hbooked : Booked s) {portfolioId : ℕ}
    {portfolio portfolio' : Portfolio} (hfound : s.portfolio.get? portfolioId = some portfolio)
    (htargets : portfolio'.targetWeights.length = portfolio.targetWeights.length)
    {positions : Positions} (hnone : NoneAdded s.assetPosition positions) :
    ∀ id p i, (s.portfolio.set portfolio.portfolioId portfolio').get? id = some p →
      p.targetWeights.length ≤ i → positions.get? (id, i) = none := by
  rw [(hbooked.numbered portfolioId portfolio hfound).1]
  intro id p i hp hi
  refine hnone _ ?_
  rw [Store.get?_set] at hp
  split at hp
  · rename_i hid
    cases hp
    subst hid
    exact h.beyond id portfolio i hfound (htargets ▸ hi)
  · exact h.beyond id p i hp hi

theorem confined_step {a : Action τ} (h : Confined s) (hbooked : Booked s)
    (hn : next tok self a s = .ok s') : Confined s' := by
  have same : NoneAdded s.assetPosition s.assetPosition := .refl _
  cases next_effect hn with
  | transfers | configured | observed | claimed => exact ⟨h.beyond, h.unused⟩
  | created env op settings accumulator valid =>
    refine ⟨fun id p i hp hi => ?_, fun id i hid => ?_⟩
    · rw [initPositions_get?]
      change (s.portfolio.set _ _).get? id = some p at hp
      rw [Store.get?_set] at hp
      split at hp
      · rename_i hnew
        cases hp
        have hlength : settings.allocations.length ≤ i := hi
        rw [if_neg (by simp only; omega)]
        exact h.unused id i (by omega)
      · rename_i hold
        rw [if_neg fun hk => hold hk.1]
        exact h.beyond id p i hp hi
    · have hlater : s.portfolioCounter.getD 0 + 1 < id := hid
      rw [initPositions_get?, if_neg (by simp only; omega)]
      exact h.unused id i (by omega)
  | deposited env user portfolioId amount shares portfolio pos ids tokens positive found =>
    exact ⟨h.amended hbooked found (by rfl) same, h.unused⟩
  | withdrawn env user portfolioId shares gross portfolio old pos lock tokens found =>
    exact ⟨h.amended hbooked found (by rfl) same, h.unused⟩
  | revalued env op portfolioId rise portfolio portfolio' positions _ _ _ _ _ found stated amends =>
    have hnone := noneAdded_of_rise hn (by rw [stated]; exact Option.some_ne_none _)
    exact ⟨h.amended hbooked found (congrArg _ amends.targetWeights) hnone,
      fun id i hid => hnone _ (h.unused id i hid)⟩
  | governed env op portfolioId portfolio portfolio' found amends =>
    rw [amends.portfolioId]
    exact ⟨h.amended hbooked found (congrArg _ amends.targetWeights) same, h.unused⟩
  | retargeted env admin portfolioId newWeights portfolio positions found valid tokens written =>
    have hnone := retargetPositions_noneAdded written
    have hlength := congrArg List.length tokens
    rw [List.length_map, List.length_map] at hlength
    exact ⟨h.amended hbooked found hlength.symm hnone, fun id i hid => hnone _ (h.unused id i hid)⟩

theorem confined_run {tokens : τ}
    (hrun : Steps (next tok self) (fun _ _ => True) (deployed tokens) s) : Confined s := by
  have h := hrun.preserves (P := fun s => Booked s ∧ Confined s)
    (fun _ _ _ _ hn h => ⟨booked_step h.1 (next_effect hn), confined_step h.2 h.1 hn⟩)
    ⟨booked_deployed tokens, confined_deployed tokens⟩
  exact h.2

/-- Balances that are those of the positions are worth what the positions are. -/
theorem statedValue_of_current {positions : Positions} {portfolioId : ℕ} {balances : List ℤ} {i : ℕ}
    (h : ∀ j balance, balances[j]? = some balance →
      ∃ pos, positions.get? (portfolioId, i + j) = some pos ∧ pos.balance = balance) :
    statedValue positions portfolioId balances i =
      ∑ j ∈ Finset.Ico i (i + balances.length), valueIn positions portfolioId j := by
  induction balances generalizing i with
  | nil => simp [statedValue]
  | cons balance rest ih =>
    obtain ⟨pos, hpos, hbalance⟩ := h 0 balance rfl
    rw [add_zero] at hpos
    have hlength : i + (balance :: rest).length = i + 1 + rest.length := by
      rw [List.length_cons]
      omega
    have hrest := ih (i := i + 1) fun j b hj => by
      have := h (j + 1) b hj
      rwa [show i + (j + 1) = i + 1 + j by omega] at this
    have hprice : priceOf positions portfolioId i = pos.lastPrice := by simp [priceOf, hpos]
    rw [Finset.sum_eq_sum_Ico_succ_bot (by simp), hlength, ← hrest, statedValue, valueIn_some hpos,
      AssetPosition.value, hbalance, hprice]

theorem Booked.statedValue_current (h : Booked s) {id : ℕ} {portfolio : Portfolio}
    (hfound : s.portfolio.get? id = some portfolio) {newAssetBalances : List ℤ}
    (hlength : newAssetBalances.length = portfolio.targetWeights.length)
    (hcurrent : ∀ i pos, s.assetPosition.get? (id, i) = some pos →
      newAssetBalances[i]? = some pos.balance) :
    statedValue s.assetPosition id newAssetBalances 0 =
      positionsValue s.assetPosition id portfolio.targetWeights.length := by
  rw [statedValue_of_current fun j balance hj => ?_, positionsValue, Finset.range_eq_Ico, zero_add,
    hlength]
  -- Every balance has a target, and every target a position.
  obtain ⟨hlt, -⟩ := List.getElem?_eq_some_iff.mp hj
  obtain ⟨pos, hpos, -⟩ := h.targeted id portfolio hfound j _
    (List.getElem?_eq_getElem (hlength ▸ hlt))
  rw [zero_add]
  exact ⟨pos, hpos, Option.some.inj ((hcurrent j pos hpos).symm.trans hj)⟩

/-- After a rebalance the assets of a portfolio are the value of its positions. They
have followed it exactly if they were that before, which deposits do not keep. A
price update and dividends of assets at par move both by the same amount. -/
theorem assets_follow_positions {tokens : τ}
    (hrun : Steps (next tok self) (fun _ _ => True) (deployed tokens) s) {id : ℕ}
    {portfolio : Portfolio} (hfound : s.portfolio.get? id = some portfolio) :
    (∀ env caller buys sells newAssetBalances record s',
      rebalance env caller id buys sells newAssetBalances s = .ok (record, s') →
      ∃ portfolio', s'.portfolio.get? id = some portfolio' ∧
        portfolio'.totalAssets =
          positionsValue s'.assetPosition id portfolio.targetWeights.length ∧
        (portfolio'.totalAssets - portfolio.totalAssets =
            positionsValue s'.assetPosition id portfolio.targetWeights.length -
            positionsValue s.assetPosition id portfolio.targetWeights.length ↔
          portfolio.totalAssets =
            positionsValue s.assetPosition id portfolio.targetWeights.length) ∧
        ((∀ i pos, s.assetPosition.get? (id, i) = some pos →
            newAssetBalances[i]? = some pos.balance) →
          (portfolio'.totalAssets = portfolio.totalAssets ↔ portfolio.totalAssets =
            positionsValue s.assetPosition id portfolio.targetWeights.length))) ∧
    (∀ env caller assetIndex newBalance price s',
      updateAssetPosition env caller id assetIndex newBalance price s = .ok s' →
      ∃ portfolio', s'.portfolio.get? id = some portfolio' ∧
        portfolio'.totalAssets - portfolio.totalAssets =
          positionsValue s'.assetPosition id portfolio.targetWeights.length -
          positionsValue s.assetPosition id portfolio.targetWeights.length) ∧
    (∀ env caller dividendAmounts record s',
      collectDividends env caller id dividendAmounts s = .ok (record, s') →
      (∀ d ∈ dividendAmounts, ∀ i ∈ creditedIn s.assetPosition id
          (List.range' 0 portfolio.targetWeights.length) d.1,
        priceOf s.assetPosition id i = precisionFactor) →
      ∃ portfolio', s'.portfolio.get? id = some portfolio' ∧
        portfolio'.totalAssets - portfolio.totalAssets =
          positionsValue s'.assetPosition id portfolio.targetWeights.length -
          positionsValue s.assetPosition id portfolio.targetWeights.length) := by
  have hbooked := booked_run hrun
  have hconfined := confined_run hrun
  have hnumber := (hbooked.numbered id portfolio hfound).1
  refine ⟨?_, ?_, ?_⟩
  · intro env caller buys sells newAssetBalances record s' h
    obtain ⟨-, found, portfolio', hfound', hlength, hset, hstated, hvalue⟩ := rebalance_booked h
    obtain rfl : portfolio = found := Option.some.inj (hfound.symm.trans hfound')
    refine ⟨portfolio', ?_, hvalue, ?_, fun hcurrent => ?_⟩
    · rw [hset, hnumber]
      exact Store.get?_set_self _ _ _
    · rw [hvalue]
      constructor <;> intro heq <;> linarith
    · rw [hstated, hbooked.statedValue_current hfound hlength hcurrent]
      exact eq_comm
  · intro env caller assetIndex newBalance price s' h
    obtain ⟨-, pos, pos', found, portfolio', hfound', hpos, hpositions, hset, hassets⟩ :=
      updateAssetPosition_booked h
    obtain rfl : portfolio = found := Option.some.inj (hfound.symm.trans hfound')
    have hindex : assetIndex < portfolio.targetWeights.length := by
      by_contra hge
      have := hconfined.beyond id portfolio assetIndex hfound (not_lt.mp hge)
      rw [hpos] at this
      cases this
    refine ⟨portfolio', ?_, ?_⟩
    · rw [hset, hnumber]
      exact Store.get?_set_self _ _ _
    · rw [hpositions, positionsValue_set pos' hpos hindex, hassets]
      ring
  · intro env caller dividendAmounts record s' h hpar
    obtain ⟨-, found, portfolio', hfound', hset, hrise⟩ := collectDividends_booked h
    obtain rfl : portfolio = found := Option.some.inj (hfound.symm.trans hfound')
    refine ⟨portfolio', ?_, hrise hpar⟩
    rw [hset, hnumber]
    exact Store.get?_set_self _ _ _

section Runs

open Sample

/-- A portfolio whose assets are its positions. -/
def balanced : List (ℕ × Op) := opening ++ [
  (1, .rebalance admin 1 [] [] [200, 200, 200])]

theorem assets_follow_positions_balanced :
    ∃ s portfolio s' portfolio', Steps (next asset contract) (fun _ _ => True) start s ∧
      s.portfolio.get? 1 = some portfolio ∧ portfolio.totalAssets = 600 ∧
      updateAssetPosition (Sample.env 2) admin 1 0 300 precisionFactor s = .ok s' ∧
      s'.portfolio.get? 1 = some portfolio' ∧
      portfolio'.totalAssets - portfolio.totalAssets =
        positionsValue s'.assetPosition 1 portfolio.targetWeights.length -
        positionsValue s.assetPosition 1 portfolio.targetWeights.length := by
  have h : After (fun s => (∃ portfolio ∈ s.portfolio.get? 1, portfolio.totalAssets = 600) ∧
        After (fun _ => True) (updateAssetPosition (Sample.env 2) admin 1 0 300 precisionFactor s))
      (execute (next asset contract) (calls balanced) start) := by
    decide +kernel
  obtain ⟨s, hs, ⟨portfolio, hfound, hassets⟩, hdone⟩ := h.exists_ok
  obtain ⟨s', hs', -⟩ := hdone.exists_ok
  have hrun : Steps (next asset contract) (fun _ _ => True) start s :=
    execute_steps _ (fun _ _ _ => trivial) hs
  obtain ⟨portfolio', hfound', hrise⟩ :=
    (assets_follow_positions hrun hfound).2.1 _ _ _ _ _ _ hs'
  exact ⟨s, portfolio, s', portfolio', hrun, hfound, hassets, hs', hfound', hrise⟩

/-- Alice's deposit is in no position: a rebalance with the balances as they are
takes the assets from 600 to nothing. -/
theorem rebalance_drops_deposit :
    ¬ ∀ s, Steps (next asset contract) (fun _ _ => True) start s →
      ∀ id portfolio env caller buys sells newAssetBalances record s' portfolio',
        s.portfolio.get? id = some portfolio →
        rebalance env caller id buys sells newAssetBalances s = .ok (record, s') →
        s'.portfolio.get? id = some portfolio' →
        portfolio'.totalAssets - portfolio.totalAssets =
            positionsValue s'.assetPosition id portfolio.targetWeights.length -
            positionsValue s.assetPosition id portfolio.targetWeights.length ∧
          ((∀ i pos, s.assetPosition.get? (id, i) = some pos →
              newAssetBalances[i]? = some pos.balance) →
            portfolio'.totalAssets = portfolio.totalAssets) := by
  intro hall
  have h : After (fun s => ∃ portfolio ∈ s.portfolio.get? 1, portfolio.totalAssets = 600 ∧
        positionsValue s.assetPosition 1 portfolio.targetWeights.length = 0 ∧
        After (fun r => (∃ portfolio' ∈ r.2.portfolio.get? 1, portfolio'.totalAssets = 0) ∧
            positionsValue r.2.assetPosition 1 portfolio.targetWeights.length = 0)
          (rebalance (Sample.env 2592000) mallory 1 [] [] [0, 0, 0] s))
      (execute (next asset contract) (calls opening) start) := by
    decide +kernel
  obtain ⟨s, hs, portfolio, hfound, hassets, hvalue, hdone⟩ := h.exists_ok
  obtain ⟨⟨record, s'⟩, hr, ⟨portfolio', hfound', hassets'⟩, hvalue'⟩ := hdone.exists_ok
  have hrun : Steps (next asset contract) (fun _ _ => True) start s :=
    execute_steps _ (fun _ _ _ => trivial) hs
  have := (hall s hrun 1 portfolio _ _ _ _ _ record s' portfolio' hfound hr hfound').1
  simp only [hassets, hvalue, hassets', hvalue'] at this
  omega

end Runs

end PortfolioManager
