import StellAIverse.PortfolioManager.Effects
import StellAIverse.Soroban.Run

/-!
# Shares and target weights

The supply of a portfolio is what its users hold. Target weights are kept twice,
in the portfolio and in its positions, and the two are written together.
-/

namespace PortfolioManager

open Soroban

variable {τ : Type} {tok : Token τ} {self : Address} {s s' : State τ} {a : Action τ}

/-- What a position counts for the shares of a portfolio. -/
def sharesIn (portfolioId : ℕ) (key : Address × ℕ) (pos : UserPosition) : ℤ :=
  if key.2 = portfolioId then pos.shares else 0

/-- Each target has its position, with its token and its weight. -/
def Targeted (positions : Positions) (portfolioId : ℕ) (weights : List AssetAllocation) : Prop :=
  ∀ i allocation, weights[i]? = some allocation →
    ∃ pos, positions.get? (portfolioId, i) = some pos ∧ pos.token = allocation.token ∧
      pos.targetWeightBps = allocation.weightBps

structure Booked (s : State τ) : Prop where
  numbered : ∀ id portfolio, s.portfolio.get? id = some portfolio →
    portfolio.portfolioId = id ∧ id ≤ s.portfolioCounter.getD 0
  members : ∀ key pos, s.userPosition.get? key = some pos →
    key.2 ≤ s.portfolioCounter.getD 0 ∧ pos.pendingDividends = 0
  supply : ∀ id portfolio, s.portfolio.get? id = some portfolio →
    portfolio.totalSupply = s.userPosition.total (sharesIn id)
  weights : ∀ id portfolio, s.portfolio.get? id = some portfolio →
    weightSum portfolio.targetWeights = bpsDenominator
  targeted : ∀ id portfolio, s.portfolio.get? id = some portfolio →
    Targeted s.assetPosition id portfolio.targetWeights

theorem booked_deployed (tokens : τ) : Booked (deployed tokens) where
  numbered _ _ h := by cases h
  members _ _ h := by cases h
  supply _ _ h := by cases h
  weights _ _ h := by cases h
  targeted _ _ h := by cases h

theorem Targeted.mono {positions positions' : Positions} {portfolioId : ℕ}
    {weights : List AssetAllocation} (h : Targeted positions portfolioId weights)
    (hkept : Store.Extends SameTarget positions positions') :
    Targeted positions' portfolioId weights := by
  intro i allocation hi
  obtain ⟨pos, hpos, htoken, hweight⟩ := h i allocation hi
  obtain ⟨pos', hpos', htoken', hweight'⟩ := hkept _ pos hpos
  exact ⟨pos', hpos', htoken'.trans htoken, hweight'.trans hweight⟩

/-- The positions of a new portfolio, and of no other, are written. -/
theorem initPositions_get? (now portfolioId : ℕ) (allocations : List AssetAllocation) (i : ℕ)
    (positions : Positions) (key : ℕ × ℕ) :
    (initPositions now portfolioId allocations i positions).get? key =
      if key.1 = portfolioId ∧ i ≤ key.2 ∧ key.2 < i + allocations.length then
        allocations[key.2 - i]?.map (newPosition now)
      else positions.get? key := by
  obtain ⟨id, j⟩ := key
  induction allocations generalizing i positions with
  | nil =>
    rw [if_neg (by simp only [List.length_nil]; omega)]
    rfl
  | cons allocation rest ih =>
    unfold initPositions
    rw [ih, Store.get?_set]
    by_cases hid : id = portfolioId
    · subst hid
      rcases Nat.lt_trichotomy j i with hlt | rfl | hgt
      · have hne : (id, j) ≠ (id, i) := by
          intro he
          cases he
          omega
        rw [if_neg (by omega), if_neg hne, if_neg (by omega)]
      · rw [if_neg (by omega), if_pos rfl, if_pos (by simp)]
        simp
      · have hne : (id, j) ≠ (id, i) := by
          intro he
          cases he
          omega
        have hindex : j - i = (j - (i + 1)) + 1 := by omega
        rw [if_neg hne, hindex, List.getElem?_cons_succ]
        simp only [List.length_cons]
        by_cases hin : j < i + 1 + rest.length
        · rw [if_pos ⟨trivial, by omega, hin⟩, if_pos ⟨trivial, by omega, by omega⟩]
        · rw [if_neg (by omega), if_neg (by omega)]
    · have hne : (id, j) ≠ (portfolioId, i) := fun he => hid (Prod.mk.inj he).1
      rw [if_neg (fun h => hid h.1), if_neg hne, if_neg (fun h => hid h.1)]

theorem initPositions_targeted (now portfolioId : ℕ) (allocations : List AssetAllocation)
    (positions : Positions) :
    Targeted (initPositions now portfolioId allocations 0 positions) portfolioId allocations := by
  intro i allocation hi
  obtain ⟨hlt, -⟩ := List.getElem?_eq_some_iff.mp hi
  refine ⟨newPosition now allocation, ?_, rfl, rfl⟩
  rw [initPositions_get?, if_pos ⟨rfl, by omega, by omega⟩, Nat.sub_zero, hi]
  rfl

/-- The positions of another portfolio are not written. -/
theorem Targeted.initPositions {positions : Positions} {id portfolioId : ℕ}
    {weights : List AssetAllocation} (h : Targeted positions id weights) (hne : id ≠ portfolioId)
    (now : ℕ) (allocations : List AssetAllocation) :
    Targeted (PortfolioManager.initPositions now portfolioId allocations 0 positions) id weights := by
  intro i allocation hi
  rw [initPositions_get?, if_neg fun hk => hne hk.1]
  exact h i allocation hi

/-- New targets are written to the positions from an index on; tokens stay. -/
theorem retargetPositions_ok {portfolioId : ℕ} {totalAssets : ℤ} {weights : List AssetAllocation}
    {i : ℕ} {positions positions' : Positions}
    (h : retargetPositions portfolioId totalAssets weights i positions = .ok positions') :
    (∀ key, (∀ j, key ≠ (portfolioId, i + j)) → positions'.get? key = positions.get? key) ∧
    ∀ j weight, weights[j]? = some weight → ∃ pos pos',
      positions.get? (portfolioId, i + j) = some pos ∧
      positions'.get? (portfolioId, i + j) = some pos' ∧
      pos'.token = pos.token ∧ pos'.targetWeightBps = weight.weightBps := by
  induction weights generalizing i positions with
  | nil =>
    cases h
    exact ⟨fun _ _ => rfl, fun j weight hj => by cases hj⟩
  | cons first rest ih =>
    unfold retargetPositions getAssetPosition at h
    obtain ⟨pos, hpos, h⟩ := expect_bind.mp h
    obtain ⟨current, -, h⟩ := bind_ok.mp h
    obtain ⟨hother, hwritten⟩ := ih h
    refine ⟨fun key hkey => ?_, fun j weight hj => ?_⟩
    · have hlater : ∀ j, key ≠ (portfolioId, i + 1 + j) := by
        intro j
        rw [Nat.add_assoc]
        exact hkey (1 + j)
      exact (hother key hlater).trans (Store.get?_set_ne _ _ (hkey 0))
    · cases j with
      | zero =>
        cases hj
        refine ⟨pos, { pos with targetWeightBps := first.weightBps, currentWeightBps := current },
          hpos, ?_, rfl, rfl⟩
        rw [hother (portfolioId, i + 0) fun j he => by
          have := (Prod.mk.inj he).2
          omega]
        exact Store.get?_set_self _ _ _
      | succ j =>
        obtain ⟨old, new, hold, hnew, htoken, hweight⟩ := hwritten j weight hj
        have hindex : i + 1 + j = i + (j + 1) := by omega
        rw [hindex] at hold hnew
        rw [Store.get?_set_ne _ _ fun he => by
          have := (Prod.mk.inj he).2
          omega] at hold
        exact ⟨old, new, hold, hnew, htoken, hweight⟩

/-- The portfolio that gets new targets. -/
theorem retargetPositions_targeted {portfolioId : ℕ} {totalAssets : ℤ}
    {weights newWeights : List AssetAllocation} {positions positions' : Positions}
    (h : retargetPositions portfolioId totalAssets newWeights 0 positions = .ok positions')
    (htargeted : Targeted positions portfolioId weights)
    (htokens : weights.map (·.token) = newWeights.map (·.token)) :
    Targeted positions' portfolioId newWeights := by
  intro i weight hi
  obtain ⟨pos, pos', hpos, hpos', htoken, hweight⟩ := (retargetPositions_ok h).2 i weight hi
  rw [Nat.zero_add] at hpos hpos'
  -- The old target at this index has the same token.
  have hsame : (weights[i]?).map (·.token) = some weight.token := by
    rw [← List.getElem?_map, htokens, List.getElem?_map, hi]
    rfl
  obtain ⟨old, hold, holdToken⟩ := Option.map_eq_some_iff.mp hsame
  obtain ⟨pos₀, hpos₀, htoken₀, -⟩ := htargeted i old hold
  obtain rfl : pos₀ = pos := Option.some.inj (hpos₀.symm.trans hpos)
  exact ⟨pos', hpos', by rw [htoken, htoken₀, holdToken], hweight⟩

/-- The other portfolios. -/
theorem Targeted.retargetPositions {portfolioId id : ℕ} {totalAssets : ℤ}
    {weights newWeights : List AssetAllocation} {positions positions' : Positions}
    (htargeted : Targeted positions id weights) (hne : id ≠ portfolioId)
    (h : retargetPositions portfolioId totalAssets newWeights 0 positions = .ok positions') :
    Targeted positions' id weights := by
  intro i allocation hi
  rw [(retargetPositions_ok h).1 (id, i) fun j he => hne (Prod.mk.inj he).1]
  exact htargeted i allocation hi

/-- A portfolio is written that keeps its number, its targets and its shares. -/
theorem Booked.amended (h : Booked s) {id : ℕ} {portfolio portfolio' : Portfolio}
    (hfound : s.portfolio.get? id = some portfolio) (hamends : Amends portfolio portfolio')
    {positions : Positions} (hkept : Store.Extends SameTarget s.assetPosition positions) :
    (∀ id portfolio, (s.portfolio.set portfolio'.portfolioId portfolio').get? id = some portfolio →
      portfolio.portfolioId = id ∧ id ≤ s.portfolioCounter.getD 0) ∧
    (∀ id portfolio, (s.portfolio.set portfolio'.portfolioId portfolio').get? id = some portfolio →
      portfolio.totalSupply = s.userPosition.total (sharesIn id)) ∧
    (∀ id portfolio, (s.portfolio.set portfolio'.portfolioId portfolio').get? id = some portfolio →
      weightSum portfolio.targetWeights = bpsDenominator) ∧
    (∀ id portfolio, (s.portfolio.set portfolio'.portfolioId portfolio').get? id = some portfolio →
      Targeted positions id portfolio.targetWeights) := by
  have hid : portfolio'.portfolioId = id := hamends.portfolioId.trans (h.numbered id _ hfound).1
  rw [hid]
  refine ⟨Store.forall_set h.numbered ⟨hid, (h.numbered id _ hfound).2⟩,
    Store.forall_set h.supply ?_, Store.forall_set h.weights ?_,
    Store.forall_set (fun id p hp => (h.targeted id p hp).mono hkept) ?_⟩
  · rw [hamends.totalSupply]
    exact h.supply id portfolio hfound
  · rw [hamends.targetWeights]
    exact h.weights id portfolio hfound
  · rw [hamends.targetWeights]
    exact (h.targeted id portfolio hfound).mono hkept

/-- Supply and position move by the same number of shares. -/
theorem Booked.moved (h : Booked s) {user : Address} {portfolioId : ℕ} {shares totalAssets : ℤ}
    {portfolio : Portfolio} {pos : UserPosition}
    (hfound : s.portfolio.get? portfolioId = some portfolio)
    (hshares : pos.shares = sharesOf s user portfolioId + shares) :
    ∀ id p, (s.portfolio.set portfolio.portfolioId
        { portfolio with totalAssets, totalSupply := portfolio.totalSupply + shares }).get? id =
        some p →
      p.totalSupply = (s.userPosition.set (user, portfolioId) pos).total (sharesIn id) := by
  have hweight : ∀ id, s.userPosition.weight (sharesIn id) (user, portfolioId) =
      if portfolioId = id then sharesOf s user portfolioId else 0 := by
    intro id
    unfold Store.weight sharesOf sharesIn
    cases s.userPosition.get? (user, portfolioId) <;> simp
  rw [(h.numbered portfolioId portfolio hfound).1]
  intro id p hp
  rw [Store.get?_set] at hp
  rw [Store.total_set, hweight]
  split at hp
  · rename_i hid
    cases hp
    subst hid
    have hold := h.supply id portfolio hfound
    simp only [sharesIn, if_true, hshares]
    change portfolio.totalSupply + shares = s.userPosition.total (sharesIn id) - _ + _
    linarith
  · rename_i hid
    have hold := h.supply id p hp
    simp only [sharesIn, Ne.symm hid, if_false] at hold ⊢
    linarith

theorem booked_step (h : Booked s) (heffect : Effect tok self s a s') : Booked s' := by
  cases heffect with
  | transfers | configured | observed =>
    exact ⟨h.numbered, h.members, h.supply, h.weights, h.targeted⟩
  | created env op settings accumulator valid =>
    have hlater : ∀ id p, s.portfolio.get? id = some p → id ≠ s.portfolioCounter.getD 0 + 1 := by
      intro id p hp
      have := (h.numbered id p hp).2
      omega
    refine ⟨?_, ?_, ?_, ?_, ?_⟩
    · exact Store.forall_set (fun id p hp => ⟨(h.numbered id p hp).1,
        Nat.le_succ_of_le (h.numbered id p hp).2⟩) ⟨rfl, Nat.le_refl _⟩
    · exact fun key pos hk => ⟨Nat.le_succ_of_le (h.members key pos hk).1, (h.members key pos hk).2⟩
    · refine Store.forall_set h.supply ?_
      -- Nobody has a position in a portfolio that was not there.
      exact (Store.total_eq_zero fun key pos hk => if_neg (by
        have := (h.members key pos hk).1
        omega)).symm
    · refine Store.forall_set h.weights ?_
      rcases valid with hsum | ⟨id, source, hsource, hsame⟩
      · exact hsum
      · exact (congrArg weightSum hsame).trans (h.weights id source hsource)
    · intro id p hp
      change (s.portfolio.set _ _).get? id = some p at hp
      rw [Store.get?_set] at hp
      split at hp
      · rename_i hid
        cases hp
        subst hid
        exact initPositions_targeted _ _ _ _
      · exact (h.targeted id p hp).initPositions (hlater id p hp) _ _
  | deposited env user portfolioId amount shares portfolio pos ids tokens positive found paid minted
      pending =>
    have hnumber := h.numbered portfolioId portfolio found
    refine ⟨?_, ?_, h.moved found minted, ?_, ?_⟩
    · rw [hnumber.1]
      exact Store.forall_set h.numbered ⟨rfl, hnumber.2⟩
    · refine Store.forall_set h.members ⟨hnumber.2, ?_⟩
      rcases pending with hzero | ⟨old, hold, hsame⟩
      · exact hzero
      · exact hsame.trans (h.members _ old hold).2
    · rw [hnumber.1]
      exact Store.forall_set h.weights (h.weights portfolioId portfolio found)
    · rw [hnumber.1]
      exact Store.forall_set h.targeted (h.targeted portfolioId portfolio found)
  | withdrawn env user portfolioId shares gross portfolio old pos lock tokens found holds paid burned
      pending =>
    have hnumber := h.numbered portfolioId portfolio found
    have hshares : pos.shares = sharesOf s user portfolioId + -shares := by
      rw [burned, sharesOf, holds]
      ring
    refine ⟨?_, ?_, h.moved found hshares, ?_, ?_⟩
    · rw [hnumber.1]
      exact Store.forall_set h.numbered ⟨rfl, hnumber.2⟩
    · exact Store.forall_set h.members ⟨hnumber.2, pending.trans (h.members _ old holds).2⟩
    · rw [hnumber.1]
      exact Store.forall_set h.weights (h.weights portfolioId portfolio found)
    · rw [hnumber.1]
      exact Store.forall_set h.targeted (h.targeted portfolioId portfolio found)
  | revalued env op portfolioId rise portfolio portfolio' positions _ _ _ _ _ found stated amends
      raised kept =>
    rw [← amends.portfolioId]
    obtain ⟨hnumbered, hsupply, hweights, htargeted⟩ := h.amended found amends kept
    exact ⟨hnumbered, h.members, hsupply, hweights, htargeted⟩
  | governed env op portfolioId portfolio portfolio' found amends =>
    obtain ⟨hnumbered, hsupply, hweights, htargeted⟩ :=
      h.amended found amends (.refl SameTarget.refl _)
    exact ⟨hnumbered, h.members, hsupply, hweights, htargeted⟩
  | retargeted env admin portfolioId newWeights portfolio positions found valid tokens written =>
    have hnumber := h.numbered portfolioId portfolio found
    rw [hnumber.1]
    refine ⟨Store.forall_set h.numbered ⟨rfl, hnumber.2⟩, h.members,
      Store.forall_set h.supply (h.supply portfolioId portfolio found),
      Store.forall_set h.weights valid, ?_⟩
    intro id p hp
    change (s.portfolio.set _ _).get? id = some p at hp
    rw [Store.get?_set] at hp
    split at hp
    · rename_i hid
      cases hp
      subst hid
      exact retargetPositions_targeted written (h.targeted id portfolio found) tokens
    · rename_i hid
      exact (h.targeted id p hp).retargetPositions hid written
  | claimed env user portfolioId old pos lock tokens holds due =>
    -- No dividend is ever pending.
    have := (h.members _ old holds).2
    omega

theorem booked_run {tokens : τ} (hrun : Steps (next tok self) (fun _ _ => True) (deployed tokens) s) :
    Booked s :=
  hrun.preserves (fun _ _ _ _ hn h => booked_step h (next_effect hn)) (booked_deployed tokens)

/-- In every reachable state the supply of a portfolio is the sum of what its users hold, its
target weights make up the whole, and each of its assets has a position with the token and the
weight of its target. -/
theorem supply_and_targets {tokens : τ}
    (hrun : Steps (next tok self) (fun _ _ => True) (deployed tokens) s) {id : ℕ}
    {portfolio : Portfolio} (hfound : s.portfolio.get? id = some portfolio) :
    portfolio.totalSupply =
      s.userPosition.total (fun key pos => if key.2 = id then pos.shares else 0) ∧
    (portfolio.targetWeights.map fun allocation => (allocation.weightBps : ℤ)).sum = 10000 ∧
    ∀ i allocation, portfolio.targetWeights[i]? = some allocation →
      ∃ pos, s.assetPosition.get? (id, i) = some pos ∧ pos.token = allocation.token ∧
        pos.targetWeightBps = allocation.weightBps := by
  have h := booked_run hrun
  exact ⟨h.supply id portfolio hfound, h.weights id portfolio hfound, h.targeted id portfolio hfound⟩

namespace Sample

def contract : Address := ⟨0⟩

def admin : Address := ⟨1⟩

def oracle : Address := ⟨2⟩

def usdc : Address := ⟨3⟩

def gold : Address := ⟨4⟩

def silver : Address := ⟨5⟩

def bonds : Address := ⟨6⟩

def alice : Address := ⟨7⟩

def bob : Address := ⟨8⟩

def mallory : Address := ⟨9⟩

/-- Everyone signs. -/
def env (t : ℕ) : Env := ⟨t, fun _ => true⟩

def start : State Balances :=
  deployed (Balances.issue [(usdc, alice, 1000), (usdc, bob, 1000), (usdc, mallory, 1000)])

/-- Calls at their times. -/
def calls (ops : List (ℕ × Op)) : List (Action Balances) := ops.map fun e => .call (env e.1) e.2

/-- Equal weights for three assets, with a remainder of one basis point. -/
def opening : List (ℕ × Op) := [
  (0, .initializeContract admin),
  (0, .createEqualWeight alice "thirds" usdc oracle [gold, silver, bonds] .monthly),
  (0, .deposit alice 1 600)]

end Sample

section Runs

open Sample

/-- The portfolio is forked, revalued, given new targets, rebalanced and partly sold. -/
def aMonth : List (ℕ × Op) := opening ++ [
  (1, .forkPortfolio bob 1 "fork" none (some .annual)),
  (1, .deposit bob 1 300),
  (2, .updateAssetPosition admin 1 0 300 precisionFactor),
  (2, .collectDividends admin 1 [(silver, 40), (usdc, 7)]),
  (3, .setTargetWeights admin 1 [⟨gold, 5000, none⟩, ⟨silver, 3000, none⟩, ⟨bonds, 2000, none⟩]),
  (2592000, .rebalance mallory 1 [] [] [450, 270, 180]),
  (2592001, .withdraw alice 1 200)]

theorem supply_and_targets_aMonth :
    ∃ s portfolio fork, Steps (next asset contract) (fun _ _ => True) start s ∧
      s.portfolio.get? 1 = some portfolio ∧ s.portfolio.get? 2 = some fork ∧
      portfolio.totalSupply = 700 ∧
      s.userPosition.total (fun key pos => if key.2 = 1 then pos.shares else 0) = 700 ∧
      portfolio.targetWeights.map (·.weightBps) = [5000, 3000, 2000] ∧
      fork.targetWeights.map (·.weightBps) = [3334, 3333, 3333] ∧
      (fork.targetWeights.map fun allocation => (allocation.weightBps : ℤ)).sum = 10000 := by
  have h : After (fun s => ∃ portfolio ∈ s.portfolio.get? 1, ∃ fork ∈ s.portfolio.get? 2,
        portfolio.totalSupply = 700 ∧
        portfolio.targetWeights.map (·.weightBps) = [5000, 3000, 2000] ∧
        fork.targetWeights.map (·.weightBps) = [3334, 3333, 3333])
      (execute (next asset contract) (calls aMonth) start) := by
    decide +kernel
  obtain ⟨s, hs, portfolio, hportfolio, fork, hfork, hsupply, hweights, hforked⟩ := h.exists_ok
  have hrun : Steps (next asset contract) (fun _ _ => True) start s :=
    execute_steps _ (fun _ _ _ => trivial) hs
  refine ⟨s, portfolio, fork, hrun, hportfolio, hfork, hsupply, ?_, hweights, hforked, ?_⟩
  · exact (supply_and_targets hrun hportfolio).1.symm.trans hsupply
  · exact (supply_and_targets hrun hfork).2.1

end Runs

end PortfolioManager
