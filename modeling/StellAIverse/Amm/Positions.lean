import Mathlib.Algebra.Order.BigOperators.Group.Finset
import StellAIverse.Amm.Pools

/-!
# Tracked positions

Only multi-hop swaps move positions: down by what is sold, up by what is bought. The limits are
checked before the trade, on the token that is sold and as if it were bought.
-/

namespace Amm

open Soroban

section Positions

variable {τ : Type} {tok : Token τ} {self : Address} {env : Env} {s s' : State τ}
  {user token : Address} {change : ℤ} {route : Route} {least out : ℤ}

theorem updateUserPosition_position (h : updateUserPosition env s user token change = .ok s')
    (user' token' : Address) :
    getUserPositionForToken s' user' token' = getUserPositionForToken s user' token' +
      if user' = user ∧ token' = token then change else 0 := by
  unfold updateUserPosition at h
  rw [I128.add_bind] at h
  obtain ⟨-, h⟩ := h
  by_cases hk : user' = user ∧ token' = token
  · obtain ⟨rfl, rfl⟩ := hk
    rw [if_pos ⟨rfl, rfl⟩]
    split at h
    · rename_i hzero
      cases h
      rw [hzero, getUserPositionForToken, Store.get?_remove, if_pos rfl]
      rfl
    · cases h
      simp [getUserPositionForToken]
  · have hkey : (user', token') ≠ (user, token) := fun he => by
      cases he
      exact hk ⟨rfl, rfl⟩
    rw [if_neg hk, add_zero]
    split at h <;> cases h
    · rw [getUserPositionForToken, Store.get?_remove, if_neg hkey]
      rfl
    · rw [getUserPositionForToken, Store.get?_set, if_neg hkey]
      rfl

/-- The output that the pools quote along the hops, each hop on what the earlier ones left. -/
def quoteAlong (pools : Store ℕ Pool) : List Hop → ℤ → Result ℤ
  | [], amount => .ok amount
  | hop :: rest, amount => do
    let pool ← expect (pools.get? hop.poolId) "Pool not found"
    let (reserveIn, reserveOut, aToB) ← swapSide pool hop.tokenIn
    let out ← getAmountOut amount reserveIn reserveOut pool.feeBps
    quoteAlong (pools.set hop.poolId (pool.traded aToB amount out)) rest out

/-- The tokens of all pools, each once. -/
def poolTokens (s : State τ) : Finset Address :=
  (Finset.range s.poolCounter).biUnion fun id =>
    match s.pool.get? id with
    | some pool => {pool.tokenA, pool.tokenB}
    | none => ∅

/-- A trade leaves every pool its tokens, and no position is touched. -/
structure Untouched (s s' : State τ) : Prop where
  tokens : poolTokens s' = poolTokens s
  positions : s'.userPosition = s.userPosition
  params : s'.riskParams = s.riskParams

theorem Untouched.refl (s : State τ) : Untouched s s := ⟨rfl, rfl, rfl⟩

theorem Untouched.trans {s'' : State τ} (h : Untouched s s') (h' : Untouched s' s'') :
    Untouched s s'' :=
  ⟨h'.tokens.trans h.tokens, h'.positions.trans h.positions, h'.params.trans h.params⟩

theorem trade_untouched (hw : WellFormed s) (h : Trade tok self user s s') : Untouched s s' := by
  cases h with
  | mk id pool aToB _ amountIn out fee _ tokens stored =>
    refine ⟨?_, rfl, rfl⟩
    have hid := (hw.pools id pool stored).1
    have htokens : (pool.traded aToB (amountIn - fee) out).tokenA = pool.tokenA ∧
        (pool.traded aToB (amountIn - fee) out).tokenB = pool.tokenB := by
      cases aToB <;> exact ⟨rfl, rfl⟩
    unfold poolTokens
    refine Finset.biUnion_congr rfl fun id' _ => ?_
    simp only [hid, Store.get?_set]
    by_cases he : id' = id
    · subst he
      simp only [if_pos, stored, htokens.1, htokens.2]
    · rw [if_neg he]

theorem executeHop_quote {i : ℕ} {hop : Hop} {progress progress' : Progress}
    (h : executeHop tok self user i hop progress s = .ok (progress', s')) :
    ∃ pool aToB, s.pool.get? hop.poolId = some pool ∧
      swapSide pool hop.tokenIn = .ok (pool.reserveIn aToB, pool.reserveOut aToB, aToB) ∧
      getAmountOut progress.currentAmount (pool.reserveIn aToB) (pool.reserveOut aToB)
        pool.feeBps = .ok progress'.currentAmount ∧
      0 < progress'.currentAmount ∧
      s'.pool = s.pool.set pool.poolId
        (pool.traded aToB progress.currentAmount progress'.currentAmount) := by
  unfold executeHop at h
  simp only [panicIf_bind, getPool_bind, not_not] at h
  obtain ⟨hamount, -, pool', -, h⟩ := h
  obtain ⟨⟨out, s₁⟩, hswap, h⟩ := bind_ok.mp h
  rw [U32.add_bind] at h
  cases h.2
  obtain ⟨pool, aToB, fee, _, tokens, hstored, -, hside, hpos, hquote, hfee, -, -, hr⟩ :=
    swapInternal_ok hswap
  -- A hop collects no fee for the protocol.
  have hnone : fee = 0 := by
    unfold protocolFee at hfee
    obtain ⟨_, -, hfee⟩ := bind_ok.mp hfee
    cases hfee
    rfl
  subst hnone
  rw [hamount] at hquote hr
  refine ⟨pool, aToB, hstored, hside, hquote, hpos, ?_⟩
  change s₁ = _ at hr
  rw [hr, sub_zero]

/-- Executed hops yield what is quoted along them. -/
theorem executeHops_quote {i : ℕ} {hops : List Hop} {progress progress' : Progress}
    (hw : WellFormed s)
    (h : executeHops tok self user i hops progress s = .ok (progress', s')) :
    quoteAlong s.pool hops progress.currentAmount = .ok progress'.currentAmount ∧
      (0 < progress.currentAmount → 0 < progress'.currentAmount) ∧ Untouched s s' := by
  induction hops generalizing i progress s with
  | nil =>
    cases h
    exact ⟨rfl, id, .refl _⟩
  | cons hop rest ih =>
    obtain ⟨⟨progress₁, s₁⟩, hhop, hrest⟩ := bind_ok.mp h
    have htrade := executeHop_trade hhop
    obtain ⟨pool, aToB, hstored, hside, hquote, hpos, hpool⟩ := executeHop_quote hhop
    obtain ⟨honward, hpositive, huntouched⟩ := ih (trade_wellFormed hw htrade) hrest
    refine ⟨?_, fun _ => hpositive hpos, (trade_untouched hw htrade).trans huntouched⟩
    rw [(hw.pools _ pool hstored).1] at hpool
    simp only [quoteAlong, hstored, expect, ok_bind, hside, hquote]
    rw [← hpool]
    exact honward

/-- Where a multi-hop swap that yields `q` leaves the positions of its user. -/
def movedPosition (s : State τ) (user : Address) (route : Route) (q : ℤ) (token : Address) : ℤ :=
  getUserPositionForToken s user token + (if token = route.tokenOut then q else 0) -
    if token = route.tokenIn then route.amountIn else 0

/-- A completed multi-hop swap yields what is quoted and moves two positions of its user. -/
theorem executeMultiHopSwap_moves (hw : WellFormed s)
    (h : executeMultiHopSwap tok self env user route least s = .ok (out, s')) :
    quoteAlong s.pool route.hops route.amountIn = .ok out ∧ 0 < route.amountIn ∧ 0 < out ∧
      poolTokens s' = poolTokens s ∧ s'.riskParams = s.riskParams ∧
      (∀ token, getUserPositionForToken s' user token = movedPosition s user route out token) ∧
      ∀ other token, other ≠ user →
        getUserPositionForToken s' other token = getUserPositionForToken s other token := by
  unfold executeMultiHopSwap at h
  simp only [requireAuth_bind, panicIf_bind, not_le] at h
  obtain ⟨-, hamount, -, h⟩ := h
  obtain ⟨s₀, hs₀, h⟩ := bind_ok.mp h
  obtain ⟨breaker, rfl⟩ := checkTradingAllowed_ok hs₀
  obtain ⟨-, -, h⟩ := bind_ok.mp h
  obtain ⟨⟨progress, s₁⟩, hhops, h⟩ := bind_ok.mp h
  simp only [panicIf_bind] at h
  obtain ⟨-, -, h⟩ := h
  obtain ⟨sold, hsold, h⟩ := bind_ok.mp h
  obtain ⟨-, rfl⟩ := I128.fit_ok.mp hsold
  obtain ⟨s₂, hs₂, h⟩ := bind_ok.mp h
  obtain ⟨s₃, hs₃, h⟩ := bind_ok.mp h
  cases h
  obtain ⟨hquote, hpositive, huntouched⟩ :=
    executeHops_quote (hw.frame breaker s.userPosition s.reentrancyLock) hhops
  have hpositions : ∀ user token, getUserPositionForToken s₁ user token =
      getUserPositionForToken s user token := fun user token => by
    rw [getUserPositionForToken, huntouched.positions]
    rfl
  have hsecond := updateUserPosition_position hs₃
  have hfirst := updateUserPosition_position hs₂
  obtain ⟨positions₂, rfl⟩ := updateUserPosition_ok hs₂
  obtain ⟨positions₃, rfl⟩ := updateUserPosition_ok hs₃
  refine ⟨hquote, hamount, hpositive hamount, huntouched.tokens, huntouched.params, fun token => ?_,
    fun other token hother => ?_⟩
  · rw [hsecond, hfirst, hpositions]
    unfold movedPosition
    simp only [true_and]
    split <;> split <;> omega
  · rw [hsecond, hfirst, hpositions]
    simp [hother]

/-- What the limits say of one user. -/
def WithinLimits (s : State τ) (user : Address) : Prop :=
  (∀ token, |getUserPositionForToken s user token| ≤ s.riskParams.maxPositionPerAsset) ∧
    ∑ token ∈ poolTokens s, |getUserPositionForToken s user token| ≤
      s.riskParams.maxPositionPerUser

/-- The limits leave room for selling what the route sells and for buying `q`. -/
structure Room (s : State τ) (user : Address) (route : Route) (q : ℤ) : Prop where
  sold : -s.riskParams.maxPositionPerAsset ≤ movedPosition s user route q route.tokenIn
  bought : movedPosition s user route q route.tokenOut ≤ s.riskParams.maxPositionPerAsset
  total : ∑ token ∈ poolTokens s, |movedPosition s user route q token| ≤
    s.riskParams.maxPositionPerUser

/-- They leave room for what the pools quote. -/
def LeavesRoom (s : State τ) (user : Address) (route : Route) : Prop :=
  ∀ q, quoteAlong s.pool route.hops route.amountIn = .ok q → Room s user route q

/-- Multi-hop swaps for which there is room, and risk parameters that are not changed once a
position is tracked. -/
def Cautious (s : State τ) : Action τ → Prop
  | .call _ (.executeMultiHopSwap user route _) => LeavesRoom s user route
  | .call _ (.setRiskParameters _ _) => ∀ user token, getUserPositionForToken s user token = 0
  | _ => True

/-- No position of anybody exceeds the limit per asset. -/
def Bounded (s : State τ) : Prop :=
  ∀ user token, |getUserPositionForToken s user token| ≤ s.riskParams.maxPositionPerAsset

/-- A position that moves only down stays below, one that moves only up stays above. -/
theorem moved_bounded_iff (hb : Bounded s) (hamount : 0 < route.amountIn) (hout : 0 < out) :
    (∀ token, |movedPosition s user route out token| ≤ s.riskParams.maxPositionPerAsset) ↔
      -s.riskParams.maxPositionPerAsset ≤ movedPosition s user route out route.tokenIn ∧
        movedPosition s user route out route.tokenOut ≤ s.riskParams.maxPositionPerAsset := by
  constructor
  · intro hall
    exact ⟨(abs_le.mp (hall route.tokenIn)).1, (abs_le.mp (hall route.tokenOut)).2⟩
  · rintro ⟨hsold, hbought⟩ token
    obtain ⟨hlow, hhigh⟩ := abs_le.mp (hb user token)
    rw [abs_le]
    by_cases hin : token = route.tokenIn <;> by_cases hto : token = route.tokenOut
    · exact ⟨hin ▸ hsold, hto ▸ hbought⟩
    · refine ⟨hin ▸ hsold, ?_⟩
      rw [movedPosition, if_neg hto, if_pos hin]
      omega
    · refine ⟨?_, hto ▸ hbought⟩
      rw [movedPosition, if_pos hto, if_neg hin]
      omega
    · rw [movedPosition, if_neg hto, if_neg hin]
      omega

/-- After a completed multi-hop swap its user is within the limits exactly if they left room. -/
theorem withinLimits_iff (hw : WellFormed s) (hb : Bounded s)
    (h : executeMultiHopSwap tok self env user route least s = .ok (out, s')) :
    WithinLimits s' user ↔ LeavesRoom s user route := by
  obtain ⟨hquote, hamount, hout, htokens, hparams, hmoved, -⟩ := executeMultiHopSwap_moves hw h
  unfold WithinLimits
  simp only [hmoved, hparams, htokens, moved_bounded_iff hb hamount hout]
  constructor
  · rintro ⟨⟨hsold, hbought⟩, htotal⟩ q hq
    cases hquote.symm.trans hq
    exact ⟨hsold, hbought, htotal⟩
  · intro hroom
    obtain ⟨hsold, hbought, htotal⟩ := hroom out hquote
    exact ⟨⟨hsold, hbought⟩, htotal⟩

theorem swap_untouched {id : ℕ} {tokenIn : Address} {amountIn : ℤ} {r : ℤ × State τ}
    (h : swap tok self env user id tokenIn amountIn least s = .ok r) :
    r.2.userPosition = s.userPosition ∧ r.2.riskParams = s.riskParams := by
  unfold swap at h
  rw [requireAuth_bind] at h
  obtain ⟨s₀, hs₀, h⟩ := bind_ok.mp h.2
  obtain ⟨breaker, rfl⟩ := checkTradingAllowed_ok hs₀
  obtain ⟨s₁, hbody, hr⟩ := withReentrancyGuard_ok h
  rw [hr]
  cases swapInternal_trade hbody
  exact ⟨rfl, rfl⟩

theorem flashSwap_untouched {id : ℕ} {tokenIn tokenOut : Address} {amountOut most : ℤ}
    {r : ℤ × State τ}
    (h : flashSwap tok self env user id tokenOut amountOut tokenIn most s = .ok r) :
    r.2.userPosition = s.userPosition ∧ r.2.riskParams = s.riskParams := by
  unfold flashSwap at h
  rw [requireAuth_bind] at h
  obtain ⟨s₀, hs₀, h⟩ := bind_ok.mp h.2
  obtain ⟨breaker, rfl⟩ := checkTradingAllowed_ok hs₀
  rw [panicIf_bind] at h
  obtain ⟨s₁, hbody, hr⟩ := withReentrancyGuard_ok h.2
  rw [hr]
  cases (flashSwapInternal_trade hbody).1
  exact ⟨rfl, rfl⟩

/-- Only multi-hop swaps move positions, and only `set_risk_parameters` moves the limits. -/
theorem positions_step {a : Action τ} (h : next tok self a s = .ok s') :
    (∃ env user route least, a = .call env (.executeMultiHopSwap user route least)) ∨
    (s'.userPosition = s.userPosition ∧ s'.riskParams = s.riskParams) ∨
    ∃ env admin params, a = .call env (.setRiskParameters admin params) ∧
      s'.userPosition = s.userPosition ∧ 0 < s'.riskParams.maxPositionPerAsset := by
  cases next_effect h with
  | trades env op user _ _ _ _ _ trader =>
    cases op with
    | swap =>
      obtain ⟨r, hr, heq⟩ := map_ok.mp h
      refine .inr (.inl ?_)
      rw [← heq]
      exact swap_untouched hr
    | flashSwap =>
      obtain ⟨r, hr, heq⟩ := map_ok.mp h
      refine .inr (.inl ?_)
      rw [← heq]
      exact flashSwap_untouched hr
    | executeMultiHopSwap user route least => exact .inl ⟨env, user, route, least, rfl⟩
    | _ => cases trader
  | setRiskParameters env admin params =>
    simp only [next, invoke, setRiskParameters, requireAuth_bind, assertAdmin_bind,
      panicIf_bind, not_le] at h
    exact .inr (.inr ⟨env, admin, params, rfl, rfl, h.2.2.2.1⟩)
  | _ => exact .inr (.inl ⟨rfl, rfl⟩)

theorem bounded_step {a : Action τ} (hw : WellFormed s) (ha : Cautious s a)
    (h : next tok self a s = .ok s') (hb : Bounded s) : Bounded s' := by
  rcases positions_step h with ⟨env, user, route, least, rfl⟩ | ⟨hsame, hparams⟩ |
    ⟨env, admin, params, rfl, hsame, hpos⟩
  · obtain ⟨⟨out, s₁⟩, hr, rfl⟩ := map_ok.mp h
    obtain ⟨-, -, -, -, hparams, -, hothers⟩ := executeMultiHopSwap_moves hw hr
    intro other token
    by_cases hother : other = user
    · subst hother
      exact ((withinLimits_iff hw hb hr).mpr ha).1 token
    · simp only
      rw [hothers other token hother, hparams]
      exact hb other token
  · intro user token
    rw [getUserPositionForToken, hsame, hparams]
    exact hb user token
  · intro user token
    rw [getUserPositionForToken, hsame]
    change |getUserPositionForToken s user token| ≤ _
    rw [ha user token, abs_zero]
    exact hpos.le

theorem bounded_of_cautious (hs : ReachableVia tok self Cautious s) : WellFormed s ∧ Bounded s := by
  refine ⟨hs.reachable.wellFormed, ?_⟩
  obtain ⟨tokens, hrun⟩ := hs
  have hboth : WellFormed s ∧ Bounded s := by
    refine hrun.preserves (P := fun s => WellFormed s ∧ Bounded s) ?_
      ⟨wellFormed_deployed tokens, fun _ _ => show |(0 : ℤ)| ≤ 10000000000 by decide⟩
    intro s a s' ha hn hboth
    exact ⟨wellFormed_step hboth.1 (next_effect hn), bounded_step hboth.1 ha hn hboth.2⟩
  exact hboth.2

/-- In a run of swaps for which there was room, the user of one more multi-hop swap is within the
limits after it exactly if there is room for it too. -/
theorem positions_within_iff (hs : ReachableVia tok self Cautious s)
    (h : executeMultiHopSwap tok self env user route least s = .ok (out, s')) :
    WithinLimits s' user ↔ LeavesRoom s user route := by
  obtain ⟨hw, hb⟩ := bounded_of_cautious hs
  exact withinLimits_iff hw hb h

end Positions

namespace Sample

/-- One pool whose output is worth twice its input, and a route through it. -/
def deep : Result (State Balances) :=
  execute (next asset contract) (List.map (.call env) [
    .initializeContract admin none,
    .createPool admin xlm usdc 30,
    .addLiquidity alice 0 (10 ^ 10) (2 * 10 ^ 10)])
    (deployed (Balances.issue [(xlm, alice, 10 ^ 11), (usdc, alice, 10 ^ 11), (xlm, bob, 10 ^ 11)]))

theorem deep_cautious {s : State Balances} (h : deep = .ok s) :
    ReachableVia asset contract Cautious s := by
  refine ⟨_, execute_steps _ (fun a ha s => ?_) h⟩
  simp only [List.map_cons, List.map_nil, List.mem_cons, List.not_mem_nil, or_false] at ha
  rcases ha with rfl | rfl | rfl <;> exact trivial

def through (amountIn amountOut : ℤ) : Route where
  tokenIn := xlm
  tokenOut := usdc
  amountIn := amountIn
  amountOut := amountOut
  totalFeeBps := 30
  hops := [{ poolId := 0, tokenIn := xlm, tokenOut := usdc, amountIn, minAmountOut := 0 }]
  createdAt := 0

end Sample

open Sample in
/-- A small swap, for which there is room. -/
theorem positions_within_iff_small :
    ∃ s r, deep = .ok s ∧
      executeMultiHopSwap asset contract env bob (through 1000 1993) 1993 s = .ok r ∧
      WithinLimits r.2 bob := by
  have h : After (fun s => After (fun _ => True)
        (executeMultiHopSwap asset contract env bob (through 1000 1993) 1993 s) ∧
      quoteAlong s.pool (through 1000 1993).hops 1000 = .ok 1993 ∧
      -s.riskParams.maxPositionPerAsset ≤ movedPosition s bob (through 1000 1993) 1993 xlm ∧
      movedPosition s bob (through 1000 1993) 1993 usdc ≤ s.riskParams.maxPositionPerAsset ∧
      ∑ token ∈ poolTokens s, |movedPosition s bob (through 1000 1993) 1993 token| ≤
        s.riskParams.maxPositionPerUser) deep := by
    decide +kernel
  obtain ⟨s, hs, hswap, hquote, hsold, hbought, htotal⟩ := h.exists_ok
  obtain ⟨r, hr, -⟩ := hswap.exists_ok
  refine ⟨s, r, hs, hr, (positions_within_iff (deep_cautious hs) hr).mpr fun q hq => ?_⟩
  cases hquote.symm.trans hq
  exact ⟨hsold, hbought, htotal⟩

open Sample in
/-- The check sees what is sold and passes; what is bought is tracked after it. -/
theorem positions_exceed_limit :
    ∃ s r, deep = .ok s ∧
      executeMultiHopSwap asset contract env bob (through (5 * 10 ^ 8) 949659475) 949659475 s =
        .ok r ∧
      r.2.riskParams = s.riskParams ∧ ¬ WithinLimits r.2 bob := by
  have h : After (fun s => After (fun r =>
        r.2.riskParams.maxPositionPerUser <
          ∑ token ∈ poolTokens r.2, |getUserPositionForToken r.2 bob token|)
      (executeMultiHopSwap asset contract env bob (through (5 * 10 ^ 8) 949659475) 949659475 s))
      deep := by
    decide +kernel
  obtain ⟨s, hs, hswap⟩ := h.exists_ok
  obtain ⟨r, hr, hexceeds⟩ := hswap.exists_ok
  have hparams := (executeMultiHopSwap_moves (deep_cautious hs).reachable.wellFormed hr).2.2.2.2.1
  exact ⟨s, r, hs, hr, hparams, fun hwithin => absurd hwithin.2 (not_le.mpr hexceeds)⟩

end Amm
