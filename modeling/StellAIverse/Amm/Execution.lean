import StellAIverse.Amm.Positions
import StellAIverse.Amm.Quotes
import StellAIverse.Amm.Routes

/-!
# A quoted route, executed

Executing the route that a search returned repeats its quotes: the pools it visits are distinct,
so each is still as it was quoted, and its hops collect no protocol fee. Beyond the checks that
every trade passes, only a token or the range of an integer can stop it.
-/

namespace Amm

open Soroban

section Execution

variable {τ : Type} {tok : Token τ} {self : Address} {env : Env} {s s' : State τ}
  {user tokenIn tokenOut : Address} {amount out least : ℤ} {id : ℕ} {pool : Pool} {aToB : Bool}

/-- What a swap at its quoted price still does: two transfers, and the new reserves. -/
def exchange (tok : Token τ) (self user : Address) (pool : Pool) (aToB : Bool) (amount out : ℤ)
    (s : State τ) : Result (ℤ × State τ) := do
  let tokens ← tok.pay s.tokens (pool.tokenIn aToB) user self amount
  let tokens ← tok.pay tokens (pool.tokenOut aToB) self user out
  let pool ← settleReserves pool aToB amount out
  .ok (out, setPool { s with tokens } pool)

/-- What a positive quote of a stored pool entails. -/
structure Sound (pool : Pool) (aToB : Bool) (amount out : ℤ) : Prop where
  amount_pos : 0 < amount
  in_pos : 0 < pool.reserveIn aToB
  covered : out < pool.reserveOut aToB
  amount_fits : I128.InRange amount
  fee_fits : I128.InRange (amount * pool.feeBps)
  left_fits : I128.InRange (pool.reserveOut aToB - out)

theorem Sells.sound (hw : WellFormed s) (h : Sells s.pool id pool aToB amount out) :
    Sound pool aToB amount out := by
  have hcap := (hw.pools id pool h.stored).2.2.capped
  have hfee : (pool.feeBps : ℤ) ≤ 1000 := by
    unfold maxFeeBps at hcap
    omega
  obtain ⟨hamount, hx, hy, net, hnet, -, hcurve⟩ :=
    getAmountOut_ok (by omega) h.quote h.positive
  have hout := h.positive
  have hcovered : out < pool.reserveOut aToB := by
    by_contra hge
    have := mul_le_mul_of_nonneg_right (not_lt.mp hge) hnet.le
    have := mul_pos hout hx
    linarith
  obtain ⟨hfits, hexact⟩ := (getAmountOut_iff hamount hx hy hcap).mp h.quote
  have hfactor : 9000 ≤ feeFactor pool.feeBps := by
    unfold feeFactor
    omega
  have hkept : 0 < ConstantProduct.afterFee amount (feeFactor pool.feeBps) 10000 := by
    refine (ConstantProduct.afterFee_nonneg hamount.le (by omega) (by omega)).lt_of_ne' ?_
    intro hzero
    rw [hzero] at hexact
    simp [ConstantProduct.outFor] at hexact
    omega
  refine ⟨hamount, hx, hcovered, hfits.scaled.of_le hamount.le ?_, hfits.scaled.of_le ?_ ?_, ?_⟩
  · exact le_mul_of_one_le_right hamount.le (by omega)
  · exact mul_nonneg hamount.le (by omega)
  · exact mul_le_mul_of_nonneg_left (by omega) hamount.le
  · refine hfits.bought.of_le (by omega) ?_
    have := le_mul_of_one_le_right hy.le hkept
    omega

theorem protocolFee_none {feeBps share : ℕ} (h0 : 0 ≤ amount)
    (hfits : I128.InRange (amount * feeBps)) : protocolFee false amount feeBps share = .ok 0 := by
  have hscaled : 0 ≤ amount * feeBps := mul_nonneg h0 (by omega)
  have hpart := hfits.of_le (Int.tdiv_nonneg hscaled (show 0 ≤ bpsDenominator by decide))
    (Int.tdiv_le_self _ hscaled)
  unfold protocolFee calculateSwapFee
  rw [I128.mul, I128.fit, if_pos hfits, ok_bind, I128.div, if_neg (by decide), I128.fit,
    if_pos hpart]
  rfl

theorem swapSide_tokenIn (hd : pool.tokenA ≠ pool.tokenB) (aToB : Bool) :
    swapSide pool (pool.tokenIn aToB) =
      .ok (pool.reserveIn aToB, pool.reserveOut aToB, aToB) := by
  unfold swapSide
  cases aToB
  · rw [if_neg (show pool.tokenIn false ≠ pool.tokenA from hd.symm)]
    exact if_pos rfl
  · exact if_pos rfl

/-- A swap at its quote is an exchange: none of its own checks is left. -/
theorem swapInternal_sells (hw : WellFormed s) (h : Sells s.pool id pool aToB amount out)
    (hleast : least ≤ out) :
    swapInternal tok self user id (pool.tokenIn aToB) amount least false s =
      exchange tok self user pool aToB amount out s := by
  have hformed := (hw.pools id pool h.stored).2.2
  have hsound := h.sound hw
  have hfull : ¬ (pool.reserveA ≤ 0 ∨ pool.reserveB ≤ 0) := by
    have hin := hsound.in_pos
    have hout := h.positive.trans hsound.covered
    cases aToB <;>
    · simp only [Pool.reserveIn, Pool.reserveOut, Bool.false_eq_true, if_false, if_true] at hin hout
      omega
  have hside := swapSide_tokenIn hformed.distinct aToB
  unfold swapInternal exchange
  rw [panicIf_of_not (not_le.mpr hsound.amount_pos), ok_bind, getPool, h.stored]
  simp only [expect, ok_bind, panicIf_of_not hfull, hside, h.quote,
    panicIf_of_not (not_lt.mpr hleast), panicIf_of_not (not_le.mpr h.positive),
    protocolFee_none hsound.amount_pos.le hsound.fee_fits]
  refine bind_congr_ok fun tokens _ => ?_
  simp only [payCollector, gt_iff_lt, lt_irrefl, if_false, ok_bind, I128.sub, sub_zero, I128.fit,
    hsound.amount_fits, if_true]
  rfl

/-- The new reserves are out of range only if what comes in is too much. -/
theorem settleReserves_cases (hleft : I128.InRange (pool.reserveOut aToB - out)) :
    settleReserves pool aToB amount out = .ok (pool.traded aToB amount out) ∨
      settleReserves pool aToB amount out = .error .overflow ∧
        ¬ I128.InRange (pool.reserveIn aToB + amount) := by
  by_cases hin : I128.InRange (pool.reserveIn aToB + amount)
  · left
    unfold settleReserves
    cases aToB <;>
    · simp only [Pool.reserveIn, Pool.reserveOut, Bool.false_eq_true, if_false, if_true] at hin hleft
      simp only [Bool.false_eq_true, if_false, if_true, I128.add, I128.sub, I128.fit, if_pos hin,
        if_pos hleft, ok_bind]
      rfl
  · right
    refine ⟨?_, hin⟩
    unfold settleReserves
    cases aToB <;>
    · simp only [Pool.reserveIn, Bool.false_eq_true, if_false, if_true] at hin
      simp only [Bool.false_eq_true, if_false, if_true, I128.add, I128.fit, if_neg hin]
      rfl

/-- How an exchange ends: it completes, a token refuses, or the reserve overflows. -/
theorem exchange_cases (tok : Token τ) (self user : Address) (amount : ℤ) (s : State τ)
    (hleft : I128.InRange (pool.reserveOut aToB - out)) :
    (∃ tokens, exchange tok self user pool aToB amount out s =
      .ok (out, { s with
        pool := s.pool.set pool.poolId (pool.traded aToB amount out), tokens })) ∨
    exchange tok self user pool aToB amount out s = .error .callFailed ∨
    exchange tok self user pool aToB amount out s = .error .overflow ∧
      ¬ I128.InRange (pool.reserveIn aToB + amount) := by
  unfold exchange Token.pay
  cases tok.transfer s.tokens (pool.tokenIn aToB) user self amount with
  | none => exact .inr (.inl rfl)
  | some tokens₁ =>
    simp only [ok_bind]
    cases tok.transfer tokens₁ (pool.tokenOut aToB) self user out with
    | none => exact .inr (.inl rfl)
    | some tokens₂ =>
      simp only [ok_bind]
      rcases settleReserves_cases hleft with heq | ⟨heq, hin⟩
      · rw [heq, ok_bind, setPool_traded]
        exact .inl ⟨tokens₂, rfl⟩
      · rw [heq]
        exact .inr (.inr ⟨rfl, hin⟩)

/-- Hops through distinct pools, each of which takes what the one before gives and asks for no
more than its pool quotes. -/
inductive Plan (pools : Store ℕ Pool) : List Hop → Address → ℤ → Address → ℤ → Prop
  | done (token : Address) (amount : ℤ) : Plan pools [] token amount token amount
  | hop {hop : Hop} {rest : List Hop} {pool : Pool} (aToB : Bool) {tokenOut : Address}
      {got out : ℤ} (sells : Sells pools hop.poolId pool aToB hop.amountIn got)
      (sold : hop.tokenIn = pool.tokenIn aToB) (least : hop.minAmountOut ≤ got)
      (fresh : ∀ later ∈ rest, later.poolId ≠ hop.poolId)
      (onward : Plan pools rest hop.tokenOut got tokenOut out) :
      Plan pools (hop :: rest) hop.tokenIn hop.amountIn tokenOut out

/-- A plan stands as long as its own pools do. -/
theorem Plan.frame {pools pools' : Store ℕ Pool} {hops : List Hop}
    (h : Plan pools hops tokenIn amount tokenOut out)
    (hsame : ∀ hop ∈ hops, pools'.get? hop.poolId = pools.get? hop.poolId) :
    Plan pools' hops tokenIn amount tokenOut out := by
  induction h with
  | done => exact .done _ _
  | @hop hop rest pool aToB _ _ _ sells sold least fresh _ ih =>
    have hhere := (hsame hop List.mem_cons_self).trans sells.stored
    exact .hop aToB ⟨hhere, sells.positive, sells.quote⟩ sold least fresh
      (ih fun later hlater => hsame later (List.mem_cons_of_mem hop hlater))

/-- The pool's reserve has room for what the hop sells to it. -/
def HopFits (pools : Store ℕ Pool) (hop : Hop) : Prop :=
  ∀ pool, pools.get? hop.poolId = some pool →
    I128.InRange ((if hop.tokenIn = pool.tokenA then pool.reserveA else pool.reserveB) +
      hop.amountIn)

theorem not_hopFits {hop : Hop} (hd : pool.tokenA ≠ pool.tokenB)
    (hk : s.pool.get? hop.poolId = some pool) (hsold : hop.tokenIn = pool.tokenIn aToB)
    (h : ¬ I128.InRange (pool.reserveIn aToB + hop.amountIn)) : ¬ HopFits s.pool hop := by
  intro hfits
  refine h ?_
  have hroom := hfits pool hk
  cases aToB
  · rwa [if_neg (show hop.tokenIn ≠ pool.tokenA from hsold ▸ hd.symm)] at hroom
  · rwa [if_pos (show hop.tokenIn = pool.tokenA from hsold)] at hroom

/-- A planned hop is an exchange. -/
theorem executeHop_planned (tok : Token τ) (self user : Address) (i : ℕ) {fees : ℕ} {hop : Hop}
    {got : ℤ} (hw : WellFormed s)
    (hsells : Sells s.pool hop.poolId pool aToB hop.amountIn got)
    (hsold : hop.tokenIn = pool.tokenIn aToB) (hleast : hop.minAmountOut ≤ got)
    (hfees : fees + pool.feeBps < 2 ^ 32) :
    executeHop tok self user i hop ⟨hop.amountIn, hop.tokenIn, fees⟩ s =
      (exchange tok self user pool aToB hop.amountIn got s >>= fun r =>
        .ok (⟨r.1, hop.tokenOut, fees + pool.feeBps⟩, r.2)) := by
  have hadd : U32.add fees pool.feeBps = .ok (fees + pool.feeBps) := if_pos hfees
  unfold executeHop
  rw [panicIf_of_not (not_not.mpr rfl), ok_bind, panicIf_of_not (not_not.mpr rfl), ok_bind,
    getPool, hsells.stored, hsold, swapInternal_sells hw hsells hleast]
  simp only [expect, ok_bind, hadd]

/-- How planned hops end: with the planned output, or where a token refuses or a reserve
overflows. -/
theorem executeHops_planned (tok : Token τ) (self user : Address) (i : ℕ) {fees : ℕ}
    {hops : List Hop} (hw : WellFormed s)
    (hplan : Plan s.pool hops tokenIn amount tokenOut out)
    (hfees : fees + hops.length * maxFeeBps < 2 ^ 32) :
    (∃ total s', executeHops tok self user i hops ⟨amount, tokenIn, fees⟩ s =
        .ok (⟨out, tokenOut, total⟩, s') ∧
      ∀ id, (∀ hop ∈ hops, hop.poolId ≠ id) → s'.pool.get? id = s.pool.get? id) ∨
    executeHops tok self user i hops ⟨amount, tokenIn, fees⟩ s = .error .callFailed ∨
    executeHops tok self user i hops ⟨amount, tokenIn, fees⟩ s = .error .overflow ∧
      ∃ hop ∈ hops, ¬ HopFits s.pool hop := by
  induction hops generalizing i fees s tokenIn amount with
  | nil =>
    cases hplan
    exact .inl ⟨fees, s, rfl, fun _ _ => rfl⟩
  | cons hop rest ih =>
    cases hplan with
    | @hop _ _ pool aToB _ got _ sells sold least fresh onward =>
      obtain ⟨hid, -, hformed⟩ := hw.pools _ pool sells.stored
      have hcap := hformed.capped
      rw [List.length_cons, Nat.add_mul, one_mul] at hfees
      have hstep := executeHop_planned tok self user i hw sells sold least
        (show fees + pool.feeBps < 2 ^ 32 by omega)
      unfold executeHops
      rcases exchange_cases tok self user hop.amountIn s (sells.sound hw).left_fits with
        ⟨tokens, heq⟩ | heq | ⟨heq, hover⟩
      · rw [heq, ok_bind] at hstep
        have hw₁ := trade_wellFormed hw (executeHop_trade hstep)
        have hothers : ∀ id, id ≠ hop.poolId →
            (s.pool.set pool.poolId (pool.traded aToB hop.amountIn got)).get? id =
              s.pool.get? id := fun id hne =>
          Store.get?_set_ne _ _ (hid ▸ hne)
        have honward := onward.frame fun later hlater => hothers _ (fresh later hlater)
        rw [hstep, ok_bind]
        rcases @ih _ _ _ (i + 1) (fees + pool.feeBps) hw₁ honward (by omega) with
          ⟨total, s', hrest, hframe⟩ | hrest | ⟨hrest, later, hlater, hover⟩
        · refine .inl ⟨total, s', hrest, fun id hne => ?_⟩
          rw [hframe id fun later hlater => hne later (List.mem_cons_of_mem hop hlater)]
          exact hothers id (hne hop List.mem_cons_self).symm
        · exact .inr (.inl hrest)
        · refine .inr (.inr ⟨hrest, later, List.mem_cons_of_mem hop hlater, fun hfits => hover ?_⟩)
          intro pool' hk'
          exact hfits pool' ((hothers _ (fresh later hlater)).symm.trans hk')
      · rw [heq] at hstep
        rw [hstep]
        exact .inr (.inl rfl)
      · rw [heq] at hstep
        rw [hstep]
        exact .inr (.inr ⟨rfl, hop, List.mem_cons_self,
          not_hopFits hformed.distinct sells.stored sold hover⟩)

/-- A returned route, as its search left it. -/
structure Returned (s : State τ) (tokenIn tokenOut : Address) (amount : ℤ) (route : Route)
    (s₁ : State τ) : Prop where
  ends : route.tokenIn = tokenIn ∧ route.tokenOut = tokenOut ∧ route.amountIn = amount
  distinct : tokenIn ≠ tokenOut
  positive : 0 < amount
  fits : I128.InRange amount
  few : route.hops.length ≤ 2
  plan : Plan s.pool route.hops tokenIn amount tokenOut route.amountOut
  kept : ∃ breaker, s₁ = { s with circuitBreakerState := breaker }

theorem least_le (h : 0 ≤ out) : (out * 95).tdiv 100 ≤ out := by
  have hfloor := I128.tdiv_mul_le (show 0 ≤ out * 95 by omega) (show (0 : ℤ) < 100 by omega)
  omega

theorem findBestRoute_returned {maxHops : ℕ} {route : Route} {s₁ : State τ} (hw : WellFormed s)
    (h : findBestRoute env tokenIn tokenOut amount maxHops s = .ok (route, s₁)) :
    Returned s tokenIn tokenOut amount route s₁ := by
  have hsearched : Searched (findBestRoute env tokenIn tokenOut amount maxHops s) := by
    intro e he
    rw [h] at he
    cases he
  obtain ⟨hne, -, breaker, direct, best, hdirect, hpairs, heq⟩ := findBestRoute_scans hsearched
  rw [h] at heq
  obtain ⟨found, hfound, hrest⟩ := expect_bind.mp heq.symm
  cases hrest
  rcases Search.scan_attained hpairs with rfl | ⟨⟨id₁, id₂⟩, -, route', hroute, rfl⟩
  · rcases Search.scan_attained hdirect with rfl | ⟨id, -, route', hroute, rfl⟩
    · cases hfound
    · cases hfound
      obtain ⟨pool, aToB, rfl, rfl, hsells, hsingle⟩ := tryDirectRoute_some hroute
      have hsound := Sells.sound hw hsells
      rw [hsingle]
      refine ⟨⟨rfl, rfl, rfl⟩, hne, hsound.amount_pos, hsound.amount_fits, by simp [singleHop], ?_,
        breaker, rfl⟩
      exact .hop aToB hsells rfl (least_le hsells.positive.le) (by simp) (.done _ _)
  · cases hfound
    unfold tryPair at hroute
    split at hroute
    · rename_i hother
      obtain ⟨token, first, second, fees, hfirst, hsecond, rfl⟩ := tryTwoHopRoute_some hroute
      obtain ⟨pool₁, aToB₁, rfl, rfl, hsells₁, hone⟩ := tryDirectRoute_some hfirst
      obtain ⟨pool₂, aToB₂, hbetween, rfl, hsells₂, htwo⟩ := tryDirectRoute_some hsecond
      have hsound := Sells.sound hw hsells₁
      have hhops : (joined env first second fees).hops = [
          ⟨id₁, pool₁.tokenIn aToB₁, pool₁.tokenOut aToB₁, amount,
            (first.amountOut * 95).tdiv 100⟩,
          ⟨id₂, pool₁.tokenOut aToB₁, pool₂.tokenOut aToB₂, first.amountOut,
            (second.amountOut * 95).tdiv 100⟩] := by
        rw [joined, hone, htwo]
        rfl
      refine ⟨⟨?_, ?_, ?_⟩, hne, hsound.amount_pos, hsound.amount_fits, ?_, ?_, breaker, rfl⟩
      · rw [joined, hone]
        rfl
      · rw [joined, htwo]
        rfl
      · rw [joined, hone]
        rfl
      · rw [hhops]
        exact le_rfl
      · rw [hhops]
        refine .hop aToB₁ hsells₁ rfl (least_le hsells₁.positive.le) ?_ ?_
        · simpa using Ne.symm hother
        · exact .hop aToB₂ hsells₂ hbetween (least_le hsells₂.positive.le) (by simp) (.done _ _)
    · cases hroute

/-- The reserves and the positions that the route moves stay within the integers. -/
structure SumsFit (s : State τ) (user : Address) (route : Route) : Prop where
  reserves : ∀ hop ∈ route.hops, HopFits s.pool hop
  sold : I128.InRange (getUserPositionForToken s user route.tokenIn - route.amountIn)
  bought : I128.InRange (getUserPositionForToken s user route.tokenOut + route.amountOut)

theorem updateUserPosition_cases (env : Env) (s : State τ) (user token : Address) (change : ℤ) :
    (∃ s', updateUserPosition env s user token change = .ok s') ∨
      updateUserPosition env s user token change = .error .overflow ∧
        ¬ I128.InRange (getUserPositionForToken s user token + change) := by
  unfold updateUserPosition I128.add I128.fit
  by_cases hfits : I128.InRange (getUserPositionForToken s user token + change)
  · rw [if_pos hfits, ok_bind]
    left
    split <;> exact ⟨_, rfl⟩
  · rw [if_neg hfits]
    exact .inr ⟨rfl, hfits⟩

theorem checkTradingAllowed_frame (hw : WellFormed s) (h : checkTradingAllowed env s = .ok s') :
    WellFormed s' ∧ s'.pool = s.pool ∧ s'.userPosition = s.userPosition := by
  obtain ⟨breaker, rfl⟩ := checkTradingAllowed_ok h
  exact ⟨hw.frame breaker s.userPosition s.reentrancyLock, rfl, rfl⟩

/-- How the two updates of an executed route end. -/
theorem updates_cases (env : Env) (s : State τ) (user : Address) {route : Route}
    (hne : route.tokenIn ≠ route.tokenOut)
    (hpos : 0 < route.amountIn) (hfits : I128.InRange route.amountIn) :
    (∃ s', (do
        let sold ← I128.fit (-route.amountIn)
        let s ← updateUserPosition env s user route.tokenIn sold
        let s ← updateUserPosition env s user route.tokenOut route.amountOut
        .ok (route.amountOut, s)) = .ok (route.amountOut, s') ∧ s'.pool = s.pool) ∨
    (do
        let sold ← I128.fit (-route.amountIn)
        let s ← updateUserPosition env s user route.tokenIn sold
        let s ← updateUserPosition env s user route.tokenOut route.amountOut
        .ok (route.amountOut, s)) = (.error .overflow : Result (ℤ × State τ)) ∧
      ¬ (I128.InRange (getUserPositionForToken s user route.tokenIn - route.amountIn) ∧
        I128.InRange (getUserPositionForToken s user route.tokenOut + route.amountOut)) := by
  have hneg : I128.InRange (-route.amountIn) := by
    unfold I128.InRange I128.min I128.max at hfits ⊢
    omega
  rw [I128.fit, if_pos hneg, ok_bind]
  rcases updateUserPosition_cases env s user route.tokenIn (-route.amountIn) with
    ⟨s₁, heq⟩ | ⟨heq, hover⟩
  · rw [heq, ok_bind]
    have hsame : getUserPositionForToken s₁ user route.tokenOut =
        getUserPositionForToken s user route.tokenOut := by
      rw [updateUserPosition_position heq, if_neg fun h => hne h.2.symm, add_zero]
    obtain ⟨positions, rfl⟩ := updateUserPosition_ok heq
    rcases updateUserPosition_cases env _ user route.tokenOut route.amountOut with
      ⟨s₂, heq₂⟩ | ⟨heq₂, hover⟩
    · rw [heq₂, ok_bind]
      obtain ⟨positions₂, rfl⟩ := updateUserPosition_ok heq₂
      exact .inl ⟨_, rfl, rfl⟩
    · rw [heq₂]
      rw [hsame] at hover
      exact .inr ⟨rfl, fun h => hover h.2⟩
  · rw [heq]
    exact .inr ⟨rfl, fun h => hover h.1⟩

/-- How a planned route ends, from any state in which its pools are as they were planned. -/
theorem executeMultiHopSwap_planned {route : Route} (hw : WellFormed s)
    (hplan : Plan s.pool route.hops route.tokenIn route.amountIn route.tokenOut route.amountOut)
    (hne : route.tokenIn ≠ route.tokenOut) (hpos : 0 < route.amountIn)
    (hfits : I128.InRange route.amountIn) (hfew : route.hops.length ≤ 2) :
    (∃ s', executeMultiHopSwap tok self env user route route.amountOut s =
        .ok (route.amountOut, s') ∧
      ∀ id, (∀ hop ∈ route.hops, hop.poolId ≠ id) → s'.pool.get? id = s.pool.get? id) ∨
    ∃ e, executeMultiHopSwap tok self env user route route.amountOut s = .error e ∧
      (requireAuth env user = .error e ∨ checkTradingAllowed env s = .error e ∨
        (∃ s', checkTradingAllowed env s = .ok s' ∧
          checkPositionLimits s' user route.tokenIn route.amountIn = .error e) ∨
        e = .callFailed ∨ e = .overflow ∧ ¬ SumsFit s user route) := by
  unfold executeMultiHopSwap
  cases hauth : requireAuth env user with
  | error e => exact .inr ⟨e, rfl, .inl rfl⟩
  | ok u =>
    rw [ok_bind, panicIf_of_not (not_le.mpr hpos), ok_bind, panicIf_of_not (lt_irrefl _), ok_bind]
    cases htrading : checkTradingAllowed env s with
    | error e => exact .inr ⟨e, rfl, .inr (.inl rfl)⟩
    | ok s₁ =>
      obtain ⟨hw₁, hpools, hpositions⟩ := checkTradingAllowed_frame hw htrading
      rw [← hpools] at hplan
      rw [ok_bind]
      cases hlimits : checkPositionLimits s₁ user route.tokenIn route.amountIn with
      | error e => exact .inr ⟨e, rfl, .inr (.inr (.inl ⟨s₁, rfl, hlimits⟩))⟩
      | ok u =>
        have hfees : 0 + route.hops.length * maxFeeBps < 2 ^ 32 := by
          unfold maxFeeBps
          omega
        rw [ok_bind]
        rcases executeHops_planned tok self user 0 hw₁ hplan hfees with
          ⟨total, s₂, hhops, hframe⟩ | hhops | ⟨hhops, hop, hmem, hover⟩
        · have huntouched := (executeHops_quote hw₁ hhops).2.2
          have hkept : ∀ token, getUserPositionForToken s₂ user token =
              getUserPositionForToken s user token := fun token => by
            rw [getUserPositionForToken, huntouched.positions, hpositions]
            rfl
          rw [hhops, ok_bind]
          simp only [panicIf_of_not (lt_irrefl route.amountOut),
            panicIf_of_not (not_not.mpr (rfl : route.tokenOut = route.tokenOut)), ok_bind]
          rcases updates_cases env s₂ user hne hpos hfits with
            ⟨s₃, heq, hsame⟩ | ⟨heq, hover⟩
          · refine .inl ⟨s₃, heq, fun id hother => ?_⟩
            rw [hsame, hframe id hother, hpools]
          · refine .inr ⟨.overflow, heq, .inr (.inr (.inr (.inr ⟨rfl, fun hsums => ?_⟩)))⟩
            rw [hkept, hkept] at hover
            exact hover ⟨hsums.sold, hsums.bought⟩
        · rw [hhops]
          exact .inr ⟨.callFailed, rfl, .inr (.inr (.inr (.inl rfl)))⟩
        · rw [hhops]
          refine .inr ⟨.overflow, rfl, .inr (.inr (.inr (.inr ⟨rfl, fun hsums => hover ?_⟩)))⟩
          rw [hpools]
          exact hsums.reserves hop hmem

/-- Executed next, a returned route gives exactly its quoted output and touches its own pools
only; otherwise the caller, trading or the position is refused, a token refuses a transfer, or a
sum leaves the integers. -/
theorem executeMultiHopSwap_quoted (env' : Env) (user : Address) {maxHops : ℕ} {route : Route}
    {s₁ : State τ} (hs : Reachable tok self s)
    (hfound : findBestRoute env tokenIn tokenOut amount maxHops s = .ok (route, s₁)) :
    (∃ s₂, executeMultiHopSwap tok self env' user route route.amountOut s₁ =
        .ok (route.amountOut, s₂) ∧
      ∀ id, (∀ hop ∈ route.hops, hop.poolId ≠ id) → s₂.pool.get? id = s.pool.get? id) ∨
    ∃ e, executeMultiHopSwap tok self env' user route route.amountOut s₁ = .error e ∧
      (requireAuth env' user = .error e ∨ checkTradingAllowed env' s₁ = .error e ∨
        (∃ s₂, checkTradingAllowed env' s₁ = .ok s₂ ∧
          checkPositionLimits s₂ user route.tokenIn route.amountIn = .error e) ∨
        e = .callFailed ∨ e = .overflow ∧ ¬ SumsFit s₁ user route) := by
  obtain ⟨⟨rfl, rfl, rfl⟩, hne, hpos, hfits, hfew, hplan, breaker, rfl⟩ :=
    findBestRoute_returned hs.wellFormed hfound
  have hw := hs.wellFormed.frame breaker s.userPosition s.reentrancyLock
  exact executeMultiHopSwap_planned hw hplan hne hpos hfits hfew

end Execution

open Sample in
/-- Two hops along the chain, executed as quoted. -/
theorem executeMultiHopSwap_quoted_chain :
    ∃ s r s₂, chain = .ok s ∧ findBestRoute env xlm eurc 1000 2 s = .ok r ∧
      r.1.amountOut = 828 ∧ r.1.hops.map (·.poolId) = [0, 1] ∧
      executeMultiHopSwap asset contract env bob r.1 r.1.amountOut r.2 =
        .ok (r.1.amountOut, s₂) ∧
      s₂.pool.get? 2 = s.pool.get? 2 := by
  have h : After (fun s => After (fun r => r.1.amountOut = 828 ∧ r.1.hops.map (·.poolId) = [0, 1] ∧
        After (fun _ => True)
          (executeMultiHopSwap asset contract env bob r.1 r.1.amountOut r.2))
      (findBestRoute env xlm eurc 1000 2 s)) chain := by
    decide +kernel
  obtain ⟨s, hs, hfound⟩ := h.exists_ok
  obtain ⟨⟨route, s₁⟩, hr, hout, hids, hexecuted⟩ := hfound.exists_ok
  obtain ⟨r₂, hr₂, -⟩ := hexecuted.exists_ok
  rcases executeMultiHopSwap_quoted env bob (chain_reachable hs) hr with
    ⟨s₂, hdone, hframe⟩ | ⟨e, herror, -⟩
  · refine ⟨s, _, s₂, hs, hr, hout, hids, hdone, hframe 2 fun hop hmem => ?_⟩
    have hlisted : hop.poolId ∈ [0, 1] := hids ▸ List.mem_map_of_mem hmem
    simp only [List.mem_cons, List.not_mem_nil, or_false] at hlisted
    omega
  · cases hr₂.symm.trans herror

end Amm
