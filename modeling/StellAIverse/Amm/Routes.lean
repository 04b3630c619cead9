import Mathlib.Order.Bounds.Basic
import StellAIverse.Amm.Pools
import StellAIverse.Soroban.Search

/-!
# The search for a route

A route visits pools one after the other and sells to each what the last one gave. The search
tries every single pool and every pair of pools, whatever number of hops it is allowed.
-/

namespace Amm

open Soroban

section Routes

variable {τ : Type} {tok : Token τ} {self : Address} {env : Env} {s s' : State τ}
  {tokenIn tokenOut : Address} {amount out : ℤ} {id : ℕ} {pool : Pool}

/-- Through the pools `ids` in this order, `amount` of one token is quoted as `out` of another. -/
inductive Path (pools : Store ℕ Pool) : List ℕ → Address → Address → ℤ → ℤ → Prop
  | done (token : Address) (amount : ℤ) : Path pools [] token token amount amount
  | hop {id : ℕ} {ids : List ℕ} {pool : Pool} (aToB : Bool) {tokenIn tokenOut : Address}
      {amount got out : ℤ} (stored : pools.get? id = some pool) (sold : tokenIn = pool.tokenIn aToB)
      (quote : getAmountOut amount (pool.reserveIn aToB) (pool.reserveOut aToB) pool.feeBps =
        .ok got)
      (rest : Path pools ids (pool.tokenOut aToB) tokenOut got out) :
      Path pools (id :: ids) tokenIn tokenOut amount out

/-- A route through pairwise distinct pools, of at most so many hops. -/
structure Offer (pools : Store ℕ Pool) (maxHops : ℕ) (tokenIn tokenOut : Address) (amount : ℤ)
    (ids : List ℕ) (out : ℤ) : Prop where
  distinct : ids.Nodup
  short : ids.length ≤ maxHops
  path : Path pools ids tokenIn tokenOut amount out

/-- The route that `try_direct_route` proposes. -/
def singleHop (env : Env) (id : ℕ) (tokenIn tokenOut : Address) (amountIn amountOut : ℤ)
    (feeBps : ℕ) : Route where
  tokenIn := tokenIn
  tokenOut := tokenOut
  amountIn := amountIn
  amountOut := amountOut
  totalFeeBps := feeBps
  hops := [{ poolId := id, tokenIn, tokenOut, amountIn, minAmountOut := (amountOut * 95).tdiv 100 }]
  createdAt := env.timestamp

/-- What a stored pool quotes for a positive output. -/
structure Sells (pools : Store ℕ Pool) (id : ℕ) (pool : Pool) (aToB : Bool) (amount out : ℤ) :
    Prop where
  stored : pools.get? id = some pool
  positive : 0 < out
  quote : getAmountOut amount (pool.reserveIn aToB) (pool.reserveOut aToB) pool.feeBps = .ok out

theorem Sells.path {aToB : Bool} (h : Sells s.pool id pool aToB amount out) :
    Path s.pool [id] (pool.tokenIn aToB) (pool.tokenOut aToB) amount out :=
  .hop aToB h.stored rfl h.quote (.done _ _)

theorem tokenIn_ne_tokenOut (hd : pool.tokenA ≠ pool.tokenB) (aToB : Bool) :
    pool.tokenIn aToB ≠ pool.tokenOut aToB := by
  cases aToB
  · exact hd.symm
  · exact hd

theorem tryDirectRoute_some {route : Route}
    (h : tryDirectRoute env s id tokenIn tokenOut amount = .ok (some route)) :
    ∃ pool aToB, tokenIn = pool.tokenIn aToB ∧ tokenOut = pool.tokenOut aToB ∧
      Sells s.pool id pool aToB amount route.amountOut ∧
      route = singleHop env id tokenIn tokenOut amount route.amountOut pool.feeBps := by
  unfold tryDirectRoute at h
  rw [getPool_bind] at h
  obtain ⟨pool, hk, h⟩ := h
  have hside : ∃ aToB, tokenIn = pool.tokenIn aToB ∧ tokenOut = pool.tokenOut aToB ∧
      (if pool.reserveIn aToB ≤ 0 ∨ pool.reserveOut aToB ≤ 0 then .ok none else do
        let amountOut ← getAmountOut amount (pool.reserveIn aToB) (pool.reserveOut aToB) pool.feeBps
        if amountOut ≤ 0 then .ok none else do
          let scaled ← I128.mul amountOut 95
          let minAmountOut ← I128.div scaled 100
          .ok (some {
            tokenIn, tokenOut, amountIn := amount, amountOut, totalFeeBps := pool.feeBps
            hops := [{ poolId := id, tokenIn, tokenOut, amountIn := amount, minAmountOut }]
            createdAt := env.timestamp })) = Except.ok (some route) := by
    by_cases hab : tokenIn = pool.tokenA ∧ tokenOut = pool.tokenB
    · rw [if_pos hab] at h
      exact ⟨true, hab.1, hab.2, h⟩
    · rw [if_neg hab] at h
      by_cases hba : tokenIn = pool.tokenB ∧ tokenOut = pool.tokenA
      · rw [if_pos hba] at h
        exact ⟨false, hba.1, hba.2, h⟩
      · rw [if_neg hba] at h
        cases h
  obtain ⟨aToB, hin, hout, h⟩ := hside
  split at h
  · cases h
  · obtain ⟨amountOut, hquote, h⟩ := bind_ok.mp h
    split at h
    · cases h
    · rename_i hpos
      simp only [I128.mul_bind, I128.div_bind] at h
      obtain ⟨-, -, -, h⟩ := h
      cases h
      exact ⟨pool, aToB, hin, hout, ⟨hk, not_le.mp hpos, hquote⟩, rfl⟩

/-- A pool that sells the pair is proposed, if the search gets past it. -/
theorem tryDirectRoute_sells {aToB : Bool} {proposal : Option Route} (hd : pool.tokenA ≠ pool.tokenB)
    (hsells : Sells s.pool id pool aToB amount out)
    (h : tryDirectRoute env s id (pool.tokenIn aToB) (pool.tokenOut aToB) amount = .ok proposal) :
    proposal = some (singleHop env id (pool.tokenIn aToB) (pool.tokenOut aToB) amount out
      pool.feeBps) := by
  unfold tryDirectRoute at h
  rw [getPool_bind] at h
  obtain ⟨pool', hk, h⟩ := h
  obtain rfl : pool = pool' := Option.some.inj (hsells.stored.symm.trans hk)
  have hside : (if pool.tokenIn aToB = pool.tokenA ∧ pool.tokenOut aToB = pool.tokenB then
        some (pool.reserveA, pool.reserveB)
      else if pool.tokenIn aToB = pool.tokenB ∧ pool.tokenOut aToB = pool.tokenA then
        some (pool.reserveB, pool.reserveA)
      else none) = some (pool.reserveIn aToB, pool.reserveOut aToB) := by
    cases aToB
    · rw [if_neg fun hab => hd hab.1.symm]
      exact if_pos ⟨rfl, rfl⟩
    · exact if_pos ⟨rfl, rfl⟩
  rw [hside] at h
  have hfull : ¬ (pool.reserveIn aToB ≤ 0 ∨ pool.reserveOut aToB ≤ 0) := by
    -- An empty pool quotes nothing.
    intro hempty
    have hzero : getAmountOut amount (pool.reserveIn aToB) (pool.reserveOut aToB) pool.feeBps =
        .ok 0 := if_pos (.inr hempty)
    cases hzero.symm.trans hsells.quote
    exact absurd hsells.positive (lt_irrefl 0)
  simp only [if_neg hfull, hsells.quote, ok_bind, if_neg (not_le.mpr hsells.positive),
    I128.mul_bind, I128.div_bind] at h
  obtain ⟨-, -, -, h⟩ := h
  cases h
  rfl

/-- The route that `try_two_hop_route` puts together from two proposals. -/
def joined (env : Env) (first second : Route) (totalFeeBps : ℕ) : Route where
  tokenIn := first.tokenIn
  tokenOut := second.tokenOut
  amountIn := first.amountIn
  amountOut := second.amountOut
  totalFeeBps := totalFeeBps
  hops := first.hops ++ second.hops
  createdAt := env.timestamp

theorem tryTwoHopRoute_some {id₁ id₂ : ℕ} {route : Route}
    (h : tryTwoHopRoute env s id₁ id₂ tokenIn tokenOut amount = .ok (some route)) :
    ∃ token first second fees,
      tryDirectRoute env s id₁ tokenIn token amount = .ok (some first) ∧
      tryDirectRoute env s id₂ token tokenOut first.amountOut = .ok (some second) ∧
      route = joined env first second fees := by
  unfold tryTwoHopRoute at h
  rw [getPool_bind] at h
  obtain ⟨pool₁, -, h⟩ := h
  rw [getPool_bind] at h
  obtain ⟨pool₂, -, h⟩ := h
  split at h
  · cases h
  · rename_i token _
    obtain ⟨first, hfirst, h⟩ := bind_ok.mp h
    cases first with
    | none => cases h
    | some first =>
      obtain ⟨second, hsecond, h⟩ := bind_ok.mp h
      cases second with
      | none => cases h
      | some second =>
        obtain ⟨_, _, -, -, -, hone⟩ := tryDirectRoute_some hfirst
        obtain ⟨_, _, -, -, -, htwo⟩ := tryDirectRoute_some hsecond
        rw [hone, htwo] at h
        simp only [singleHop, List.head?_cons, expect_bind, Option.some.injEq, exists_eq_left',
          U32.add_bind] at h
        obtain ⟨-, h⟩ := h
        cases h
        refine ⟨token, first, second, pool₁.feeBps + pool₂.feeBps, hfirst, hsecond, ?_⟩
        rw [joined, hone, htwo]
        rfl

/-- The token between is the one that the first pool gives and the second takes. -/
theorem findIntermediateToken_eq {pool₁ pool₂ : Pool} {aToB : Bool}
    (hd : pool₁.tokenA ≠ pool₁.tokenB) (hlast : pool₁.tokenOut aToB ≠ tokenOut)
    (hnext : pool₁.tokenOut aToB = pool₂.tokenA ∨ pool₁.tokenOut aToB = pool₂.tokenB) :
    findIntermediateToken pool₁ pool₂ (pool₁.tokenIn aToB) tokenOut =
      some (pool₁.tokenOut aToB) := by
  have hfree := tokenIn_ne_tokenOut hd aToB
  have hfits : ¬ (pool₁.tokenOut aToB = pool₁.tokenIn aToB ∨ pool₁.tokenOut aToB = tokenOut) ∧
      (pool₁.tokenOut aToB = pool₂.tokenA ∨ pool₁.tokenOut aToB = pool₂.tokenB) :=
    ⟨fun h => h.elim hfree.symm hlast, hnext⟩
  unfold findIntermediateToken
  cases aToB
  · exact List.find?_cons_of_pos (decide_eq_true hfits)
  · -- The first candidate is the token that is sold.
    rw [List.find?_cons_of_neg (by simp [Pool.tokenIn])]
    exact List.find?_cons_of_pos (decide_eq_true hfits)

/-- Two pools that sell through a token between are proposed, if the search gets past them. -/
theorem tryTwoHopRoute_sells {id₁ id₂ : ℕ} {pool₁ pool₂ : Pool} {aToB₁ aToB₂ : Bool} {got : ℤ}
    {proposal : Option Route} (hd₁ : pool₁.tokenA ≠ pool₁.tokenB)
    (hd₂ : pool₂.tokenA ≠ pool₂.tokenB) (hfirst : Sells s.pool id₁ pool₁ aToB₁ amount got)
    (hbetween : pool₁.tokenOut aToB₁ = pool₂.tokenIn aToB₂)
    (hsecond : Sells s.pool id₂ pool₂ aToB₂ got out)
    (h : tryTwoHopRoute env s id₁ id₂ (pool₁.tokenIn aToB₁) (pool₂.tokenOut aToB₂) amount =
      .ok proposal) :
    ∃ route, proposal = some route ∧ route.amountOut = out := by
  unfold tryTwoHopRoute at h
  rw [getPool_bind] at h
  obtain ⟨pool, hk, h⟩ := h
  obtain rfl : pool₁ = pool := Option.some.inj (hfirst.stored.symm.trans hk)
  rw [getPool_bind] at h
  obtain ⟨pool, hk, h⟩ := h
  obtain rfl : pool₂ = pool := Option.some.inj (hsecond.stored.symm.trans hk)
  have hmiddle : findIntermediateToken pool₁ pool₂ (pool₁.tokenIn aToB₁) (pool₂.tokenOut aToB₂) =
      some (pool₁.tokenOut aToB₁) := by
    have hnext : pool₁.tokenOut aToB₁ = pool₂.tokenA ∨ pool₁.tokenOut aToB₁ = pool₂.tokenB := by
      rw [hbetween]
      cases aToB₂
      · exact .inr rfl
      · exact .inl rfl
    refine findIntermediateToken_eq hd₁ ?_ hnext
    rw [hbetween]
    exact tokenIn_ne_tokenOut hd₂ aToB₂
  rw [hmiddle] at h
  simp only at h
  obtain ⟨first, hone, h⟩ := bind_ok.mp h
  cases tryDirectRoute_sells hd₁ hfirst hone
  simp only [singleHop] at h
  rw [hbetween] at h
  obtain ⟨second, htwo, h⟩ := bind_ok.mp h
  cases tryDirectRoute_sells hd₂ hsecond htwo
  simp only [singleHop, List.head?_cons, expect_bind, Option.some.injEq, exists_eq_left',
    U32.add_bind] at h
  obtain ⟨-, h⟩ := h
  cases h
  exact ⟨_, rfl, rfl⟩

/-- How a search says that it found nothing. -/
def noRoute : Fault := .panic "No valid route found"

/-- A search that looked everywhere: it found something, or it says that there is nothing. -/
def Searched {α : Type} (result : Result α) : Prop := ∀ e, result = .error e → e = noRoute

theorem Searched.bind {α β : Type} {x : Result α} {f : α → Result β} (h : Searched (x >>= f))
    (hx : Avoids noRoute x) : ∃ a, x = .ok a ∧ (x >>= f) = f a := by
  cases x with
  | error e => exact absurd (congrArg Except.error (h e rfl)) hx
  | ok a => exact ⟨a, rfl, rfl⟩

theorem getAmountOut_avoids {e : Fault} (hoverflow : e ≠ .overflow) (hzero : e ≠ .divisionByZero)
    {x y : ℤ} {feeBps : ℕ} : Avoids e (getAmountOut amount x y feeBps) := by
  unfold getAmountOut
  split
  · exact avoids_ok 0
  · refine (I128.fit_avoids hoverflow).bind fun _ _ => ?_
    refine (I128.fit_avoids hoverflow).bind fun _ _ => ?_
    refine (I128.div_avoids_of_ne hzero hoverflow).bind fun _ _ => ?_
    refine (I128.fit_avoids hoverflow).bind fun _ _ => ?_
    refine (I128.fit_avoids hoverflow).bind fun _ _ => ?_
    exact I128.div_avoids_of_ne hzero hoverflow

theorem checkTradingAllowed_avoids {e : Fault} (hpaused : e ≠ .panic "Trading is currently paused")
    (hactive : e ≠ .panic "Circuit breaker is active") : Avoids e (checkTradingAllowed env s) := by
  unfold checkTradingAllowed
  refine (panicIf_avoids hpaused).bind fun _ _ => ?_
  split
  · split
    · split
      · simp [Avoids, hactive.symm]
      · exact avoids_ok _
    · exact avoids_ok _
  · exact avoids_ok _

theorem tryDirectRoute_avoids :
    Avoids noRoute (tryDirectRoute env s id tokenIn tokenOut amount) := by
  unfold tryDirectRoute
  refine (expect_avoids (by decide)).bind fun pool _ => ?_
  simp only
  split
  · exact avoids_ok _
  · split
    · exact avoids_ok _
    · refine (getAmountOut_avoids (by decide) (by decide)).bind fun _ _ => ?_
      split
      · exact avoids_ok _
      · refine (I128.fit_avoids (by decide)).bind fun _ _ => ?_
        exact (I128.div_avoids_of_ne (by decide) (by decide)).bind fun _ _ => avoids_ok _

theorem tryTwoHopRoute_avoids {id₁ id₂ : ℕ} :
    Avoids noRoute (tryTwoHopRoute env s id₁ id₂ tokenIn tokenOut amount) := by
  unfold tryTwoHopRoute
  refine (expect_avoids (by decide)).bind fun pool₁ _ => ?_
  refine (expect_avoids (by decide)).bind fun pool₂ _ => ?_
  split
  · exact avoids_ok _
  · refine tryDirectRoute_avoids.bind fun first _ => ?_
    cases first with
    | none => exact avoids_ok _
    | some first =>
      refine tryDirectRoute_avoids.bind fun second _ => ?_
      cases second with
      | none => exact avoids_ok _
      | some second =>
        refine (expect_avoids (by decide)).bind fun _ _ => ?_
        refine (expect_avoids (by decide)).bind fun _ _ => ?_
        refine Avoids.bind ?_ fun _ _ => avoids_ok _
        unfold U32.add
        split
        · exact avoids_ok _
        · simp [Avoids, noRoute]

/-- What the nested loops ask for a pair. -/
def tryPair (env : Env) (s : State τ) (tokenIn tokenOut : Address) (amount : ℤ) (pair : ℕ × ℕ) :
    Result (Option Route) :=
  if pair.1 ≠ pair.2 then tryTwoHopRoute env s pair.1 pair.2 tokenIn tokenOut amount
  else .ok none

theorem tryPair_avoids {pair : ℕ × ℕ} :
    Avoids noRoute (tryPair env s tokenIn tokenOut amount pair) := by
  unfold tryPair
  split
  · exact tryTwoHopRoute_avoids
  · exact avoids_ok _

theorem better_eq (best : Option Route × ℤ) (candidate : Option Route) :
    better best candidate = Search.keep Route.amountOut best candidate := by
  cases candidate <;> rfl

theorem bestDirect_eq (ids : List ℕ) (best : Option Route × ℤ) :
    bestDirect env s tokenIn tokenOut amount ids best =
      Search.scan Route.amountOut (fun id => tryDirectRoute env s id tokenIn tokenOut amount)
        ids best := by
  induction ids generalizing best with
  | nil => rfl
  | cons id rest ih =>
    refine bind_congr_ok fun candidate _ => ?_
    rw [← better_eq]
    exact ih (better best candidate)

theorem bestTwoHop_eq (pairs : List (ℕ × ℕ)) (best : Option Route × ℤ) :
    bestTwoHop env s tokenIn tokenOut amount pairs best =
      Search.scan Route.amountOut (tryPair env s tokenIn tokenOut amount) pairs best := by
  induction pairs generalizing best with
  | nil => rfl
  | cons pair rest ih =>
    obtain ⟨id₁, id₂⟩ := pair
    rw [bestTwoHop, Search.scan, tryPair]
    split
    · refine bind_congr_ok fun candidate _ => ?_
      rw [← better_eq]
      exact ih (better best candidate)
    · exact ih best

/-- A search that looked everywhere is two scans, over the pools and over the pairs. -/
theorem findBestRoute_scans {maxHops : ℕ}
    (h : Searched (findBestRoute env tokenIn tokenOut amount maxHops s)) :
    tokenIn ≠ tokenOut ∧ maxHops ≠ 0 ∧ ∃ breaker direct best,
      Search.scan Route.amountOut
        (fun id => tryDirectRoute env { s with circuitBreakerState := breaker } id tokenIn tokenOut
          amount) (List.range s.poolCounter) (none, 0) = .ok direct ∧
      Search.scan Route.amountOut
        (tryPair env { s with circuitBreakerState := breaker } tokenIn tokenOut amount)
        (if maxHops ≥ 2 then List.range s.poolCounter ×ˢ List.range s.poolCounter else [])
        direct = .ok best ∧
      findBestRoute env tokenIn tokenOut amount maxHops s =
        (expect best.1 "No valid route found" >>= fun route =>
          .ok (route, { s with circuitBreakerState := breaker })) := by
  unfold findBestRoute at h ⊢
  obtain ⟨_, -, heq⟩ := h.bind (panicIf_avoids (by decide))
  rw [heq] at h ⊢
  obtain ⟨_, hne, heq⟩ := h.bind (panicIf_avoids (by decide))
  rw [heq] at h ⊢
  obtain ⟨_, hhops, heq⟩ := h.bind (panicIf_avoids (by decide))
  rw [heq] at h ⊢
  obtain ⟨s₁, hs₁, heq⟩ := h.bind (checkTradingAllowed_avoids (by decide) (by decide))
  rw [heq] at h ⊢
  obtain ⟨breaker, rfl⟩ := checkTradingAllowed_ok hs₁
  simp only [bestDirect_eq, bestTwoHop_eq] at h ⊢
  obtain ⟨direct, hdirect, heq⟩ := h.bind (Search.scan_avoids fun _ _ => tryDirectRoute_avoids)
  rw [heq] at h ⊢
  obtain ⟨best, hbest, heq⟩ := h.bind (Search.scan_avoids fun _ _ => tryPair_avoids)
  rw [heq]
  have hfew := panicIf_ok hhops
  exact ⟨panicIf_ok hne, fun h0 => hfew (.inl h0), breaker, direct, best, hdirect, hbest, rfl⟩

section Search

variable {maxHops : ℕ} {direct best : Option Route × ℤ}

/-- No route of one or two hops is better than what both scans found. -/
theorem scans_upper (hw : WellFormed s) (hne : tokenIn ≠ tokenOut)
    (hdirect : Search.scan Route.amountOut
      (fun id => tryDirectRoute env s id tokenIn tokenOut amount) (List.range s.poolCounter)
      (none, 0) = .ok direct)
    (hpairs : Search.scan Route.amountOut (tryPair env s tokenIn tokenOut amount)
      (if maxHops ≥ 2 then List.range s.poolCounter ×ˢ List.range s.poolCounter else [])
      direct = .ok best) {ids : List ℕ}
    (hoffer : Offer s.pool maxHops tokenIn tokenOut amount ids out) (hfew : ids.length ≤ 2) :
    out ≤ best.2 := by
  have hlow : direct.2 ≤ best.2 := Search.scan_mono hpairs
  have hzero : 0 ≤ direct.2 := Search.scan_mono hdirect
  rcases le_or_gt out 0 with hnone | hpos
  · omega
  have hshort := hoffer.short
  have hdistinct := hoffer.distinct
  cases hoffer.path with
  | done => exact absurd rfl hne
  | @hop id _ pool aToB _ _ _ got _ stored sold quote rest =>
    subst sold
    obtain ⟨-, hlt, hformed⟩ := hw.pools id pool stored
    cases rest with
    | done =>
      obtain ⟨proposal, hproposal, hle⟩ :=
        Search.scan_upper hdirect id (List.mem_range.mpr hlt)
      have hsome := tryDirectRoute_sells hformed.distinct ⟨stored, hpos, quote⟩ hproposal
      exact (hle _ hsome).trans hlow
    | @hop id₂ _ pool₂ aToB₂ _ _ _ got₂ _ stored₂ sold₂ quote₂ rest =>
      cases rest with
      | hop => simp at hfew
      | done =>
        obtain ⟨-, hlt₂, hformed₂⟩ := hw.pools id₂ pool₂ stored₂
        have hcap₂ := hformed₂.capped
        unfold maxFeeBps at hcap₂
        have hgot : 0 < got := (getAmountOut_ok (by omega) quote₂ hpos).1
        rw [if_pos (show maxHops ≥ 2 from hshort)] at hpairs
        obtain ⟨proposal, hproposal, hle⟩ := Search.scan_upper hpairs (id, id₂)
          (List.pair_mem_product.mpr ⟨List.mem_range.mpr hlt, List.mem_range.mpr hlt₂⟩)
        have hother : id ≠ id₂ := by
          rintro rfl
          simp at hdistinct
        rw [tryPair, if_pos hother] at hproposal
        obtain ⟨route, hroute, heq⟩ := tryTwoHopRoute_sells hformed.distinct hformed₂.distinct
          ⟨stored, hgot, quote⟩ sold₂ ⟨stored₂, hpos, quote₂⟩ hproposal
        rw [← heq]
        exact hle route hroute

/-- What both scans found is nothing, or a route of one or two hops. -/
theorem scans_attained (hhops : maxHops ≠ 0)
    (hdirect : Search.scan Route.amountOut
      (fun id => tryDirectRoute env s id tokenIn tokenOut amount) (List.range s.poolCounter)
      (none, 0) = .ok direct)
    (hpairs : Search.scan Route.amountOut (tryPair env s tokenIn tokenOut amount)
      (if maxHops ≥ 2 then List.range s.poolCounter ×ˢ List.range s.poolCounter else [])
      direct = .ok best) :
    best = (none, 0) ∨ ∃ route ids, best = (some route, route.amountOut) ∧ 0 < route.amountOut ∧
      ids.length ≤ 2 ∧ Offer s.pool maxHops tokenIn tokenOut amount ids route.amountOut := by
  rcases Search.scan_attained hpairs with rfl | ⟨⟨id₁, id₂⟩, hmem, route, hroute, rfl⟩
  · rcases Search.scan_attained hdirect with rfl | ⟨id, -, route, hroute, rfl⟩
    · exact .inl rfl
    · obtain ⟨pool, aToB, rfl, rfl, hsells, -⟩ := tryDirectRoute_some hroute
      exact .inr ⟨route, [id], rfl, hsells.positive, by simp, List.nodup_singleton id,
        Nat.one_le_iff_ne_zero.mpr hhops, hsells.path⟩
  · have htwo : maxHops ≥ 2 := by
      by_contra hone
      rw [if_neg hone] at hmem
      exact absurd hmem List.not_mem_nil
    unfold tryPair at hroute
    split at hroute
    · rename_i hother
      obtain ⟨token, first, second, fees, hfirst, hsecond, rfl⟩ := tryTwoHopRoute_some hroute
      obtain ⟨pool₁, aToB₁, rfl, rfl, hsells₁, -⟩ := tryDirectRoute_some hfirst
      obtain ⟨pool₂, aToB₂, hbetween, rfl, hsells₂, -⟩ := tryDirectRoute_some hsecond
      refine .inr ⟨_, [id₁, id₂], rfl, hsells₂.positive, by simp, by simpa using hother, htwo, ?_⟩
      refine .hop aToB₁ hsells₁.stored rfl hsells₁.quote ?_
      exact .hop aToB₂ hsells₂.stored hbetween hsells₂.quote (.done _ _)
    · cases hroute

end Search

/-- The outcome of a search says what the best of all routes gives. -/
structure FindsBest (pools : Store ℕ Pool) (maxHops : ℕ) (tokenIn tokenOut : Address) (amount : ℤ)
    (result : Result (Route × State τ)) : Prop where
  greatest : ∀ r, result = .ok r →
    IsGreatest {out | ∃ ids, Offer pools maxHops tokenIn tokenOut amount ids out} r.1.amountOut
  nothing : result = .error noRoute →
    ∀ ids out, Offer pools maxHops tokenIn tokenOut amount ids out → out ≤ 0

/-- Every longer route that gives something is matched by a route of one or two hops. -/
def ShortRoutesSuffice (pools : Store ℕ Pool) (maxHops : ℕ) (tokenIn tokenOut : Address)
    (amount : ℤ) : Prop :=
  ∀ ids out, Offer pools maxHops tokenIn tokenOut amount ids out → 2 < ids.length → 0 < out →
    ∃ ids' out', Offer pools maxHops tokenIn tokenOut amount ids' out' ∧ ids'.length ≤ 2 ∧
      out ≤ out'

/-- A search that looks everywhere finds the best of all routes exactly if no route of more than
two hops is better than those of one and two. -/
theorem findBestRoute_best_iff {maxHops : ℕ} (hs : Reachable tok self s)
    (hsearched : Searched (findBestRoute env tokenIn tokenOut amount maxHops s)) :
    FindsBest s.pool maxHops tokenIn tokenOut amount
      (findBestRoute env tokenIn tokenOut amount maxHops s) ↔
    ShortRoutesSuffice s.pool maxHops tokenIn tokenOut amount := by
  obtain ⟨hne, hhops, breaker, direct, best, hdirect, hpairs, heq⟩ :=
    findBestRoute_scans hsearched
  have hw := hs.wellFormed.frame breaker s.userPosition s.reentrancyLock
  have hupper : ∀ {ids out}, Offer s.pool maxHops tokenIn tokenOut amount ids out →
      ids.length ≤ 2 → out ≤ best.2 := fun hoffer hfew =>
    scans_upper hw hne hdirect hpairs hoffer hfew
  rw [heq]
  rcases scans_attained hhops hdirect hpairs with hbest | ⟨route, ids, hbest, hpos, hfew, hoffer⟩
  · rw [hbest] at hupper ⊢
    constructor
    · intro hfinds ids out hoffer _ hout
      exact absurd hout (not_lt.mpr (hfinds.nothing rfl ids out hoffer))
    · intro hsuffice
      refine ⟨fun r hr => absurd hr (by simp [expect, bind, Except.bind]), fun _ ids out hoffer => ?_⟩
      by_contra hout
      rcases le_or_gt ids.length 2 with hfew | hlong
      · exact hout (hupper hoffer hfew)
      · obtain ⟨ids', out', hoffer', hfew, hle⟩ := hsuffice ids out hoffer hlong (not_le.mp hout)
        exact hout (hle.trans (hupper hoffer' hfew))
  · rw [hbest] at hupper ⊢
    constructor
    · intro hfinds ids' out hoffer' _ _
      exact ⟨ids, _, hoffer, hfew, (hfinds.greatest _ rfl).2 ⟨ids', hoffer'⟩⟩
    · intro hsuffice
      refine ⟨?_, fun h => absurd h (by simp [expect, bind, Except.bind])⟩
      intro r hr
      cases hr
      refine ⟨⟨ids, hoffer⟩, ?_⟩
      rintro out ⟨ids', hoffer'⟩
      rcases le_or_gt out 0 with hnone | hout
      · exact hnone.trans hpos.le
      · rcases le_or_gt ids'.length 2 with hfew' | hlong
        · exact hupper hoffer' hfew'
        · obtain ⟨ids'', out'', hoffer'', hfew'', hle⟩ := hsuffice ids' out hoffer' hlong hout
          exact hle.trans (hupper hoffer'' hfew'')

end Routes

namespace Sample

def eurc : Address := ⟨6⟩

def btc : Address := ⟨7⟩

/-- Three pools in a row, each of which sells what the one before gives. -/
def chain : Result (State Balances) :=
  execute (next asset contract) (List.map (.call env) [
    .initializeContract admin none,
    .createPool admin xlm usdc 30,
    .createPool admin usdc eurc 30,
    .createPool admin eurc btc 30,
    .addLiquidity alice 0 10000 10000,
    .addLiquidity alice 1 10000 10000,
    .addLiquidity alice 2 10000 10000])
    (deployed (Balances.issue [(xlm, alice, 10 ^ 6), (usdc, alice, 10 ^ 6), (eurc, alice, 10 ^ 6),
      (btc, alice, 10 ^ 6), (xlm, bob, 10 ^ 6)]))

theorem chain_reachable {s : State Balances} (h : chain = .ok s) : Reachable asset contract s :=
  ⟨_, execute_steps _ (fun _ _ _ => trivial) h⟩

end Sample

open Sample in
/-- With two hops there is no longer route to miss. -/
theorem findBestRoute_best_iff_two_hops :
    ∃ s r, chain = .ok s ∧ findBestRoute env xlm eurc 1000 2 s = .ok r ∧ r.1.amountOut = 828 ∧
      IsGreatest {out | ∃ ids, Offer s.pool 2 xlm eurc 1000 ids out} r.1.amountOut := by
  have h : After (fun s => After (fun r => r.1.amountOut = 828)
      (findBestRoute env xlm eurc 1000 2 s)) chain := by
    decide +kernel
  obtain ⟨s, hs, hfound⟩ := h.exists_ok
  obtain ⟨r, hr, hout⟩ := hfound.exists_ok
  have hsearched : Searched (findBestRoute env xlm eurc 1000 2 s) := by
    intro e he
    rw [hr] at he
    cases he
  have hbest := (findBestRoute_best_iff (chain_reachable hs) hsearched).mpr
    fun ids out hoffer hlong _ => absurd hoffer.short (not_le.mpr hlong)
  exact ⟨s, r, hs, hr, hout, hbest.greatest r hr⟩

open Sample in
/-- With three hops the only route is the one along the chain, and the search denies it. -/
theorem findBestRoute_misses_chain :
    ∃ s, chain = .ok s ∧ findBestRoute env xlm btc 1000 3 s = .error noRoute ∧
      Offer s.pool 3 xlm btc 1000 [0, 1, 2] 762 ∧
      ¬ FindsBest s.pool 3 xlm btc 1000 (findBestRoute env xlm btc 1000 3 s) := by
  have h : After (fun s => (findBestRoute env xlm btc 1000 3 s).map (fun _ => ()) = .error noRoute ∧
      ∃ pool₀ ∈ s.pool.get? 0, ∃ pool₁ ∈ s.pool.get? 1, ∃ pool₂ ∈ s.pool.get? 2,
        (pool₀.tokenA = xlm ∧ pool₀.tokenB = pool₁.tokenA ∧ pool₁.tokenB = pool₂.tokenA ∧
          pool₂.tokenB = btc) ∧
        getAmountOut 1000 pool₀.reserveA pool₀.reserveB pool₀.feeBps = .ok 906 ∧
        getAmountOut 906 pool₁.reserveA pool₁.reserveB pool₁.feeBps = .ok 828 ∧
        getAmountOut 828 pool₂.reserveA pool₂.reserveB pool₂.feeBps = .ok 762) chain := by
    decide +kernel
  obtain ⟨s, hs, hnone, pool₀, hk₀, pool₁, hk₁, pool₂, hk₂, ⟨hfirst, h₀₁, h₁₂, hlast⟩, hq₀, hq₁,
    hq₂⟩ := h.exists_ok
  have hnone' : findBestRoute env xlm btc 1000 3 s = .error noRoute := map_error.mp hnone
  have hpath : Path s.pool [0, 1, 2] xlm btc 1000 762 := by
    refine .hop true hk₀ hfirst.symm hq₀ (.hop true hk₁ h₀₁ hq₁ (.hop true hk₂ h₁₂ hq₂ ?_))
    rw [← hlast]
    exact .done _ _
  have hoffer : Offer s.pool 3 xlm btc 1000 [0, 1, 2] 762 := ⟨by decide, le_rfl, hpath⟩
  refine ⟨s, hs, hnone', hoffer, fun hbest => ?_⟩
  exact absurd (hbest.nothing hnone' _ _ hoffer) (by decide)

end Amm
