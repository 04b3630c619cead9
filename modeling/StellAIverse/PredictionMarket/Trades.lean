import StellAIverse.PredictionMarket.Cpmm

/-!
# The product of the reserves

One trade, on a pool with tokens on both sides. Buys never lower the product of its
reserves. A sale lowers it if no fee is due and the new collateral reserve is rounded. What a
buy leaves in the pool then bounds what any number of smaller buys can take.
-/

namespace PredictionMarket

open Soroban

variable {τ : Type} {tok : Token τ} {self : Address} {s s' : State τ} {a : Action τ}

/-- Every market charges what `create_market` admits. -/
def FeesAdmitted (s : State τ) : Prop :=
  ∀ m market, s.market.get? m = some market → market.tradingFeeBps ≤ 500

/-- No pool with tokens on both sides has a smaller product of reserves. -/
def KeepsProducts (s s' : State τ) : Prop :=
  ∀ k pool pool', s.outcomePool.get? k = some pool → 0 < pool.collateralReserve →
    0 < pool.outcomeReserve → s'.outcomePool.get? k = some pool' →
    pool.collateralReserve * pool.outcomeReserve ≤ pool'.collateralReserve * pool'.outcomeReserve

/-- A sale is charged a fee, or the collateral reserve it leaves is not rounded. -/
def Action.Compensated (s : State τ) : Action τ → Prop
  | .call _ (.sellOutcome _ m i amount _) =>
    ∀ market ∈ s.market.get? m, ∀ pool ∈ s.outcomePool.get? (m, i),
      1 ≤ market.tradingFeeBps ∨
        pool.outcomeReserve + amount ∣ pool.collateralReserve * pool.outcomeReserve
  | _ => True

/-- Without a fee the seller gets everything above the rounded reserve. -/
theorem soldFor_free {x y amount : ℤ} : soldFor x y amount 0 = x - reserveAfterSale x y amount := by
  simp [soldFor, netCollateral]

theorem sell_product_iff {x y amount : ℤ} {feeBps : ℕ} (hx : 0 < x) (hy : 0 < y) (ha : 0 < amount)
    (hfee : feeBps ≤ 10000) :
    x * y ≤ (x - soldFor x y amount feeBps) * (y + amount) ↔
      1 ≤ feeBps ∨ y + amount ∣ x * y := by
  refine ⟨fun hprod => ?_, sell_product hx hy ha hfee⟩
  rcases Nat.eq_zero_or_pos feeBps with rfl | hpos
  · rw [soldFor_free, sub_sub_cancel] at hprod
    have hexact := (reserveAfterSale_mul_le hx hy ha).antisymm hprod
    exact .inr ⟨_, by rw [← hexact, mul_comm]⟩
  · exact .inl hpos

/-- A write to one pool keeps the products if it keeps the product of this pool. -/
theorem keepsProducts_set {m i : ℕ} {pool new : OutcomePool}
    (hpool : s.outcomePool.get? (m, i) = some pool) (hc : 0 < pool.collateralReserve)
    (ho : 0 < pool.outcomeReserve) (hs' : s'.outcomePool = s.outcomePool.set (m, i) new) :
    KeepsProducts s s' ↔
      pool.collateralReserve * pool.outcomeReserve ≤
        new.collateralReserve * new.outcomeReserve := by
  constructor
  · intro hkeeps
    exact hkeeps (m, i) pool new hpool hc ho (by rw [hs', Store.get?_set_self])
  · intro hprod k old new' hold hc' ho' hnew
    rw [hs', Store.get?_set] at hnew
    split at hnew
    · rename_i hk
      subst hk
      cases hnew
      cases hpool.symm.trans hold
      exact hprod
    · cases hold.symm.trans hnew
      exact le_rfl

/-- A trade keeps the products exactly if it is compensated. -/
theorem keepsProducts_iff (hfees : FeesAdmitted s) (ha : a.OnCurve) (h : Effect tok self s a s') :
    KeepsProducts s s' ↔ a.Compensated s := by
  cases h with
  | transfers =>
    refine ⟨fun _ => trivial, fun _ k pool pool' hold _ _ hnew => ?_⟩
    cases hold.symm.trans hnew
    exact le_rfl
  | buyOutcome _ buyer m i amount _ net out market pool _ _ stored _ _ pooled positive
      net_eq net_pos out_eq out_pos =>
    rw [keepsProducts_set pooled positive.2.1 positive.2.2 rfl]
    have hprod := buy_product positive.2.1 positive.2.2 net_pos
    rw [← out_eq] at hprod
    exact ⟨fun _ => trivial, fun _ => hprod⟩
  | sellOutcome _ seller m i amount _ out market pool _ _ stored _ _ pooled positive covered
      out_eq out_pos =>
    obtain ⟨hamount, hc, hroom⟩ := positive
    have ho : 0 < pool.outcomeReserve := hamount.trans hroom
    have hmax : market.tradingFeeBps ≤ 10000 := (hfees m market stored).trans (by omega)
    rw [keepsProducts_set pooled hc ho rfl]
    simp only [out_eq, sell_product_iff hc ho hamount hmax, Action.Compensated, stored, pooled,
      Option.mem_def, Option.some.injEq, forall_eq']
  | _ => exact False.elim ha

/-- The pool has tokens on both sides, whose product is at least `k`. -/
structure Above (k : ℤ) (s : State τ) (id : ℕ × ℕ) (pool : OutcomePool) : Prop where
  pooled : s.outcomePool.get? id = some pool
  collateral : 0 < pool.collateralReserve
  outcome : 0 < pool.outcomeReserve
  product : k ≤ pool.collateralReserve * pool.outcomeReserve

/-- A pool that is written to or not. -/
theorem Above.set {k : ℤ} {id : ℕ × ℕ} {m i : ℕ} {pool old new : OutcomePool}
    (h : Above k s id pool) (hold : s.outcomePool.get? (m, i) = some old)
    (hc : 0 < new.collateralReserve) (ho : 0 < new.outcomeReserve)
    (hprod : old.collateralReserve * old.outcomeReserve ≤
      new.collateralReserve * new.outcomeReserve)
    (hs' : s'.outcomePool = s.outcomePool.set (m, i) new) : ∃ pool', Above k s' id pool' := by
  by_cases hid : id = (m, i)
  · subst hid
    cases hold.symm.trans h.pooled
    exact ⟨new, by rw [hs', Store.get?_set_self], hc, ho, h.product.trans hprod⟩
  · exact ⟨pool, by rw [hs', Store.get?_set_ne _ _ hid]; exact h.pooled, h.collateral, h.outcome,
      h.product⟩

theorem above_step {k : ℤ} {id : ℕ × ℕ} {pool : OutcomePool} (hfees : FeesAdmitted s)
    (ha : a.OnCurve) (hcomp : a.Compensated s) (h : Effect tok self s a s')
    (habove : Above k s id pool) : FeesAdmitted s' ∧ ∃ pool', Above k s' id pool' := by
  cases h with
  | transfers =>
    exact ⟨hfees, pool, habove.pooled, habove.collateral, habove.outcome, habove.product⟩
  | buyOutcome _ buyer m i amount _ net out market old _ _ stored _ _ pooled positive
      net_eq net_pos out_eq out_pos =>
    obtain ⟨-, hc, ho⟩ := positive
    have hlt := bought_lt hc ho net_pos
    have hprod := buy_product hc ho net_pos
    rw [← out_eq] at hlt hprod
    refine ⟨hfees, habove.set pooled ?_ ?_ hprod rfl⟩
    · exact add_pos hc net_pos
    · exact sub_pos.mpr hlt
  | sellOutcome _ seller m i amount _ out market old _ _ stored _ _ pooled positive covered
      out_eq out_pos =>
    obtain ⟨hamount, hc, hroom⟩ := positive
    have ho : 0 < old.outcomeReserve := hamount.trans hroom
    have hmax : market.tradingFeeBps ≤ 10000 := (hfees m market stored).trans (by omega)
    have hprod := sell_product hc ho hamount hmax (hcomp market stored old pooled)
    rw [← out_eq] at hprod
    have ho' : 0 < old.outcomeReserve + amount := add_pos ho hamount
    have hproduct : 0 < (old.collateralReserve - out) * (old.outcomeReserve + amount) :=
      (mul_pos hc ho).trans_le hprod
    exact ⟨hfees, habove.set pooled (pos_of_mul_pos_left hproduct ho'.le) ho' hprod rfl⟩
  | _ => exact False.elim ha

theorem above_run {k : ℤ} {id : ℕ × ℕ} {pool : OutcomePool} (hfees : FeesAdmitted s)
    (hrun : Steps (next tok self) (fun s a => a.OnCurve ∧ a.Compensated s) s s')
    (habove : Above k s id pool) : ∃ pool', Above k s' id pool' := by
  have hall : FeesAdmitted s' ∧ ∃ pool', Above k s' id pool' := by
    refine hrun.preserves (P := fun s => FeesAdmitted s ∧ ∃ pool', Above k s id pool') ?_
      ⟨hfees, pool, habove⟩
    rintro s a s' ⟨ha, hcomp⟩ hn ⟨hfees, pool, habove⟩
    exact above_step hfees ha hcomp (next_effect hn) habove
  exact hall.2

/-- A trade keeps the product of the reserves exactly if it is a buy, or a sale that is
charged a fee or not rounded. Trades of this kind that bring the outcome reserve back to where
it was do not take collateral from the pool. -/
theorem product_kept (hfees : FeesAdmitted s) :
    (∀ a s', a.OnCurve → next tok self a s = .ok s' →
      (KeepsProducts s s' ↔ a.Compensated s)) ∧
    ∀ s' id pool pool',
      Steps (next tok self) (fun s a => a.OnCurve ∧ a.Compensated s) s s' →
      s.outcomePool.get? id = some pool → 0 < pool.collateralReserve → 0 < pool.outcomeReserve →
      s'.outcomePool.get? id = some pool' →
      pool.collateralReserve * pool.outcomeReserve ≤
        pool'.collateralReserve * pool'.outcomeReserve ∧
      (pool'.outcomeReserve = pool.outcomeReserve →
        pool.collateralReserve ≤ pool'.collateralReserve) := by
  refine ⟨fun a s' ha hn => keepsProducts_iff hfees ha (next_effect hn), ?_⟩
  intro s' id pool pool' hrun hpool hc ho hpool'
  obtain ⟨last, hlast⟩ := above_run hfees hrun ⟨hpool, hc, ho, le_rfl⟩
  cases hlast.pooled.symm.trans hpool'
  refine ⟨hlast.product, fun hback => ?_⟩
  have hprod := hlast.product
  rw [hback] at hprod
  exact le_of_mul_le_mul_right hprod ho

structure Buy where
  env : Env
  buyer : Address
  collateralIn : ℤ
  minOutcomeOut : ℤ

/-- The outcome tokens that buys bring one after the other, where a buy that traps brings none,
and the state after them. -/
def buyEach (tok : Token τ) (self : Address) (m i : ℕ) : List Buy → State τ → ℤ × State τ
  | [], s => (0, s)
  | b :: rest, s =>
    match buyOutcome tok self b.env b.buyer m i b.collateralIn b.minOutcomeOut s with
    | .ok (out, s) => (out + (buyEach tok self m i rest s).1, (buyEach tok self m i rest s).2)
    | .error _ => buyEach tok self m i rest s

def totalIn (buys : List Buy) : ℤ := (buys.map (·.collateralIn)).sum

/-- Net collateral `added` and outcome tokens `taken` since the reserves were `x` and `y`. -/
structure Moved (s : State τ) (m i : ℕ) (feeBps : ℕ) (x y added taken : ℤ) : Prop where
  charged : ∃ market, s.market.get? m = some market ∧ market.tradingFeeBps = feeBps
  pooled : ∃ pool, s.outcomePool.get? (m, i) = some pool ∧
    pool.collateralReserve = x + added ∧ pool.outcomeReserve = y - taken
  added_nonneg : 0 ≤ added
  outcome : 0 < y - taken
  product : x * y ≤ (x + added) * (y - taken)

theorem netCollateral_add {a b : ℤ} {feeBps : ℕ} (ha : 0 ≤ a) (hb : 0 ≤ b)
    (hfee : feeBps ≤ 10000) :
    netCollateral a feeBps + netCollateral b feeBps ≤ netCollateral (a + b) feeBps := by
  have hfactor : (0 : ℤ) ≤ 10000 - feeBps := by omega
  unfold netCollateral
  rw [add_mul]
  exact I128.tdiv_add_le (mul_nonneg ha hfactor) (mul_nonneg hb hfactor) (by omega)

/-- A completed buy brings what is quoted, and moves the reserves by the net collateral and by
what it brings. -/
theorem buyOutcome_ok {env : Env} {buyer : Address} {m i : ℕ} {amount least : ℤ}
    {r : ℤ × State τ} (h : buyOutcome tok self env buyer m i amount least s = .ok r) :
    ∃ market pool, s.market.get? m = some market ∧ s.outcomePool.get? (m, i) = some pool ∧
      0 < amount ∧ calculateBuyAmount amount pool.collateralReserve pool.outcomeReserve
        market.tradingFeeBps = .ok r.1 ∧ 0 < r.1 ∧ r.2.market = s.market ∧
      r.2.outcomePool = s.outcomePool.set (m, i) { pool with
        collateralReserve :=
          pool.collateralReserve + netCollateral amount market.tradingFeeBps
        outcomeReserve := pool.outcomeReserve - r.1 } := by
  unfold buyOutcome at h
  rw [requireAuth_bind] at h
  obtain ⟨⟨market, hm, -⟩, h⟩ := assertTradingActive_bind h.2
  simp only [panicIf_bind, unwrap_bind, expect_bind, getMarket, hm, Option.some.injEq,
    exists_eq_left'] at h
  obtain ⟨hamount, -, pool, hp, h⟩ := h
  obtain ⟨out, hout, h⟩ := bind_ok.mp h
  simp only [panicIf_bind, I128.add_bind, I128.sub_bind, I128.mul_bind, I128.div_bind,
    Token.pay_bind] at h
  obtain ⟨hpos, -, -, -, tokens, -, -, -, -, -, -, -, -, h⟩ := h
  obtain ⟨s₁, hs₁, h⟩ := bind_ok.mp h
  obtain ⟨positions, rfl⟩ := updatePosition_ok hs₁
  rw [I128.add_bind] at h
  cases h.2
  exact ⟨market, pool, hm, hp, not_le.mp hamount, hout, not_le.mp hpos, rfl, rfl⟩

theorem Moved.buy {env : Env} {buyer : Address} {m i : ℕ} {amount least : ℤ} {feeBps : ℕ}
    {x y added taken : ℤ} {r : ℤ × State τ} (h : Moved s m i feeBps x y added taken)
    (hr : buyOutcome tok self env buyer m i amount least s = .ok r) :
    Moved r.2 m i feeBps x y (added + netCollateral amount feeBps) (taken + r.1) := by
  obtain ⟨market, pool, hm, hp, -, hquote, hout, hmarket, hpool⟩ := buyOutcome_ok hr
  obtain ⟨market', hm', rfl⟩ := h.charged
  cases hm.symm.trans hm'
  obtain ⟨pool', hp', hc, ho⟩ := h.pooled
  cases hp.symm.trans hp'
  obtain ⟨hcpos, hopos, hnet, hbought⟩ := calculateBuyAmount_ok hquote hout
  have hlt := bought_lt hcpos hopos hnet
  have hprod := buy_product hcpos hopos hnet
  rw [← hbought, ho] at hlt
  rw [← hbought, hc, ho] at hprod
  refine ⟨⟨market, hmarket ▸ hm, rfl⟩, ⟨_, by rw [hpool, Store.get?_set_self], ?_, ?_⟩, ?_, ?_, ?_⟩
  · rw [hc, add_assoc]
  · rw [ho, sub_sub]
  · exact add_nonneg h.added_nonneg hnet.le
  · omega
  · rw [← add_assoc, ← sub_sub]
    exact h.product.trans hprod

/-- What the buys have added is at most the net of all they were asked to pay, charged once. -/
theorem moved_buyEach {m i : ℕ} {feeBps : ℕ} {x y : ℤ} {buys : List Buy}
    (hfee : feeBps ≤ 10000) (hbuys : ∀ b ∈ buys, 0 < b.collateralIn) {s : State τ}
    {added taken paid : ℤ} (h : Moved s m i feeBps x y added taken) (hpaid : 0 ≤ paid)
    (hadded : added ≤ netCollateral paid feeBps) :
    ∃ added', added' ≤ netCollateral (paid + totalIn buys) feeBps ∧
      Moved (buyEach tok self m i buys s).2 m i feeBps x y added'
        (taken + (buyEach tok self m i buys s).1) := by
  induction buys generalizing s added taken paid with
  | nil => exact ⟨added, by simpa [totalIn] using hadded, by simpa [buyEach] using h⟩
  | cons b rest ih =>
    have hb := hbuys b List.mem_cons_self
    have hrest := fun b' hb' => hbuys b' (List.mem_cons_of_mem b hb')
    have htotal : paid + totalIn (b :: rest) = paid + b.collateralIn + totalIn rest := by
      rw [totalIn, List.map_cons, List.sum_cons, ← add_assoc]
      rfl
    have hsplit := netCollateral_add hpaid hb.le hfee
    have hnet := netCollateral_nonneg hb.le hfee
    rw [htotal]
    cases hr : buyOutcome tok self b.env b.buyer m i b.collateralIn b.minOutcomeOut s with
    | error e =>
      simp only [buyEach, hr]
      exact ih hrest h (by omega) (by omega)
    | ok r =>
      obtain ⟨out, s₁⟩ := r
      simp only [buyEach, hr]
      rw [← add_assoc]
      exact ih hrest (h.buy hr) (by omega) (by omega)

/-- What has been taken from a pool is what the curve gives for what has been added. -/
theorem Moved.taken_le {m i : ℕ} {feeBps : ℕ} {x y added taken net : ℤ} (hx : 0 < x) (hy : 0 < y)
    (h : Moved s m i feeBps x y added taken) (hnet : added ≤ net) : taken ≤ bought x y net := by
  have hadded := h.added_nonneg
  have hout := h.outcome
  have hprod := h.product
  have hmore : x * y ≤ (x + net) * (y - taken) := by
    refine hprod.trans (mul_le_mul_of_nonneg_right ?_ hout.le)
    omega
  have hceil := I128.lt_tdiv_add_one_mul (a := y * net) (b := x + net)
    (mul_nonneg hy.le (hadded.trans hnet)) (by omega)
  change y * net < (bought x y net + 1) * (x + net) at hceil
  have hlt : taken * (x + net) < (bought x y net + 1) * (x + net) := by linarith
  have := lt_of_mul_lt_mul_right hlt (by omega)
  omega

/-- Buys one after the other, of whomever and whenever, bring no more outcome tokens than one
buy of all their collateral. -/
theorem split_buy {m i : ℕ} {market : Market} {pool : OutcomePool} {buys : List Buy}
    (hm : s.market.get? m = some market) (hfee : market.tradingFeeBps ≤ 500)
    (hpool : s.outcomePool.get? (m, i) = some pool) (hc : 0 < pool.collateralReserve)
    (ho : 0 < pool.outcomeReserve) (hbuys : ∀ b ∈ buys, 0 < b.collateralIn) :
    (buyEach tok self m i buys s).1 ≤ bought pool.collateralReserve pool.outcomeReserve
      (netCollateral (totalIn buys) market.tradingFeeBps) ∧
    ∀ env buyer least r, buyOutcome tok self env buyer m i (totalIn buys) least s = .ok r →
      (buyEach tok self m i buys s).1 ≤ r.1 := by
  have hmax : market.tradingFeeBps ≤ 10000 := hfee.trans (by omega)
  have htotal : 0 ≤ totalIn buys := by
    apply List.sum_nonneg
    intro amount hamount
    obtain ⟨b, hb, rfl⟩ := List.mem_map.mp hamount
    exact (hbuys b hb).le
  have hstart : Moved s m i market.tradingFeeBps pool.collateralReserve pool.outcomeReserve 0 0 :=
    ⟨⟨market, hm, rfl⟩, ⟨pool, hpool, (add_zero _).symm, (sub_zero _).symm⟩, le_rfl, by omega,
      by simp⟩
  obtain ⟨added, hadded, hmoved⟩ : ∃ added,
      added ≤ netCollateral (0 + totalIn buys) market.tradingFeeBps ∧
      Moved (buyEach tok self m i buys s).2 m i market.tradingFeeBps pool.collateralReserve
        pool.outcomeReserve added (0 + (buyEach tok self m i buys s).1) :=
    moved_buyEach hmax hbuys hstart le_rfl (netCollateral_nonneg le_rfl hmax)
  rw [zero_add] at hadded hmoved
  have hle := hmoved.taken_le hc ho hadded
  refine ⟨hle, fun env buyer least r hr => ?_⟩
  obtain ⟨market', pool', hm', hp', -, hout, -⟩ := buyOutcome_ok hr
  cases hm.symm.trans hm'
  cases hpool.symm.trans hp'
  rw [calculateBuyAmount_eq htotal hc ho hmax hout]
  exact hle

section Runs

open Sample

def reserves (s : State Balances) : Option (ℤ × ℤ) :=
  (s.outcomePool.get? (0, 1)).map fun pool => (pool.collateralReserve, pool.outcomeReserve)

theorem reserves_some {s : State Balances} {c o : ℤ} (h : reserves s = some (c, o)) :
    ∃ pool, s.outcomePool.get? (0, 1) = some pool ∧ pool.collateralReserve = c ∧
      pool.outcomeReserve = o := by
  obtain ⟨pool, hpool, hsame⟩ := Option.map_eq_some_iff.mp h
  cases hsame
  exact ⟨pool, hpool, rfl, rfl⟩

theorem Reachable.feesAdmitted {s : State τ} (hs : Reachable tok self s) : FeesAdmitted s :=
  fun _ _ hm => (hs.terms hm).fee

/-- On a market without a fee the first of two sales lowers the product of the reserves. After
the second the outcome reserve is back, and the pool has lost collateral. -/
theorem free_sales_take_collateral : ∃ s s₁ s₂ s' : State Balances,
    run [call (.createMarket alice (params 100 1000 0))] = .ok s ∧ FeesAdmitted s ∧
    next asset contract (call (.buyOutcome bob 0 1 10 0)) s = .ok s₁ ∧
    next asset contract (call (.sellOutcome bob 0 1 4 0)) s₁ = .ok s₂ ∧
    next asset contract (call (.sellOutcome bob 0 1 5 0)) s₂ = .ok s' ∧
    ¬ KeepsProducts s₁ s₂ ∧
    ∃ pool pool', s.outcomePool.get? (0, 1) = some pool ∧
      s'.outcomePool.get? (0, 1) = some pool' ∧ 0 < pool.collateralReserve ∧
      0 < pool.outcomeReserve ∧ pool'.outcomeReserve = pool.outcomeReserve ∧
      pool'.collateralReserve < pool.collateralReserve := by
  have h : After (fun s => reserves s = some (100, 100) ∧
      After (fun s₁ => reserves s₁ = some (110, 91) ∧
        After (fun s₂ => reserves s₂ = some (105, 95) ∧
          After (fun s' => reserves s' = some (99, 100))
            (next asset contract (call (.sellOutcome bob 0 1 5 0)) s₂))
          (next asset contract (call (.sellOutcome bob 0 1 4 0)) s₁))
        (next asset contract (call (.buyOutcome bob 0 1 10 0)) s))
      (run [call (.createMarket alice (params 100 1000 0))]) := by
    decide +kernel
  obtain ⟨s, hs, hpool, h⟩ := h.exists_ok
  obtain ⟨s₁, hs₁, hpool₁, h⟩ := h.exists_ok
  obtain ⟨s₂, hs₂, hpool₂, h⟩ := h.exists_ok
  obtain ⟨s', hs', hpool'⟩ := h.exists_ok
  obtain ⟨pool, hp, hc, ho⟩ := reserves_some hpool
  obtain ⟨pool₁, hp₁, hc₁, ho₁⟩ := reserves_some hpool₁
  obtain ⟨pool₂, hp₂, hc₂, ho₂⟩ := reserves_some hpool₂
  obtain ⟨pool', hp', hc', ho'⟩ := reserves_some hpool'
  refine ⟨s, s₁, s₂, s', hs, (run_reachable hs).feesAdmitted, hs₁, hs₂, hs', ?_, pool, pool', hp,
    hp', by omega, by omega, by omega, by omega⟩
  intro hkeeps
  have hprod := hkeeps (0, 1) pool₁ pool₂ hp₁ (by omega) (by omega) hp₂
  rw [hc₁, ho₁, hc₂, ho₂] at hprod
  omega

/-- The same without rounding: 25 in and 25 out. -/
theorem product_kept_there_and_back : ∃ s s' : State Balances,
    run [call (.createMarket alice (params 100 1000 0))] = .ok s ∧
    execute (next asset contract)
      [call (.buyOutcome bob 0 1 25 0), call (.sellOutcome bob 0 1 20 0)] s = .ok s' ∧
    ∃ pool pool', s.outcomePool.get? (0, 1) = some pool ∧
      s'.outcomePool.get? (0, 1) = some pool' ∧
      pool.collateralReserve ≤ pool'.collateralReserve := by
  have h : After (fun s => reserves s = some (100, 100) ∧
      After (fun s₁ => reserves s₁ = some (125, 80) ∧
        After (fun s' => reserves s' = some (100, 100))
          (next asset contract (call (.sellOutcome bob 0 1 20 0)) s₁))
        (next asset contract (call (.buyOutcome bob 0 1 25 0)) s))
      (run [call (.createMarket alice (params 100 1000 0))]) := by
    decide +kernel
  obtain ⟨s, hs, hpool, h⟩ := h.exists_ok
  obtain ⟨s₁, hs₁, hpool₁, h⟩ := h.exists_ok
  obtain ⟨s', hs', hpool'⟩ := h.exists_ok
  obtain ⟨pool, hp, hc, ho⟩ := reserves_some hpool
  obtain ⟨pool₁, hp₁, hc₁, ho₁⟩ := reserves_some hpool₁
  obtain ⟨pool', hp', hc', ho'⟩ := reserves_some hpool'
  have hbuy : (call (.buyOutcome bob 0 1 25 0)).OnCurve := trivial
  have hsell : (call (.sellOutcome bob 0 1 20 0)).OnCurve := trivial
  have heven : (call (.sellOutcome bob 0 1 20 0)).Compensated s₁ := by
    intro market _ pool hpool
    cases hp₁.symm.trans hpool
    exact .inr (by rw [hc₁, ho₁]; decide)
  have hrun : Steps (next asset contract) (fun s a => a.OnCurve ∧ a.Compensated s) s s' :=
    ((Steps.refl s).tail ⟨hbuy, trivial⟩ hs₁).tail ⟨hsell, heven⟩ hs'
  have hkept := (product_kept (run_reachable hs).feesAdmitted).2 s' (0, 1) pool pool' hrun hp
    (by omega) (by omega) hp'
  refine ⟨s, s', hs, ?_, pool, pool', hp, hp', hkept.2 (by omega)⟩
  simp only [execute, hs₁, hs', ok_bind]

/-- The buys of one collateral each bring less than the buy of both. -/
theorem split_buy_in_two : ∃ s : State Balances,
    run [call (.createMarket alice (params 100 1000 30))] = .ok s ∧
    (buyEach asset contract 0 1 [⟨env 0, bob, 40, 0⟩, ⟨env 0, bob, 40, 0⟩] s).1 ≤
      bought 100 100 (netCollateral 80 30) := by
  have h : After (fun s => reserves s = some (100, 100) ∧
      (s.market.get? 0).map (·.tradingFeeBps) = some 30)
      (run [call (.createMarket alice (params 100 1000 30))]) := by
    decide +kernel
  obtain ⟨s, hs, hpool, hmarket⟩ := h.exists_ok
  obtain ⟨pool, hp, hc, ho⟩ := reserves_some hpool
  obtain ⟨market, hm, hfee⟩ := Option.map_eq_some_iff.mp hmarket
  have hsplit : (buyEach asset contract 0 1 [⟨env 0, bob, 40, 0⟩, ⟨env 0, bob, 40, 0⟩] s).1 ≤
      bought pool.collateralReserve pool.outcomeReserve (netCollateral 80 market.tradingFeeBps) :=
    (split_buy hm (by omega) hp (by omega) (by omega) (by simp)).1
  rw [hc, ho, hfee] at hsplit
  exact ⟨s, hs, hsplit⟩

end Runs

end PredictionMarket
