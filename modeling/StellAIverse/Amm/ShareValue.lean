import StellAIverse.Amm.Pools

/-!
# The value of an LP token

The product of the reserves over the square of the supply. Trades raise the
product, withdrawals round the withdrawn amounts down, but deposits round the
minted LP tokens up: they keep the value only where the surplus on the other
side pays for the fraction of a token that was given away.
-/

namespace Amm

open Soroban

variable {τ : Type} {tok : Token τ} {self : Address} {s s' : State τ} {a : Action τ}

/-- The product of the reserves for each squared LP token did not fall. -/
def Pool.ValueKept (pool pool' : Pool) : Prop :=
  pool.reserveA * pool.reserveB * (pool'.lpTotalSupply * pool'.lpTotalSupply) ≤
    pool'.reserveA * pool'.reserveB * (pool.lpTotalSupply * pool.lpTotalSupply)

namespace Pool.ValueKept

variable {pool pool' pool'' : Pool}

theorem refl (pool : Pool) : pool.ValueKept pool := le_rfl

theorem trans (h : pool.ValueKept pool') (h' : pool'.ValueKept pool'')
    (hT : 0 < pool'.lpTotalSupply) : pool.ValueKept pool'' := by
  unfold ValueKept at *
  have hsq : 0 < pool'.lpTotalSupply * pool'.lpTotalSupply := mul_pos hT hT
  have hfirst := mul_le_mul_of_nonneg_right h (mul_self_nonneg pool''.lpTotalSupply)
  have hsecond := mul_le_mul_of_nonneg_right h' (mul_self_nonneg pool.lpTotalSupply)
  refine le_of_mul_le_mul_right ?_ hsq
  linarith

/-- At the same supply the product decides. -/
theorem of_product (hT : pool'.lpTotalSupply = pool.lpTotalSupply)
    (h : pool.reserveA * pool.reserveB ≤ pool'.reserveA * pool'.reserveB) :
    pool.ValueKept pool' := by
  unfold ValueKept
  rw [hT]
  exact mul_le_mul_of_nonneg_right h (mul_self_nonneg _)

end Pool.ValueKept

theorem FairTrade.value {pool : Pool} {aToB : Bool} {paid out : ℤ}
    (h : FairTrade (pool.reserveIn aToB) (pool.reserveOut aToB) paid out) :
    pool.ValueKept (pool.traded aToB paid out) := by
  have hproduct := h.product
  refine .of_product (by cases aToB <;> rfl) ?_
  cases aToB <;>
  · simp only [Pool.reserveIn, Pool.reserveOut, Pool.traded, Bool.false_eq_true, if_false,
      if_true] at hproduct ⊢
    linarith

/-- What one write of a stored pool does to each stored pool. -/
theorem WellFormed.get?_write (hw : WellFormed s) {id id₀ : ℕ} {pool pool₀ : Pool} (q : Pool)
    (h₀ : s.pool.get? id₀ = some pool₀) (hk : s.pool.get? id = some pool) :
    (id₀ = id ∧ pool₀ = pool ∧ (s.pool.set pool₀.poolId q).get? id = some q) ∨
      (id₀ ≠ id ∧ (s.pool.set pool₀.poolId q).get? id = some pool) := by
  rw [(hw.pools id₀ pool₀ h₀).1, Store.get?_set]
  by_cases he : id = id₀
  · subst he
    exact .inl ⟨rfl, Option.some.inj (h₀.symm.trans hk), if_pos rfl⟩
  · exact .inr ⟨Ne.symm he, by rw [if_neg he, hk]⟩

theorem trade_value {user : Address} (hw : WellFormed s) (h : Trade tok self user s s') {id : ℕ}
    {pool : Pool} (hk : s.pool.get? id = some pool) :
    ∃ pool', s'.pool.get? id = some pool' ∧ pool.ValueKept pool' ∧
      pool'.lpTotalSupply = pool.lpTotalSupply := by
  cases h with
  | mk id₀ pool₀ aToB _ amountIn out fee _ _ stored quoted skimmed =>
    obtain ⟨-, hfair⟩ := hw.fair stored quoted skimmed
    rcases hw.get?_write (pool₀.traded aToB (amountIn - fee) out) stored hk with
      ⟨rfl, rfl, hwrite⟩ | ⟨-, hsame⟩
    · exact ⟨_, hwrite, hfair.value, by cases aToB <;> rfl⟩
    · exact ⟨pool, hsame, .refl pool, rfl⟩

theorem trades_value {user : Address} (hw : WellFormed s) (h : Trades tok self user s s') {id : ℕ}
    {pool : Pool} (hk : s.pool.get? id = some pool) :
    ∃ pool', s'.pool.get? id = some pool' ∧ (0 < pool.lpTotalSupply → pool.ValueKept pool') ∧
      pool'.lpTotalSupply = pool.lpTotalSupply := by
  induction h with
  | refl => exact ⟨pool, hk, fun _ => .refl pool, rfl⟩
  | tail htrades hstep ih =>
    obtain ⟨pool₁, hk₁, hkept, hT⟩ := ih
    obtain ⟨pool₂, hk₂, hkept', hT'⟩ := trade_value (trades_wellFormed hw htrades) hstep hk₁
    exact ⟨pool₂, hk₂, fun hpos => (hkept hpos).trans hkept' (by omega), hT'.trans hT⟩

theorem withdraw_value {pool : Pool} {lp : ℤ} (hs : pool.Stocked) (h0 : 0 < lp)
    (hle : lp ≤ pool.lpTotalSupply) :
    pool.ValueKept (pool.moved (-(lp * pool.reserveA).tdiv pool.lpTotalSupply)
      (-(lp * pool.reserveB).tdiv pool.lpTotalSupply) (-lp)) := by
  obtain ⟨hA, hB, hT⟩ := hs
  have hfloorA := I128.tdiv_mul_le (mul_nonneg h0.le hA.le) hT
  have hfloorB := I128.tdiv_mul_le (mul_nonneg h0.le hB.le) hT
  unfold Pool.ValueKept
  simp only [Pool.moved]
  generalize (lp * pool.reserveA).tdiv pool.lpTotalSupply = outA at *
  generalize (lp * pool.reserveB).tdiv pool.lpTotalSupply = outB at *
  generalize pool.lpTotalSupply = T at *
  generalize pool.reserveA = A at *
  generalize pool.reserveB = B at *
  -- Each side keeps at least its share of the remaining supply.
  have hsideA : A * (T - lp) ≤ (A - outA) * T := by linarith
  have hsideB : B * (T - lp) ≤ (B - outB) * T := by linarith
  have hleft : 0 ≤ T - lp := by omega
  calc A * B * ((T + -lp) * (T + -lp)) = A * (T - lp) * (B * (T - lp)) := by ring
    _ ≤ (A - outA) * T * ((B - outB) * T) :=
        mul_le_mul hsideA hsideB (mul_nonneg hB.le hleft)
          (le_trans (mul_nonneg hA.le hleft) hsideA)
    _ = (A + -outA) * (B + -outB) * (T * T) := by ring

/-- The surplus of the `B` side pays for rounding up the share of the `A` side:
`b * A - a * B` is that surplus, and `lift (a * T) A` what the rounding adds. -/
def RoundingPaid (T A B a b : ℤ) : Prop :=
  B * lift (a * T) A * (2 * T * (A + a) + lift (a * T) A) ≤ (b * A - a * B) * (T * T) * (A + a)

instance (T A B a b : ℤ) : Decidable (RoundingPaid T A B a b) := inferInstanceAs (Decidable (_ ≤ _))

/-- The LP tokens are minted for the side with the smaller share. -/
def Pool.FairMint (pool : Pool) (a b : ℤ) : Prop :=
  if a * pool.reserveB ≤ b * pool.reserveA then
    RoundingPaid pool.lpTotalSupply pool.reserveA pool.reserveB a b
  else RoundingPaid pool.lpTotalSupply pool.reserveB pool.reserveA b a

theorem roundingPaid_iff {T A B a b m : ℤ} (hA : 0 < A) (hm : m * A = a * T + lift (a * T) A) :
    A * B * ((T + m) * (T + m)) ≤ (A + a) * (B + b) * (T * T) ↔ RoundingPaid T A B a b := by
  unfold RoundingPaid
  generalize lift (a * T) A = r at *
  -- Both sides of the value inequality times `A`, and how far they are apart.
  have hgap : A * ((A + a) * (B + b) * (T * T)) - A * (A * B * ((T + m) * (T + m))) =
      (b * A - a * B) * (T * T) * (A + a) - B * r * (2 * T * (A + a) + r) := by
    obtain rfl : r = m * A - a * T := by omega
    ring
  constructor
  · intro h
    have := mul_le_mul_of_nonneg_left h hA.le
    linarith
  · intro h
    refine le_of_mul_le_mul_left ?_ hA
    linarith

/-- Rounding up keeps the order of the two shares. -/
theorem lifted_le {T A B a b m n : ℤ} (hA : 0 < A) (hB : 0 < B) (hT : 0 < T)
    (hm : m * A = a * T + lift (a * T) A) (hn : n * B = b * T + lift (b * T) B)
    (h : a * B ≤ b * A) : m ≤ n := by
  have hlow := lift_nonneg (a := b * T) hB
  have hhigh : lift (a * T) A < A := Int.emod_lt_of_pos _ hA
  by_contra hlt
  have hstep : n * A < a * T := by nlinarith
  have hscaled := mul_lt_mul_of_pos_right hstep hB
  have hcross := mul_le_mul_of_nonneg_right h hT.le
  nlinarith

theorem lpTokensFor_ok {pool : Pool} {x y minted : ℤ} (hT : pool.lpTotalSupply ≠ 0)
    (h : lpTokensFor pool x y = .ok minted) :
    ∃ lpA lpB, minted = (if lpA < lpB then lpA else lpB) ∧
      lpA * pool.reserveA = x * pool.lpTotalSupply + lift (x * pool.lpTotalSupply) pool.reserveA ∧
      lpB * pool.reserveB = y * pool.lpTotalSupply + lift (y * pool.lpTotalSupply) pool.reserveB := by
  unfold lpTokensFor at h
  rw [if_neg hT, I128.mul_bind] at h
  obtain ⟨lpA, hlpA, h⟩ := bind_ok.mp h.2
  rw [I128.mul_bind] at h
  obtain ⟨lpB, hlpB, h⟩ := bind_ok.mp h.2
  cases h
  exact ⟨lpA, lpB, rfl, (ceilDiv_ok hlpA).2.2, (ceilDiv_ok hlpB).2.2⟩

/-- A deposit keeps the value exactly when it pays for the rounding. -/
theorem deposit_value_iff {pool : Pool} {x y minted : ℤ} (hs : pool.Stocked)
    (h : lpTokensFor pool x y = .ok minted) :
    pool.ValueKept (pool.moved x y minted) ↔ pool.FairMint x y := by
  obtain ⟨hA, hB, hT⟩ := hs
  obtain ⟨lpA, lpB, hminted, hlpA, hlpB⟩ := lpTokensFor_ok hT.ne' h
  unfold Pool.FairMint
  split
  · rename_i hsmall
    have hle := lifted_le hA hB hT hlpA hlpB hsmall
    have he : minted = lpA := by split at hminted <;> omega
    subst he
    exact roundingPaid_iff hA hlpA
  · rename_i hsmall
    have hle := lifted_le hB hA hT hlpB hlpA (by omega)
    have he : minted = lpB := by split at hminted <;> omega
    subst he
    rw [← roundingPaid_iff hB hlpB]
    unfold Pool.ValueKept
    simp only [Pool.moved]
    constructor <;> intro hv <;> linarith

/-- A deposit into the pool pays for its rounding; nothing is asked of other calls. -/
def Action.MintsFairly (s : State τ) (id : ℕ) : Action τ → Prop
  | .call _ (.addLiquidity _ id' amountA amountB) =>
    id' = id → ∀ pool, s.pool.get? id = some pool → pool.FairMint amountA amountB
  | _ => True

/-- The call takes LP tokens of `provider` out of the pool. -/
def Action.RemovesFrom (provider : Address) (id : ℕ) : Action τ → Prop
  | .call _ (.removeLiquidity provider' id' _) => provider' = provider ∧ id' = id
  | _ => False

theorem value_step (hw : WellFormed s) (h : Effect tok self s a s') {id : ℕ} {pool : Pool}
    (hk : s.pool.get? id = some pool) (hT : 0 < pool.lpTotalSupply) :
    ∃ pool', s'.pool.get? id = some pool' ∧ (pool.ValueKept pool' ↔ a.MintsFairly s id) := by
  cases h with
  | createPool =>
    refine ⟨pool, ?_, iff_of_true (.refl pool) trivial⟩
    have hlt := (hw.pools id pool hk).2.1
    simp only
    rw [Store.get?_set_ne _ _ (by omega), hk]
  | addLiquidity _ _ id₀ x y pool₀ minted _ _ stored priced =>
    rcases hw.get?_write (pool₀.moved x y minted) stored hk with ⟨rfl, rfl, hwrite⟩ | ⟨hne, hsame⟩
    · refine ⟨_, hwrite, ?_⟩
      rw [deposit_value_iff ((hw.pools _ _ hk).2.2.stocked hT) priced]
      constructor
      · intro hfair _ q hq
        obtain rfl : pool₀ = q := Option.some.inj (hk.symm.trans hq)
        exact hfair
      · intro hfair
        exact hfair rfl pool₀ hk
    · exact ⟨pool, hsame, iff_of_true (.refl pool) fun he => absurd he hne⟩
  | removeLiquidity _ provider id₀ lp pool₀ x y _ positive owned stored supplied shareA shareB =>
    have hle := owned.trans (hw.balance_le stored provider)
    rcases hw.get?_write (pool₀.moved (-x) (-y) (-lp)) stored hk with
      ⟨rfl, rfl, hwrite⟩ | ⟨-, hsame⟩
    · refine ⟨_, hwrite, iff_of_true ?_ trivial⟩
      rw [shareA, shareB]
      exact withdraw_value ((hw.pools _ _ hk).2.2.stocked hT) positive hle
    · exact ⟨pool, hsame, iff_of_true (.refl pool) trivial⟩
  | trades _ op _ s₁ breaker _ lock _ trader trades =>
    obtain ⟨pool', hk', hkept, -⟩ :=
      trades_value (hw.frame breaker s.userPosition lock) trades hk
    refine ⟨pool', hk', iff_of_true (hkept hT) ?_⟩
    cases op with
    | addLiquidity => cases trader
    | _ => trivial
  | _ => exact ⟨pool, hk, iff_of_true (.refl pool) trivial⟩

theorem trades_lpBalance {user : Address} (h : Trades tok self user s s') :
    s'.lpBalance = s.lpBalance := by
  induction h with
  | refl => rfl
  | tail _ hstep ih =>
    cases hstep
    exact ih

/-- Only the provider's own withdrawals lower what a provider holds. -/
theorem balance_step (h : Effect tok self s a s') {provider : Address} {id : ℕ}
    (ha : ¬ a.RemovesFrom provider id) :
    getLpBalance s id provider ≤ getLpBalance s' id provider := by
  unfold getLpBalance
  cases h with
  | addLiquidity _ provider₀ id₀ _ _ _ minted _ _ _ _ mints =>
    simp only
    rw [Store.amount_set_add]
    split <;> omega
  | removeLiquidity _ provider₀ id₀ =>
    simp only
    rw [Store.amount_set_add, if_neg, add_zero]
    rintro ⟨⟩
    exact ha ⟨rfl, rfl⟩
  | trades _ _ _ _ _ _ _ _ _ trades =>
    simp only
    rw [trades_lpBalance trades]
  | _ => exact le_rfl

theorem Reachable.step (hs : Reachable tok self s) (h : next tok self a s = .ok s') :
    Reachable tok self s' := by
  obtain ⟨tokens, hrun⟩ := hs
  exact ⟨tokens, hrun.tail trivial h⟩

/-- From a reachable state a call keeps the value of an LP token exactly when it is
no deposit that leaves its rounding to the other providers. Every hop of a
multi-hop swap keeps it. So, for a provider who withdraws nothing, the value stands
through any run in which deposits pay for their rounding. -/
theorem share_value_iff (hs : Reachable tok self s) :
    (∀ a s' id pool pool', next tok self a s = .ok s' → s.pool.get? id = some pool →
      0 < pool.lpTotalSupply → s'.pool.get? id = some pool' →
      (pool.ValueKept pool' ↔ a.MintsFairly s id)) ∧
    (∀ env s₀ user i hops progress r hop r' id pool pool',
      checkTradingAllowed env s = .ok s₀ →
      executeHops tok self user 0 hops progress s₀ = .ok r →
      executeHop tok self user i hop r.1 r.2 = .ok r' →
      r.2.pool.get? id = some pool → r'.2.pool.get? id = some pool' → pool.ValueKept pool') ∧
    ∀ s' provider id pool pool', 0 < getLpBalance s id provider →
      s.pool.get? id = some pool →
      Steps (next tok self) (fun s a => a.MintsFairly s id ∧ ¬ a.RemovesFrom provider id) s s' →
      s'.pool.get? id = some pool' → pool.ValueKept pool' := by
  refine ⟨?_, ?_, ?_⟩
  · intro a s' id pool pool' hn hk hT hk'
    obtain ⟨q, hq, hiff⟩ := value_step hs.wellFormed (next_effect hn) hk hT
    obtain rfl : q = pool' := Option.some.inj (hq.symm.trans hk')
    exact hiff
  · intro env s₀ user i hops progress r hop r' id pool pool' hallowed hhops hhop hk hk'
    obtain ⟨breaker, rfl⟩ := checkTradingAllowed_ok hallowed
    have hstart := hs.wellFormed.frame breaker s.userPosition s.reentrancyLock
    have hmid := trades_wellFormed hstart (executeHops_trades hhops)
    obtain ⟨q, hq, hkept, -⟩ := trade_value hmid (executeHop_trade hhop) hk
    obtain rfl : q = pool' := Option.some.inj (hq.symm.trans hk')
    exact hkept
  · intro s' provider id pool pool' hpos hk hrun hk'
    -- The provider's own tokens keep the supply positive in every state of the run.
    have hinv : Reachable tok self s' ∧ 0 < getLpBalance s' id provider ∧
        ∃ q, s'.pool.get? id = some q ∧ pool.ValueKept q := by
      refine hrun.preserves (P := fun t => Reachable tok self t ∧ 0 < getLpBalance t id provider ∧
        ∃ q, t.pool.get? id = some q ∧ pool.ValueKept q) ?_ ⟨hs, hpos, pool, hk, .refl pool⟩
      rintro t a t' ⟨hmint, hstay⟩ hn ⟨ht, hheld, q, hq, hkept⟩
      have hT := hheld.trans_le (ht.wellFormed.balance_le hq provider)
      obtain ⟨q', hq', hiff⟩ := value_step ht.wellFormed (next_effect hn) hq hT
      exact ⟨ht.step hn, hheld.trans_le (balance_step (next_effect hn) hstay), q', hq',
        hkept.trans (hiff.mpr hmint) hT⟩
    obtain ⟨-, -, q, hq, hkept⟩ := hinv
    obtain rfl : q = pool' := Option.some.inj (hq.symm.trans hk')
    exact hkept

section Runs

open Sample

/-- Bob doubles a pool in proportion, which leaves no rounding to pay for. -/
theorem share_value_even_deposit :
    ∃ s s' pool pool', run (opened 1000 1500) = .ok s ∧
      next asset contract (.call env (.addLiquidity bob 0 1000 1500)) s = .ok s' ∧
      s.pool.get? 0 = some pool ∧ s'.pool.get? 0 = some pool' ∧
      pool.lpTotalSupply = 1224 ∧ pool'.lpTotalSupply = 2448 ∧ pool.ValueKept pool' := by
  have h : After (fun s => (∃ pool ∈ s.pool.get? 0, pool.reserveA = 1000 ∧ pool.reserveB = 1500 ∧
        pool.lpTotalSupply = 1224) ∧
      After (fun s' => ∃ pool' ∈ s'.pool.get? 0, pool'.lpTotalSupply = 2448)
        (next asset contract (.call env (.addLiquidity bob 0 1000 1500)) s))
      (run (opened 1000 1500)) := by
    decide +kernel
  obtain ⟨s, hs, ⟨pool, hk, hA, hB, hT⟩, hnext⟩ := h.exists_ok
  obtain ⟨s', hs', pool', hk', hT'⟩ := hnext.exists_ok
  have hfair : (Action.call env (.addLiquidity bob 0 1000 1500)).MintsFairly s 0 := by
    intro _ q hq
    obtain rfl : pool = q := Option.some.inj (hk.symm.trans hq)
    rw [Pool.FairMint, hA, hB, hT]
    decide
  have hvalue := (share_value_iff (run_reachable hs)).1 _ s' 0 pool pool' hs' hk (by omega) hk'
  exact ⟨s, s', pool, pool', hs, hs', hk, hk', hT, hT', hvalue.mpr hfair⟩

/-- Bob's deposit of 1001 and 1502 is worth less than the 1226 LP tokens that both
roundings give him, and alice pays the difference. -/
theorem share_value_diluted :
    ¬ ∀ (s s' : State Balances) (provider : Address) (id : ℕ) (amountA amountB : ℤ)
      (pool pool' : Pool), Reachable asset contract s →
      next asset contract (.call env (.addLiquidity provider id amountA amountB)) s = .ok s' →
      s.pool.get? id = some pool → s'.pool.get? id = some pool' →
      0 < pool.lpTotalSupply → 0 < pool'.lpTotalSupply → pool.ValueKept pool' := by
  have h : After (fun s => ∃ pool ∈ s.pool.get? 0, 0 < pool.lpTotalSupply ∧
      After (fun s' => ∃ pool' ∈ s'.pool.get? 0, 0 < pool'.lpTotalSupply ∧
          pool'.reserveA * pool'.reserveB * (pool.lpTotalSupply * pool.lpTotalSupply) <
            pool.reserveA * pool.reserveB * (pool'.lpTotalSupply * pool'.lpTotalSupply))
        (next asset contract (.call env (.addLiquidity bob 0 1001 1502)) s))
      (run (opened 1000 1500)) := by
    decide +kernel
  obtain ⟨s, hs, pool, hk, hT, hnext⟩ := h.exists_ok
  obtain ⟨s', hs', pool', hk', hT', hlt⟩ := hnext.exists_ok
  intro hall
  exact absurd (hall s s' bob 0 1001 1502 pool pool' (run_reachable hs) hs' hk hk' hT hT')
    (not_le.mpr hlt)

end Runs

end Amm
