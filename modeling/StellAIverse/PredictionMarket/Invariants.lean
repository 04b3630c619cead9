import StellAIverse.PredictionMarket.Effects

/-!
# Reachable states are well formed

A run starts at deployment and continues with any invocations and any token
movements. `initialize` is one of them: markets can be created and traded before it,
and it sets the counter of market ids back to zero, so that `create_market` can hand
out an id a second time. What holds in every reachable state is stated without new
ids in mind; `Action.Fresh` says of a step that it overwrites no market.
-/

namespace PredictionMarket

open Soroban

variable {τ : Type} {tok : Token τ} {self : Address} {s s' : State τ} {a : Action τ}

/-- The contract right after deployment. -/
def Initial (s : State τ) : Prop := ∃ tokens, s = deployed tokens

/-- Reached from an initial state by invocations that `ok` admits. -/
def ReachableVia (tok : Token τ) (self : Address) (ok : State τ → Action τ → Prop)
    (s : State τ) : Prop :=
  ∃ s₀, Initial s₀ ∧ Steps (next tok self) ok s₀ s

/-- Reached by any invocations at all. -/
def Reachable (tok : Token τ) (self : Address) (s : State τ) : Prop :=
  ReachableVia tok self (fun _ _ => True) s

theorem ReachableVia.reachable {ok : State τ → Action τ → Prop}
    (h : ReachableVia tok self ok s) : Reachable tok self s := by
  obtain ⟨s₀, h₀, hs⟩ := h
  exact ⟨s₀, h₀, hs.mono fun _ _ _ => trivial⟩

theorem ReachableVia.mono {ok ok' : State τ → Action τ → Prop} (h : ReachableVia tok self ok s)
    (hok : ∀ s a, ok s a → ok' s a) : ReachableVia tok self ok' s := by
  obtain ⟨s₀, h₀, hs⟩ := h
  exact ⟨s₀, h₀, hs.mono hok⟩

theorem Reachable.steps {ok : State τ → Action τ → Prop} (hs : Reachable tok self s)
    (h : Steps (next tok self) ok s s') : Reachable tok self s' := by
  obtain ⟨s₀, h₀, hr⟩ := hs
  exact ⟨s₀, h₀, hr.trans (h.mono fun _ _ _ => trivial)⟩

theorem Reachable.next (hs : Reachable tok self s) (h : next tok self a s = .ok s') :
    Reachable tok self s' := by
  have hstep : Steps (PredictionMarket.next tok self) (fun _ _ => True) s s' :=
    .tail (.refl s) trivial h
  exact hs.steps hstep

/-- What every admitted effect preserves holds along a run. -/
theorem Reachable.preserves {ok : State τ → Action τ → Prop} {P : State τ → Prop}
    (hs : Reachable tok self s) (h : Steps (PredictionMarket.next tok self) ok s s')
    (step : ∀ s a s', Reachable tok self s → ok s a → Effect tok self s a s' → P s → P s')
    (hp : P s) : P s' := by
  have hboth : Reachable tok self s' ∧ P s' := by
    apply Steps.preserves (P := fun s => Reachable tok self s ∧ P s) _ h ⟨hs, hp⟩
    rintro s a s' hok hn ⟨hr, hp⟩
    exact ⟨hr.next hn, step s a s' hr hok (next_effect hn) hp⟩
  exact hboth.2

/-- What holds initially and survives every admitted effect holds throughout. -/
theorem ReachableVia.induction {ok : State τ → Action τ → Prop} {P : State τ → Prop}
    (init : ∀ s, Initial s → P s)
    (step : ∀ s a s', Reachable tok self s → ok s a → Effect tok self s a s' → P s → P s')
    (h : ReachableVia tok self ok s) : P s := by
  obtain ⟨s₀, h₀, hs⟩ := h
  exact Reachable.preserves ⟨s₀, h₀, .refl s₀⟩ hs step (init s₀ h₀)

/-- Markets are stored under their own ids. -/
def Ids (s : State τ) : Prop := ∀ m market, s.market.get? m = some market → market.marketId = m

/-- The call creates a market under id `m`. -/
def Action.Creates (s : State τ) (m : ℕ) : Action τ → Prop
  | .call _ (.createMarket ..) => s.marketCounter = m
  | _ => False

/-- The call does not overwrite market `m`. -/
def Action.Fresh (s : State τ) (m : ℕ) (a : Action τ) : Prop :=
  a.Creates s m → s.market.get? m = none

/-- How a stored market can evolve: its terms are fixed and it never reopens. -/
structure Later (old new : Market) : Prop where
  marketId : new.marketId = old.marketId
  numOutcomes : new.numOutcomes = old.numOutcomes
  collateralToken : new.collateralToken = old.collateralToken
  tradingFeeBps : new.tradingFeeBps = old.tradingFeeBps
  maxOutcomeSupply : new.maxOutcomeSupply = old.maxOutcomeSupply
  active : new.status = .active → old.status = .active

theorem Later.refl (market : Market) : Later market market :=
  ⟨rfl, rfl, rfl, rfl, rfl, id⟩

/-- Rewriting one market keeps every market, evolved. -/
theorem Ids.rewrite (h : Ids s) {m₀ m : ℕ} {old new market : Market}
    (hold : s.market.get? m₀ = some old) (hnew : Later old new)
    (hm : s.market.get? m = some market) :
    ∃ market', (s.market.set old.marketId new).get? m = some market' ∧ Later market market' := by
  have hid := h m₀ old hold
  by_cases he : m = m₀
  · subst he
    rw [hold] at hm
    cases hm
    exact ⟨new, by rw [hid, Store.get?_set_self], hnew⟩
  · exact ⟨market, by rw [Store.get?_set_ne _ _ (by rw [hid]; exact he), hm], .refl market⟩

theorem market_step (hi : Ids s) {m : ℕ} (hf : a.Fresh s m) (h : Effect tok self s a s')
    {market : Market} (hm : s.market.get? m = some market) :
    ∃ market', s'.market.get? m = some market' ∧ Later market market' := by
  cases h with
  | createMarket =>
    have hne : m ≠ s.marketCounter := by
      rintro rfl
      cases hm.symm.trans (hf rfl)
    exact ⟨market, by rw [Store.get?_set_ne _ _ hne, hm], .refl market⟩
  | resolveMarket _ _ _ _ old stored =>
    exact hi.rewrite stored ⟨rfl, rfl, rfl, rfl, rfl, by simp⟩ hm
  | closeMarketEarly _ _ _ old stored =>
    exact hi.rewrite stored ⟨rfl, rfl, rfl, rfl, rfl, by simp⟩ hm
  | openDispute _ _ old _ stored =>
    exact hi.rewrite stored ⟨rfl, rfl, rfl, rfl, rfl, by simp⟩ hm
  | upholdDispute _ _ _ _ _ old _ _ _ known =>
    exact hi.rewrite known ⟨rfl, rfl, rfl, rfl, rfl, by simp⟩ hm
  | rejectDispute _ _ _ _ _ old _ _ _ known =>
    exact hi.rewrite known ⟨rfl, rfl, rfl, rfl, rfl, by simp⟩ hm
  | _ => exact ⟨market, hm, .refl market⟩

/-- Rewriting one market invents none. -/
theorem Ids.rewrite_back (h : Ids s) {m₀ m : ℕ} {old new market' : Market}
    (hold : s.market.get? m₀ = some old)
    (hm : (s.market.set old.marketId new).get? m = some market') (hnew : Later old new) :
    ∃ market, s.market.get? m = some market ∧ Later market market' := by
  rw [Store.get?_set, h m₀ old hold] at hm
  split at hm
  · rename_i he
    cases hm
    exact ⟨old, by rw [he, hold], hnew⟩
  · exact ⟨market', hm, .refl market'⟩

/-- A market of the new state was there before, or was just created. -/
theorem market_back (hi : Ids s) (h : Effect tok self s a s') {m : ℕ} {market' : Market}
    (hm : s'.market.get? m = some market') :
    (∃ market, s.market.get? m = some market ∧ Later market market' ∧ ¬ a.Creates s m) ∨
    (m = s.marketCounter ∧ ∃ env creator params closes,
      a = .call env (.createMarket creator params) ∧
      market' = newMarket env creator params m closes) := by
  have rewritten : ∀ {m₀ : ℕ} {old new : Market}, s.market.get? m₀ = some old →
      (s.market.set old.marketId new).get? m = some market' → Later old new →
      ¬ a.Creates s m →
      ∃ market, s.market.get? m = some market ∧ Later market market' ∧ ¬ a.Creates s m := by
    intro m₀ old new hold hset hnew hc
    obtain ⟨market, hmarket, hlater⟩ := hi.rewrite_back hold hset hnew
    exact ⟨market, hmarket, hlater, hc⟩
  cases h with
  | createMarket env creator params closes =>
    rw [Store.get?_set] at hm
    split at hm
    · rename_i he
      cases hm
      exact .inr ⟨he, env, creator, params, closes, rfl, by rw [he]⟩
    · rename_i hne
      exact .inl ⟨market', hm, .refl market', fun he => hne he.symm⟩
  | resolveMarket _ _ _ _ old stored =>
    exact .inl (rewritten stored hm ⟨rfl, rfl, rfl, rfl, rfl, by simp⟩ id)
  | closeMarketEarly _ _ _ old stored =>
    exact .inl (rewritten stored hm ⟨rfl, rfl, rfl, rfl, rfl, by simp⟩ id)
  | openDispute _ _ old _ stored =>
    exact .inl (rewritten stored hm ⟨rfl, rfl, rfl, rfl, rfl, by simp⟩ id)
  | upholdDispute _ _ _ _ _ old _ _ _ known =>
    exact .inl (rewritten known hm ⟨rfl, rfl, rfl, rfl, rfl, by simp⟩ id)
  | rejectDispute _ _ _ _ _ old _ _ _ known =>
    exact .inl (rewritten known hm ⟨rfl, rfl, rfl, rfl, rfl, by simp⟩ id)
  | _ => exact .inl ⟨market', hm, .refl market', id⟩

theorem ids_step (hi : Ids s) (h : Effect tok self s a s') : Ids s' := by
  cases h with
  | createMarket => exact Store.forall_set hi rfl
  | resolveMarket => exact Store.forall_set hi rfl
  | closeMarketEarly => exact Store.forall_set hi rfl
  | openDispute => exact Store.forall_set hi rfl
  | upholdDispute => exact Store.forall_set hi rfl
  | rejectDispute => exact Store.forall_set hi rfl
  | _ => exact hi

theorem Reachable.ids (h : Reachable tok self s) : Ids s := by
  refine ReachableVia.induction ?_ ?_ h
  · rintro s ⟨tokens, rfl⟩
    simp [Ids, deployed]
  · intro s a s' _ _ heff hi
    exact ids_step hi heff

/-- A market that is stored stays stored, overwritten or not. -/
theorem known_step (h : Effect tok self s a s') {m : ℕ} (hm : s.market.get? m ≠ none) :
    s'.market.get? m ≠ none := by
  have kept : ∀ {k : ℕ} {new : Market}, (s.market.set k new).get? m ≠ none := by
    intro k new
    rw [Store.get?_set]
    split
    · simp
    · exact hm
  cases h with
  | createMarket => exact kept
  | resolveMarket => exact kept
  | closeMarketEarly => exact kept
  | openDispute => exact kept
  | upholdDispute => exact kept
  | rejectDispute => exact kept
  | _ => exact hm

/-- Outcome `i` of market `m` exists. -/
def Listed (s : State τ) (m i : ℕ) : Prop :=
  ∃ market, s.market.get? m = some market ∧ i < market.numOutcomes

/-- The scan writes under the outcome of the sell order only. -/
theorem Fills.balance_key {m : ℕ} {seller : Address} {sell : LimitOrder} {b b' : Book}
    (h : Fills m seller sell b b') {k : ℕ × ℕ × Address} {v : ℤ}
    (hk : b'.balance.get? k = some v) :
    b.balance.get? k = some v ∨ (k.1 = m ∧ k.2.1 = sell.outcomeIndex) := by
  induction h with
  | refl => exact .inl hk
  | tail _ hstep ih =>
    obtain ⟨oid, buy, -, -, -⟩ := hstep
    simp only [Book.fill, Store.get?_put] at hk
    split at hk
    · rename_i he
      subst he
      exact .inr ⟨rfl, rfl⟩
    · exact ih hk

theorem Fills.balance_positive {m : ℕ} {seller : Address} {sell : LimitOrder} {b b' : Book}
    (h : Fills m seller sell b b') (hb : b.balance.Positive) : b'.balance.Positive := by
  induction h with
  | refl => exact hb
  | tail _ hstep ih =>
    obtain ⟨oid, buy, -, -, -⟩ := hstep
    exact ih.put _ _

theorem balances_step (hb : s.outcomeBalance.Positive) (h : Effect tok self s a s') :
    s'.outcomeBalance.Positive := by
  cases h with
  | buyOutcome => exact hb.put _ _
  | sellOutcome => exact hb.put _ _
  | removeLiquidity => exact hb.put _ _
  | redeemWinningTokens => exact hb.put _ _
  | matchSellOrder _ _ _ _ _ _ _ _ _ _ fills => exact (fills.balance_positive hb).put _ _
  | _ => exact hb

theorem Reachable.balances (h : Reachable tok self s) : s.outcomeBalance.Positive := by
  refine ReachableVia.induction (P := fun s => s.outcomeBalance.Positive) ?_ ?_ h
  · rintro s ⟨tokens, rfl⟩
    simp [Store.Positive, deployed]
  · intro s a s' _ _ heff hb
    exact balances_step hb heff

theorem shares_step (hb : s.lpShares.Positive) (h : Effect tok self s a s') :
    s'.lpShares.Positive := by
  cases h with
  | addLiquidity => exact hb.put _ _
  | removeLiquidity => exact hb.put _ _
  | _ => exact hb

theorem Reachable.shares (h : Reachable tok self s) : s.lpShares.Positive := by
  refine ReachableVia.induction (P := fun s => s.lpShares.Positive) ?_ ?_ h
  · rintro s ⟨tokens, rfl⟩
    simp [Store.Positive, deployed]
  · intro s a s' _ _ heff hb
    exact shares_step hb heff

/-- Everything is stored under markets that exist, and their outcomes have pools. -/
structure Keyed (s : State τ) : Prop where
  pool : ∀ k p, s.outcomePool.get? k = some p → s.market.get? k.1 ≠ none
  listed : ∀ m i, Listed s m i → ∃ p, s.outcomePool.get? (m, i) = some p
  balance : ∀ k v, s.outcomeBalance.get? k = some v → s.market.get? k.1 ≠ none
  shares : ∀ k v, s.lpShares.get? k = some v → s.market.get? k.1 ≠ none
  collateral : ∀ m v, s.marketCollateral.get? m = some v → s.market.get? m ≠ none
  lpTotal : ∀ m v, s.lpTotalSupply.get? m = some v → s.market.get? m ≠ none
  order : ∀ k o, s.order.get? k = some o → s.market.get? k.1 ≠ none

/-- Existing pools are rewritten in place; only a new market adds any. -/
theorem pool_step (h : Effect tok self s a s') {m i : ℕ} :
    (∃ p, s'.outcomePool.get? (m, i) = some p) ↔
      (∃ p, s.outcomePool.get? (m, i) = some p) ∨
      (m = s.marketCounter ∧ ∃ env creator params,
        a = .call env (.createMarket creator params) ∧ i < params.numOutcomes) := by
  have rewrite : ∀ {k : ℕ × ℕ} {old new : OutcomePool}, s.outcomePool.get? k = some old →
      ((∃ p, (s.outcomePool.set k new).get? (m, i) = some p) ↔
        ∃ p, s.outcomePool.get? (m, i) = some p) := by
    intro k old new hk
    rw [Store.get?_set]
    split
    · rename_i he
      exact ⟨fun _ => ⟨old, by rw [he, hk]⟩, fun _ => ⟨new, rfl⟩⟩
    · exact Iff.rfl
  cases h with
  | createMarket env creator params _ _ pools _ _ _ _ _ _ seeded =>
    simp only [seeded]
    constructor
    · rintro ⟨p, hp⟩
      split at hp
      · rename_i hc
        exact .inr ⟨hc.1, env, creator, params, rfl, hc.2⟩
      · exact .inl ⟨p, hp⟩
    · rintro (⟨p, hp⟩ | ⟨hm, _, _, _, heq, hlt⟩)
      · split
        · exact ⟨_, rfl⟩
        · exact ⟨p, hp⟩
      · cases heq
        rw [if_pos ⟨hm, hlt⟩]
        exact ⟨_, rfl⟩
  | buyOutcome _ _ _ _ _ _ _ _ _ _ _ _ _ _ _ pooled => simp [rewrite pooled]
  | sellOutcome _ _ _ _ _ _ _ _ _ _ _ _ _ _ pooled => simp [rewrite pooled]
  | addLiquidity _ _ _ _ _ _ _ _ _ _ _ _ _ pooled => simp [rewrite pooled]
  | removeLiquidity _ _ _ _ _ _ _ _ _ pooled => simp [rewrite pooled]
  | redeemWinningTokens _ _ _ _ _ _ _ _ _ _ _ pooled => simp [rewrite pooled]
  | _ => simp

/-- Every outcome of a market has its pool: a new market seeds them. -/
theorem listed_pool_step (hi : Ids s) (hk : Keyed s) (h : Effect tok self s a s') {m i : ℕ}
    (hl : Listed s' m i) : ∃ p, s'.outcomePool.get? (m, i) = some p := by
  obtain ⟨market', hm, hlt⟩ := hl
  apply (pool_step h).mpr
  obtain ⟨market, hold, hlater, -⟩ | ⟨hnew, env, creator, params, closes, ha, rfl⟩ :=
    market_back hi h hm
  · exact .inl (hk.listed m i ⟨market, hold, by rw [← hlater.numOutcomes]; exact hlt⟩)
  · exact .inr ⟨hnew, env, creator, params, ha, hlt⟩

/-- Bounds every stored order keeps; an open one is not filled up. -/
structure LimitOrder.Valid (o : LimitOrder) : Prop where
  price : 0 < o.price
  filled : 0 ≤ o.filledQuantity
  bound : o.filledQuantity ≤ o.quantity
  opened : o.status = .open → o.filledQuantity < o.quantity

/-- Orders sit under their own ids, below the counter. -/
structure Orders (s : State τ) : Prop where
  key : ∀ k o, s.order.get? k = some o → (o.marketId, o.orderId) = k
  valid : ∀ k o, s.order.get? k = some o → o.Valid
  counter : ∀ k o, s.order.get? k = some o → k.2 < getOrderCounter s k.1

theorem Orders.fresh (h : Orders s) (m : ℕ) : s.order.get? (m, getOrderCounter s m) = none := by
  cases hk : s.order.get? (m, getOrderCounter s m) with
  | none => rfl
  | some o => exact absurd (h.counter _ _ hk) (lt_irrefl _)

/-- What one fill leaves of an order book whose orders are keyed and valid. -/
structure Book.Ok (b : Book) : Prop where
  key : ∀ k o, b.order.get? k = some o → (o.marketId, o.orderId) = k
  valid : ∀ k o, b.order.get? k = some o → o.Valid
  remaining : 0 ≤ b.remaining

theorem Matches.fill_pos {seller : Address} {sell buy : LimitOrder} (hm : Matches seller sell buy)
    (hv : buy.Valid) {remaining : ℤ} (hr : 0 < remaining) :
    0 < min remaining (buy.quantity - buy.filledQuantity) := by
  have := hv.opened hm.1
  omega

theorem Fill.ok {m : ℕ} {seller : Address} {sell : LimitOrder} {b b' : Book}
    (h : Fill m seller sell b b') (hb : b.Ok) : b'.Ok := by
  obtain ⟨oid, buy, stored, eligible, left⟩ := h
  have hvalid := hb.valid _ _ stored
  have hpos := eligible.fill_pos hvalid left
  refine ⟨Store.forall_set hb.key rfl, Store.forall_set hb.valid ?_,
    by simp only [Book.fill]; omega⟩
  have hfilled := hvalid.filled
  refine ⟨hvalid.price, ?_, ?_, ?_⟩
  · simp only
    omega
  · simp only
    omega
  · simp only
    intro hopen
    split at hopen
    · cases hopen
    · omega

theorem Fills.ok {m : ℕ} {seller : Address} {sell : LimitOrder} {b b' : Book}
    (h : Fills m seller sell b b') (hb : b.Ok) : b'.Ok := by
  induction h with
  | refl => exact hb
  | tail _ hstep ih => exact hstep.ok ih

/-- The scan keeps the ids of the book and the terms of each order: an order
that matches after some fills matched before them. -/
theorem Fills.order_key {m : ℕ} {seller : Address} {sell : LimitOrder} {b b' : Book}
    (h : Fills m seller sell b b') (hb : b.Ok) {k : ℕ × ℕ} {o : LimitOrder}
    (hk : b'.order.get? k = some o) :
    ∃ o₀, b.order.get? k = some o₀ ∧ (o.outcomeIndex = o₀.outcomeIndex ∧ o.owner = o₀.owner) ∧
      (Matches seller sell o → Matches seller sell o₀) := by
  induction h generalizing o with
  | refl => exact ⟨o, hk, ⟨rfl, rfl⟩, id⟩
  | tail hfills hstep ih =>
    obtain ⟨oid, buy, stored, eligible, -⟩ := hstep
    have hkey := (Fills.ok hfills hb).key _ _ stored
    simp only [Book.fill, hkey, Store.get?_set] at hk
    split at hk
    · rename_i he
      cases hk
      subst he
      obtain ⟨o₀, hk₀, heq, hmatch⟩ := ih stored
      exact ⟨o₀, hk₀, heq, fun _ => hmatch eligible⟩
    · exact ih hk

/-- A sell order never appears among the orders a scan rewrites. -/
theorem Fills.sell_unchanged {m : ℕ} {seller : Address} {sell : LimitOrder} {b b' : Book}
    (h : Fills m seller sell b b') (hb : b.Ok) {k : ℕ × ℕ} {o : LimitOrder}
    (hk : b.order.get? k = some o) (hside : o.side = .sell) : b'.order.get? k = some o := by
  induction h with
  | refl => exact hk
  | tail hfills hstep ih =>
    obtain ⟨oid, buy, stored, eligible, -⟩ := hstep
    have hkey := (Fills.ok hfills hb).key _ _ stored
    simp only [Book.fill, hkey]
    rw [Store.get?_set_ne, ih]
    rintro rfl
    rw [ih] at stored
    cases stored
    simp [eligible.2.1] at hside

/-- The book a completed match scans is in order. -/
theorem Orders.book (h : Orders s) {m oid : ℕ} {sell : LimitOrder}
    (stored : s.order.get? (m, oid) = some sell) :
    Book.Ok ⟨s.order, s.outcomeBalance, sell.quantity - sell.filledQuantity, 0⟩ :=
  ⟨h.key, h.valid, by have := (h.valid _ _ stored).bound; simp only; omega⟩

theorem Fills.remaining_le {m : ℕ} {seller : Address} {sell : LimitOrder} {b b' : Book}
    (h : Fills m seller sell b b') (hb : b.Ok) : b'.remaining ≤ b.remaining := by
  induction h with
  | refl => exact le_rfl
  | tail hfills hstep ih =>
    obtain ⟨oid, buy, stored, eligible, left⟩ := hstep
    have := eligible.fill_pos ((Fills.ok hfills hb).valid _ _ stored) left
    simp only [Book.fill]
    omega

theorem orders_step (ho : Orders s) (h : Effect tok self s a s') : Orders s' := by
  have grow : ∀ {m c : ℕ} (k : ℕ × ℕ), k.2 < getOrderCounter s k.1 →
      c = getOrderCounter s m + 1 →
      k.2 < ((s.orderCounter.set m c).get? k.1).getD 0 := by
    intro m c k hk hc
    rw [Store.get?_set]
    split
    · rename_i he
      rw [he] at hk
      simp only [Option.getD_some]
      omega
    · exact hk
  cases h with
  | placeOrder _ order _ _ _ _ _ positive _ fresh unfilled opened _ =>
    have hvalid : order.Valid := ⟨positive.1, by omega, by omega, by omega⟩
    refine ⟨Store.forall_set ho.key rfl, Store.forall_set ho.valid hvalid,
      Store.forall_set (P := fun k _ => _) ?_ ?_⟩
    · intro k o hk
      exact grow k (ho.counter k o hk) (by rw [fresh])
    · simp [getOrderCounter]
  | cancelOrder _ m oid order _ stored =>
    have hvalid := ho.valid _ _ stored
    refine ⟨Store.forall_set ho.key rfl, Store.forall_set ho.valid ?_,
      Store.forall_set ho.counter ?_⟩
    · exact ⟨hvalid.price, hvalid.filled, hvalid.bound, by simp⟩
    · rw [ho.key _ _ stored]
      exact ho.counter _ _ stored
  | matchSellOrder _ m oid sell book _ stored opened _ _ fills =>
    have hbook := ho.book stored
    have hb := fills.ok hbook
    have hrem := fills.remaining_le hbook
    have hr0 := hb.remaining
    have hvalid := ho.valid _ _ stored
    have hf := hvalid.filled
    simp only at hrem
    refine ⟨Store.forall_set hb.key rfl, Store.forall_set hb.valid ?_,
      Store.forall_set (P := fun k _ => _) ?_ ?_⟩
    · refine ⟨hvalid.price, ?_, ?_, ?_⟩ <;> simp only [LimitOrder.settled]
      · omega
      · omega
      · intro hopen
        split at hopen
        · cases hopen
        · omega
    · intro k o hk
      obtain ⟨o₀, ho₀, -, -⟩ := fills.order_key hbook hk
      exact ho.counter k o₀ ho₀
    · rw [ho.key _ _ stored]
      exact ho.counter _ _ stored
  | _ => exact ⟨ho.key, ho.valid, ho.counter⟩

theorem Reachable.orders (h : Reachable tok self s) : Orders s := by
  refine ReachableVia.induction ?_ ?_ h
  · rintro s ⟨tokens, rfl⟩
    exact ⟨by simp [deployed], by simp [deployed], by simp [deployed]⟩
  · intro s a s' _ _ heff ho
    exact orders_step ho heff

theorem keyed_step (hi : Ids s) (ho : Orders s) (hk : Keyed s) (h : Effect tok self s a s') :
    Keyed s' := by
  have known : ∀ m, s.market.get? m ≠ none → s'.market.get? m ≠ none :=
    fun m hm => known_step h hm
  have kept : ∀ {m : ℕ} {market : Market}, s.market.get? m = some market →
      s'.market.get? m ≠ none := fun hm => known _ (by simp [hm])
  refine ⟨?_, fun m i hl => listed_pool_step hi hk h hl, ?_, ?_, ?_, ?_, ?_⟩
  · rintro ⟨m, i⟩ p hp
    rcases (pool_step h).mp ⟨p, hp⟩ with ⟨p₀, hp₀⟩ | ⟨hnew, env, creator, params, rfl, -⟩
    · exact known m (hk.pool _ p₀ hp₀)
    · cases h with
      | createMarket => simp [hnew]
  · have written : ∀ {m i : ℕ} {user : Address} {n : ℤ}, s'.market.get? m ≠ none →
        ∀ k v, (s.outcomeBalance.put (m, i, user) n).get? k = some v → s'.market.get? k.1 ≠ none :=
      fun hm => Store.forall_put (fun k v hv => known k.1 (hk.balance k v hv)) fun _ => hm
    cases h with
    | buyOutcome _ _ _ _ _ _ _ _ _ _ _ _ stored => exact written (kept stored)
    | sellOutcome _ _ _ _ _ _ _ _ _ _ _ stored => exact written (kept stored)
    | removeLiquidity _ _ _ _ _ _ _ _ stored => exact written (kept stored)
    | redeemWinningTokens _ _ _ _ _ _ _ stored => exact written (kept stored)
    | matchSellOrder _ m oid sell book _ stored _ _ _ fills =>
      have hm : s.market.get? m ≠ none := hk.order _ _ stored
      refine Store.forall_put ?_ fun _ => hm
      intro k v hv
      rcases fills.balance_key hv with hv | ⟨hkm, -⟩
      · exact hk.balance k v hv
      · rw [hkm]
        exact hm
    | _ => exact fun k v hv => known k.1 (hk.balance k v hv)
  · have written : ∀ {m : ℕ} {p : Address} {n : ℤ}, s'.market.get? m ≠ none →
        ∀ k v, (s.lpShares.put (m, p) n).get? k = some v → s'.market.get? k.1 ≠ none :=
      fun hm => Store.forall_put (fun k v hv => known k.1 (hk.shares k v hv)) fun _ => hm
    cases h with
    | addLiquidity _ _ _ _ _ _ _ _ _ _ stored => exact written (kept stored)
    | removeLiquidity _ _ _ _ _ _ _ _ stored => exact written (kept stored)
    | _ => exact fun k v hv => known k.1 (hk.shares k v hv)
  · have written : ∀ {m : ℕ} {n : ℤ}, s'.market.get? m ≠ none →
        ∀ k v, (s.marketCollateral.set m n).get? k = some v → s'.market.get? k ≠ none :=
      fun hm => Store.forall_set (fun k v hv => known k (hk.collateral k v hv)) hm
    cases h with
    | createMarket => exact written (by simp)
    | buyOutcome _ _ _ _ _ _ _ _ _ _ _ _ stored => exact written (kept stored)
    | sellOutcome _ _ _ _ _ _ _ _ _ _ _ stored => exact written (kept stored)
    | addLiquidity _ _ _ _ _ _ _ _ _ _ stored => exact written (kept stored)
    | removeLiquidity _ _ _ _ _ _ _ _ stored => exact written (kept stored)
    | redeemWinningTokens _ _ _ _ _ _ _ stored => exact written (kept stored)
    | _ => exact fun k v hv => known k (hk.collateral k v hv)
  · have written : ∀ {m : ℕ} {n : ℤ}, s'.market.get? m ≠ none →
        ∀ k v, (s.lpTotalSupply.set m n).get? k = some v → s'.market.get? k ≠ none :=
      fun hm => Store.forall_set (fun k v hv => known k (hk.lpTotal k v hv)) hm
    cases h with
    | createMarket => exact written (by simp)
    | addLiquidity _ _ _ _ _ _ _ _ _ _ stored => exact written (kept stored)
    | removeLiquidity _ _ _ _ _ _ _ _ stored => exact written (kept stored)
    | _ => exact fun k v hv => known k (hk.lpTotal k v hv)
  · cases h with
    | placeOrder _ order market _ stored => exact Store.forall_set hk.order (kept stored)
    | cancelOrder _ m oid order _ stored =>
      rw [ho.key _ _ stored]
      exact Store.forall_set hk.order (hk.order _ _ stored)
    | matchSellOrder _ m oid sell book _ stored _ _ _ fills =>
      rw [ho.key _ _ stored]
      refine Store.forall_set ?_ (hk.order _ _ stored)
      intro k o hv
      obtain ⟨o₀, ho₀, -⟩ := fills.order_key (ho.book stored) hv
      exact hk.order k o₀ ho₀
    | _ => exact fun k o hv => known k.1 (hk.order k o hv)

theorem Reachable.keyed (h : Reachable tok self s) : Keyed s := by
  refine ReachableVia.induction ?_ ?_ h
  · rintro s ⟨tokens, rfl⟩
    exact ⟨by simp [deployed], by simp [deployed, Listed], by simp [deployed], by simp [deployed],
      by simp [deployed], by simp [deployed], by simp [deployed]⟩
  · intro s a s' hr _ heff hk
    exact keyed_step hr.ids hr.orders hk heff

/-- The terms `create_market` accepts. -/
structure Market.Terms (market : Market) : Prop where
  outcomes : 2 ≤ market.numOutcomes ∧ market.numOutcomes ≤ maxOutcomes
  fee : market.tradingFeeBps ≤ maxTradingFeeBps
  cap : 0 < market.maxOutcomeSupply

theorem Market.Terms.fee_le {market : Market} (h : market.Terms) :
    market.tradingFeeBps ≤ 10000 :=
  h.fee.trans (by decide)

theorem Later.terms {old new : Market} (h : Later old new) (ht : old.Terms) : new.Terms :=
  ⟨by rw [h.numOutcomes]; exact ht.outcomes, by rw [h.tradingFeeBps]; exact ht.fee,
    by rw [h.maxOutcomeSupply]; exact ht.cap⟩

theorem Reachable.terms (h : Reachable tok self s) {m : ℕ} {market : Market}
    (hm : s.market.get? m = some market) : market.Terms := by
  revert m market
  refine ReachableVia.induction
    (P := fun s => ∀ {m market}, s.market.get? m = some market → market.Terms) ?_ ?_ h
  · rintro s ⟨tokens, rfl⟩
    simp [deployed]
  · intro s a s' hr _ heff ih m market hm
    obtain ⟨old, hold, hlater, -⟩ | ⟨-, env, creator, params, closes, rfl, rfl⟩ :=
      market_back hr.ids heff hm
    · exact hlater.terms (ih hold)
    · cases heff with
      | createMarket _ _ _ _ _ _ _ outcomes fee _ cap => exact ⟨outcomes, fee, cap⟩

/-- A pool whose share supply is not in debt has no reserve in debt. Burning
shares minted in another pool can push the supply below zero. -/
def OutcomePool.Sound (p : OutcomePool) : Prop :=
  0 ≤ p.lpTotalSupply → 0 ≤ p.collateralReserve ∧ 0 ≤ p.outcomeReserve

/-- A share price `a * T / r` that outweighs a debt of `T` outweighs one of `r`. -/
theorem reserve_nonneg_of_minted {a r T shares : ℤ} (ha : 0 < a) (hT : T < 0)
    (hs : 0 < shares) (hle : shares ≤ (a * T).tdiv r) (hsum : 0 ≤ T + shares) : 0 ≤ r + a := by
  by_contra hneg
  have hr : r < 0 := by omega
  have hflip : (a * T).tdiv r = (a * -T).tdiv (-r) := by
    rw [mul_neg, Int.neg_tdiv_neg]
  have hfloor := I128.tdiv_mul_le (a := a * -T) (b := -r) (by nlinarith) (by omega)
  rw [← hflip] at hfloor
  nlinarith

theorem addLiquidity_sound {a b shares : ℤ} {pool : OutcomePool} (hp : pool.Sound)
    (hpos : 0 < a ∧ 0 < b) (minted : calculateLpSharesAdd a b pool = .ok shares)
    (hs : 0 < shares) :
    OutcomePool.Sound ⟨pool.collateralReserve + a, pool.outcomeReserve + b,
      pool.lpTotalSupply + shares⟩ := by
  intro hT
  simp only at hT ⊢
  by_cases h0 : 0 ≤ pool.lpTotalSupply
  · have := hp h0
    omega
  · rcases calculateLpSharesAdd_ok minted with ⟨hz, -⟩ | ⟨-, -, -, hmin⟩
    · omega
    · exact ⟨reserve_nonneg_of_minted hpos.1 (by omega) hs (by omega) hT,
        reserve_nonneg_of_minted hpos.2 (by omega) hs (by omega) hT⟩

/-- The part of a reserve that `x` of `T` shares withdraw is at most the reserve. -/
theorem withdrawn_le {x r T : ℤ} (hx : 0 ≤ x) (hxT : x ≤ T) (hT : 0 < T) (hr : 0 ≤ r) :
    (x * r).tdiv T ≤ r := by
  have hfloor := I128.tdiv_mul_le (a := x * r) (by positivity) hT
  have hle : x * r ≤ r * T := by nlinarith
  by_contra hlt
  nlinarith

theorem sound_step (hs : ∀ k p, s.outcomePool.get? k = some p → p.Sound)
    (ht : ∀ m market, s.market.get? m = some market → market.Terms)
    (h : Effect tok self s a s') : ∀ k p, s'.outcomePool.get? k = some p → p.Sound := by
  have written : ∀ {k : ℕ × ℕ} {new : OutcomePool}, new.Sound →
      ∀ k' p, (s.outcomePool.set k new).get? k' = some p → p.Sound :=
    fun hnew => Store.forall_set hs hnew
  cases h with
  | createMarket _ _ _ _ _ _ _ _ _ liquidity _ _ seeded =>
    intro k p hp
    simp only [seeded] at hp
    split at hp
    · cases hp
      exact fun _ => ⟨liquidity.le, liquidity.le⟩
    · exact hs k p hp
  | buyOutcome _ _ _ _ _ _ net _ _ pool _ _ _ _ _ _ positive _ net_pos out_eq =>
    have hlt := bought_lt positive.2.1 positive.2.2 net_pos
    refine written fun _ => ?_
    simp only
    omega
  | sellOutcome _ _ m _ _ _ _ market pool _ _ stored _ _ _ positive _ out_eq =>
    have hle := sell_reserve_nonneg positive.2.1 (positive.1.trans positive.2.2) positive.1
      (ht m market stored).fee_le
    refine written fun _ => ?_
    simp only
    omega
  | addLiquidity _ _ m i _ _ _ _ pool _ _ _ _ pooled positive minted shares_pos =>
    exact written (addLiquidity_sound (hs _ _ pooled) positive minted shares_pos)
  | removeLiquidity _ _ m i x _ pool _ _ pooled positive _ supplied =>
    refine written fun hT => ?_
    obtain ⟨hc, ho⟩ := hs _ _ pooled supplied.le
    have hxT : x ≤ pool.lpTotalSupply := by
      simp only at hT
      omega
    have hc' := withdrawn_le positive.le hxT supplied hc
    have ho' := withdrawn_le positive.le hxT supplied ho
    simp only [OutcomePool.collateralFor, OutcomePool.outcomeFor]
    omega
  | redeemWinningTokens _ _ _ _ _ pool _ _ _ _ _ pooled =>
    refine written fun hT => ?_
    obtain ⟨hc, ho⟩ := hs _ _ pooled hT
    refine ⟨?_, ho⟩
    simp only [OutcomePool.payout]
    split <;> omega
  | _ => exact hs

theorem Reachable.sound (h : Reachable tok self s) {k : ℕ × ℕ} {p : OutcomePool}
    (hp : s.outcomePool.get? k = some p) : p.Sound := by
  revert k p
  refine ReachableVia.induction
    (P := fun s => ∀ {k p}, s.outcomePool.get? k = some p → p.Sound) ?_ ?_ h
  · rintro s ⟨tokens, rfl⟩
    simp [deployed]
  · intro s a s' hr _ heff ih k p hp
    exact sound_step (fun _ _ => ih) (fun _ _ => hr.terms) heff k p hp

/-- While shares are outstanding, redeeming some pays no negative amount. -/
theorem OutcomePool.Sound.outcomeFor_nonneg {p : OutcomePool} (h : p.Sound)
    (hT : 0 < p.lpTotalSupply) {x : ℤ} (hx : 0 ≤ x) : 0 ≤ p.outcomeFor x :=
  Int.tdiv_nonneg (mul_nonneg hx (h hT.le).2) hT.le

namespace Sample

def contract : Address := ⟨0⟩

def admin : Address := ⟨1⟩

def usdc : Address := ⟨2⟩

def alice : Address := ⟨3⟩

def bob : Address := ⟨4⟩

def carol : Address := ⟨5⟩

def eurc : Address := ⟨6⟩

def start : State Balances :=
  { deployed (Balances.issue
      [(usdc, alice, 10 ^ 9), (usdc, bob, 10 ^ 9), (usdc, carol, 10 ^ 9)]) with
    admin := some admin, defaultOracle := some admin }

def env (timestamp : ℕ) : Env := ⟨timestamp, fun _ => true⟩

/-- The call that leads to `start`. -/
def setUp : Action Balances := .call (env 0) (.initializeContract admin admin)

theorem start_via {ok : State Balances → Action Balances → Prop} (h : ∀ s, ok s setUp) :
    ReachableVia asset contract ok start :=
  ⟨_, ⟨_, rfl⟩, .tail (a := setUp) (.refl _) (h _) rfl⟩

/-- A yes-or-no market. -/
def params (initialLiquidity maxOutcomeSupply : ℤ) (tradingFeeBps : ℕ) : CreateMarketParams where
  question := "Will it rain?"
  category := .events
  collateralToken := usdc
  oracleSource := admin
  numOutcomes := 2
  outcomeNames := ["yes", "no"]
  resolutionWindowDuration := 60
  maxOutcomeSupply := maxOutcomeSupply
  tradingFeeBps := tradingFeeBps
  initialLiquidity := initialLiquidity

/-- A call at time zero, inside the resolution window. -/
def call (op : Op) : Action Balances := .call (env 0) op

/-- A call after the resolution window. -/
def lateCall (op : Op) : Action Balances := .call (env 100) op

def run (calls : List (Action Balances)) : Result (State Balances) :=
  execute (next asset contract) calls start

theorem run_via {ok : State Balances → Action Balances → Prop} {calls : List (Action Balances)}
    {s : State Balances} (hstart : ∀ s, ok s setUp) (hok : ∀ a ∈ calls, ∀ s, ok s a)
    (h : run calls = .ok s) : ReachableVia asset contract ok s := by
  obtain ⟨s₀, h₀, hs⟩ := start_via hstart
  exact ⟨s₀, h₀, hs.trans (execute_steps calls hok h)⟩

/-- The same where what is asked of the first call depends on the state. -/
theorem run_cons_via {ok : State Balances → Action Balances → Prop} {first : Action Balances}
    {calls : List (Action Balances)} {s : State Balances} (hstart : ∀ s, ok s setUp)
    (hfirst : ok start first) (hok : ∀ a ∈ calls, ∀ s, ok s a)
    (h : run (first :: calls) = .ok s) : ReachableVia asset contract ok s := by
  obtain ⟨t, ht, hrest⟩ := bind_ok.mp h
  obtain ⟨s₀, h₀, hs⟩ := start_via hstart
  exact ⟨s₀, h₀, (hs.tail hfirst ht).trans (execute_steps calls hok hrest)⟩

theorem run_reachable {calls : List (Action Balances)} {s : State Balances}
    (h : run calls = .ok s) : Reachable asset contract s :=
  run_via (fun _ => trivial) (fun _ _ _ => trivial) h

/-- The contract before `initialize`, with a second asset. -/
def blank : State Balances :=
  deployed (Balances.issue [(usdc, alice, 10 ^ 9), (usdc, bob, 10 ^ 9), (usdc, carol, 10 ^ 9),
    (eurc, alice, 10 ^ 9)])

def runBlank (calls : List (Action Balances)) : Result (State Balances) :=
  execute (next asset contract) calls blank

theorem runBlank_via {ok : State Balances → Action Balances → Prop}
    {calls : List (Action Balances)} {s : State Balances} (hok : ∀ a ∈ calls, ∀ s, ok s a)
    (h : runBlank calls = .ok s) : ReachableVia asset contract ok s :=
  ⟨blank, ⟨_, rfl⟩, execute_steps calls hok h⟩

/-- A run and one more call, for facts that relate the two states. -/
theorem run_then {calls : List (Action Balances)} {a : Action Balances}
    {Q : State Balances → State Balances → Prop}
    (h : After (fun s => After (Q s) (next asset contract a s)) (run calls)) :
    ∃ s s', Reachable asset contract s ∧ next asset contract a s = .ok s' ∧ Q s s' := by
  obtain ⟨s, hs, hstep⟩ := h.exists_ok
  obtain ⟨s', hs', hq⟩ := hstep.exists_ok
  exact ⟨s, s', run_reachable hs, hs', hq⟩

end Sample

end PredictionMarket
