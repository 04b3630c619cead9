import StellAIverse.PredictionMarket.Invariants

/-!
# Outcome tokens in circulation

The tokens of an outcome are what users hold and what its pool reserves. Trades
against the pool move tokens between the two. `add_liquidity` takes no tokens
from the provider, and a sell order is debited by everything it ever filled, so
these two do not.
-/

namespace PredictionMarket

open Soroban

variable {τ : Type} {tok : Token τ} {self : Address} {s s' : State τ} {a : Action τ}

/-- Tokens of outcome `i` of market `m` that users hold. -/
def held (s : State τ) (m i : ℕ) : ℤ :=
  s.outcomeBalance.sumOver fun k => k.1 = m ∧ k.2.1 = i

/-- Tokens of the outcome that its pool reserves. -/
def reserve (s : State τ) (m i : ℕ) : ℤ :=
  (s.outcomePool.get? (m, i)).elim 0 OutcomePool.outcomeReserve

section Scan

variable {m : ℕ} {seller : Address} {sell : LimitOrder} {b b' : Book}

/-- What a sell order can still fill of the order under `oid`. -/
def openDemand (orders : Store (ℕ × ℕ) LimitOrder) (m : ℕ) (seller : Address)
    (sell : LimitOrder) (oid : ℕ) : ℤ :=
  match orders.get? (m, oid) with
  | some buy => if Matches seller sell buy then buy.quantity - buy.filledQuantity else 0
  | none => 0

/-- Unfilled quantity of all buy orders that match a sell order. -/
def demand (s : State τ) (m : ℕ) (sell : LimitOrder) : ℤ :=
  ((List.range (getOrderCounter s m)).map (openDemand s.order m sell.owner sell)).sum

/-- What one call of `match_sell_order` fills. -/
def fillable (s : State τ) (m : ℕ) (sell : LimitOrder) : ℤ :=
  min (sell.quantity - sell.filledQuantity) (demand s m sell)

theorem openDemand_nonneg (hb : b.Ok) (oid : ℕ) : 0 ≤ openDemand b.order m seller sell oid := by
  unfold openDemand
  split
  · rename_i buy hbuy
    have := (hb.valid _ _ hbuy).bound
    split <;> omega
  · exact le_rfl

theorem demand_nonneg (hb : b.Ok) (ids : List ℕ) :
    0 ≤ (ids.map (openDemand b.order m seller sell)).sum := by
  apply List.sum_nonneg
  intro d hd
  obtain ⟨oid, -, rfl⟩ := List.mem_map.mp hd
  exact openDemand_nonneg hb oid

/-- Filling one order leaves the demand of the others. -/
theorem openDemand_fill {buy : LimitOrder} {i : ℕ} {fill : ℤ} {oid oid' : ℕ}
    (hkey : (buy.marketId, buy.orderId) = (m, oid)) (hne : oid' ≠ oid) :
    openDemand (b.fill m i buy fill).order m seller sell oid' =
      openDemand b.order m seller sell oid' := by
  have hk : (b.fill m i buy fill).order.get? (m, oid') = b.order.get? (m, oid') := by
    simp only [Book.fill, hkey]
    rw [Store.get?_set_ne]
    simpa using hne
  simp only [openDemand, hk]

/-- The scan fills as much as the sell order offers and the book demands. -/
theorem scanOrders_remaining {ids : List ℕ} (hnd : ids.Nodup) (hb : b.Ok)
    (h : scanOrders m seller sell ids (b.on s) = .ok (b'.on s)) :
    b'.remaining = b.remaining -
      min b.remaining (ids.map (openDemand b.order m seller sell)).sum := by
  induction ids generalizing b with
  | nil =>
    have hr := hb.remaining
    have he : b.remaining = b'.remaining := by
      simp only [scanOrders, Except.ok.injEq] at h
      exact congrArg Scan.remaining h
    simp only [List.map_nil, List.sum_nil]
    omega
  | cons oid rest ih =>
    have hr := hb.remaining
    have hrest : 0 ≤ (rest.map (openDemand b.order m seller sell)).sum := demand_nonneg hb rest
    have hdem : 0 ≤ openDemand b.order m seller sell oid := openDemand_nonneg hb oid
    obtain ⟨hnot, hnd⟩ := List.nodup_cons.mp hnd
    simp only [List.map_cons, List.sum_cons]
    unfold scanOrders at h
    split at h
    · rename_i hzero
      have he : b.remaining = b'.remaining := by
        simp only [Except.ok.injEq] at h
        exact congrArg Scan.remaining h
      have hz : b.remaining ≤ 0 := hzero
      omega
    · split at h
      · rename_i hnone
        have h0 : openDemand b.order m seller sell oid = 0 := by
          simp only [openDemand]
          rw [show b.order.get? (m, oid) = none from hnone]
        have := ih hnd hb h
        omega
      · rename_i hleft _ buy hbuy
        have hbuy : b.order.get? (m, oid) = some buy := hbuy
        have hleft : 0 < b.remaining := not_le.mp hleft
        split at h
        · rename_i hmatch
          obtain ⟨acc, hacc, h⟩ := bind_ok.mp h
          rw [fillOrder_ok hacc] at h
          have hfill : Fill m seller sell b _ := .fill oid buy hbuy hmatch hleft
          have hrec := ih hnd (hfill.ok hb) h
          have hsame : rest.map (openDemand (b.fill m sell.outcomeIndex buy
              (min b.remaining (buy.quantity - buy.filledQuantity))).order m seller sell) =
              rest.map (openDemand b.order m seller sell) := by
            apply List.map_congr_left
            intro oid' hoid'
            exact openDemand_fill (hb.key _ _ hbuy) (by rintro rfl; exact hnot hoid')
          have hthis : openDemand b.order m seller sell oid =
              buy.quantity - buy.filledQuantity := by
            simp [openDemand, hbuy, hmatch]
          have hrem : (b.fill m sell.outcomeIndex buy
              (min b.remaining (buy.quantity - buy.filledQuantity))).remaining =
              b.remaining - min b.remaining (buy.quantity - buy.filledQuantity) := rfl
          rw [hsame, hrem] at hrec
          omega
        · rename_i hmatch
          have h0 : openDemand b.order m seller sell oid = 0 := by
            simp [openDemand, hbuy, hmatch]
          have := ih hnd hb h
          omega

/-- Fills credit the buyers with exactly what the sell order gave up. -/
theorem Fills.sumOver_all (h : Fills m seller sell b b') (hb : b.Ok) (hpos : b.balance.Positive)
    {p : ℕ × ℕ × Address → Prop} [DecidablePred p]
    (hp : ∀ user, p (m, sell.outcomeIndex, user)) :
    b'.balance.sumOver p = b.balance.sumOver p + (b.remaining - b'.remaining) := by
  induction h with
  | refl => ring
  | tail hfills hstep ih =>
    have hok := Fills.ok hfills hb
    have hnn := (Fills.balance_positive hfills hpos).amount_nonneg
    obtain ⟨oid, buy, stored, eligible, left⟩ := hstep
    have hfill := eligible.fill_pos (hok.valid _ _ stored) left
    have hbal := hnn (m, sell.outcomeIndex, buy.owner)
    simp only [Book.fill, Store.sumOver_put, if_pos (hp _), ih]
    omega

/-- Any part of the balances grows by at most what the sell order gave up. -/
theorem Fills.sumOver_le (h : Fills m seller sell b b') (hb : b.Ok) (hpos : b.balance.Positive)
    (p : ℕ × ℕ × Address → Prop) [DecidablePred p] :
    b'.balance.sumOver p ≤ b.balance.sumOver p + (b.remaining - b'.remaining) := by
  induction h with
  | refl => linarith
  | tail hfills hstep ih =>
    have hok := Fills.ok hfills hb
    have hnn := (Fills.balance_positive hfills hpos).amount_nonneg
    obtain ⟨oid, buy, stored, eligible, left⟩ := hstep
    have hfill := eligible.fill_pos (hok.valid _ _ stored) left
    have hbal := hnn (m, sell.outcomeIndex, buy.owner)
    simp only [Book.fill, Store.sumOver_put]
    split <;> omega

/-- Keys outside the buyers' keep their sum. -/
theorem Fills.sumOver_none (h : Fills m seller sell b b') (hb : b.Ok)
    {p : ℕ × ℕ × Address → Prop} [DecidablePred p]
    (hp : ∀ oid buy, b.order.get? (m, oid) = some buy → Matches seller sell buy →
      ¬ p (m, sell.outcomeIndex, buy.owner)) :
    b'.balance.sumOver p = b.balance.sumOver p := by
  induction h with
  | refl => rfl
  | tail hfills hstep ih =>
    obtain ⟨oid, buy, stored, eligible, -⟩ := hstep
    obtain ⟨buy₀, hstored, ⟨-, howner⟩, hmatch⟩ := Fills.order_key hfills hb stored
    have hno := hp oid buy₀ hstored (hmatch eligible)
    rw [← howner] at hno
    simp only [Book.fill, Store.sumOver_put, if_neg hno, ih, add_zero]

/-- The seller is not among the buyers. -/
theorem Fills.seller_amount (h : Fills m seller sell b b') (m' i' : ℕ) :
    b'.balance.amount (m', i', seller) = b.balance.amount (m', i', seller) := by
  induction h with
  | refl => rfl
  | tail _ hstep ih =>
    obtain ⟨oid, buy, -, eligible, -⟩ := hstep
    have hne : (m', i', seller) ≠ (m, sell.outcomeIndex, buy.owner) := by
      intro he
      simp only [Prod.mk.injEq] at he
      exact eligible.2.2.2.1 he.2.2.symm
    simp only [Book.fill, Store.amount_put, if_neg hne, ih]

end Scan

/-- Writing one balance moves the holdings of its outcome only. -/
theorem held_put (s : State τ) (m i m' i' : ℕ) (user : Address) (v : ℤ) :
    (s.outcomeBalance.put (m', i', user) v).sumOver (fun k => k.1 = m ∧ k.2.1 = i) =
      held s m i + if m' = m ∧ i' = i then max v 0 - s.outcomeBalance.amount (m', i', user)
        else 0 :=
  Store.sumOver_put _ _ _ _

theorem held_credit (hb : s.outcomeBalance.Positive) (m i m' i' : ℕ) (user : Address) {n : ℤ}
    (hn : 0 ≤ n) :
    (s.outcomeBalance.put (m', i', user) (s.outcomeBalance.amount (m', i', user) + n)).sumOver
      (fun k => k.1 = m ∧ k.2.1 = i) = held s m i + if m' = m ∧ i' = i then n else 0 :=
  hb.sumOver_credit _ _ hn

theorem held_debit (m i : ℕ) {m' i' : ℕ} {user : Address} {n : ℤ}
    (hn : n ≤ s.outcomeBalance.amount (m', i', user)) :
    (s.outcomeBalance.put (m', i', user) (s.outcomeBalance.amount (m', i', user) - n)).sumOver
      (fun k => k.1 = m ∧ k.2.1 = i) = held s m i - if m' = m ∧ i' = i then n else 0 :=
  Store.sumOver_debit _ _ _ hn

/-- Writing one pool leaves the others. -/
theorem pool_set_ne {m i m' i' : ℕ} (hk : ¬ (m' = m ∧ i' = i)) (new : OutcomePool) :
    (s.outcomePool.set (m', i') new).get? (m, i) = s.outcomePool.get? (m, i) := by
  rw [Store.get?_set_ne]
  simp only [ne_eq, Prod.mk.injEq]
  tauto

theorem reserve_set {m' i' : ℕ} {pool : OutcomePool}
    (hp : s.outcomePool.get? (m', i') = some pool) (m i : ℕ) (new : OutcomePool) :
    ((s.outcomePool.set (m', i') new).get? (m, i)).elim 0 OutcomePool.outcomeReserve =
      reserve s m i + if m' = m ∧ i' = i then new.outcomeReserve - pool.outcomeReserve else 0 := by
  by_cases hk : m' = m ∧ i' = i
  · obtain ⟨rfl, rfl⟩ := hk
    simp [reserve, hp]
  · rw [pool_set_ne hk, if_neg hk, add_zero]
    rfl

/-- Writing one counter of outstanding tokens. -/
theorem supply_set (s : State τ) (m i m' i' : ℕ) (v : ℤ) :
    (s.totalOutcomeSupply.set (m', i') v).amount (m, i) =
      s.totalOutcomeSupply.amount (m, i) +
        if m' = m ∧ i' = i then v - s.totalOutcomeSupply.amount (m', i') else 0 := by
  rw [Store.amount_set_add]
  simp only [Prod.mk.injEq]

/-- Either this is the pool that was written, or it is as before. -/
theorem pool_set {m i : ℕ} {pool : OutcomePool} (hp : s.outcomePool.get? (m, i) = some pool)
    (m' i' : ℕ) (new : OutcomePool) :
    (m' = m ∧ i' = i ∧ (s.outcomePool.set (m', i') new).get? (m, i) = some new) ∨
    (¬ (m' = m ∧ i' = i) ∧ (s.outcomePool.set (m', i') new).get? (m, i) = some pool) := by
  by_cases hk : m' = m ∧ i' = i
  · obtain ⟨rfl, rfl⟩ := hk
    exact .inl ⟨rfl, rfl, Store.get?_set_self _ _ _⟩
  · exact .inr ⟨hk, by rw [pool_set_ne hk, hp]⟩

/-- What a scan leaves unsold. -/
theorem book_remaining (ho : Orders s) {m oid : ℕ} {sell : LimitOrder} {book : Book}
    (stored : s.order.get? (m, oid) = some sell)
    (scanned : scanOrders m sell.owner sell (List.range (getOrderCounter s m))
      (Book.on ⟨s.order, s.outcomeBalance, sell.quantity - sell.filledQuantity, 0⟩ s) =
        .ok (book.on s)) :
    book.remaining = sell.quantity - sell.filledQuantity - fillable s m sell :=
  scanOrders_remaining List.nodup_range (ho.book stored) scanned

theorem fillable_nonneg (ho : Orders s) {m oid : ℕ} {sell : LimitOrder}
    (stored : s.order.get? (m, oid) = some sell) : 0 ≤ fillable s m sell :=
  le_min (ho.book stored).remaining (demand_nonneg (ho.book stored) _)

/-- The buyers get what the call fills; the seller pays everything the order
ever filled, as far as the balance reaches. -/
theorem match_held (ho : Orders s) (hpos : s.outcomeBalance.Positive) {m oid : ℕ}
    {sell : LimitOrder} {book : Book} (stored : s.order.get? (m, oid) = some sell)
    (scanned : scanOrders m sell.owner sell (List.range (getOrderCounter s m))
      (Book.on ⟨s.order, s.outcomeBalance, sell.quantity - sell.filledQuantity, 0⟩ s) =
        .ok (book.on s))
    (fills : Fills m sell.owner sell
      ⟨s.order, s.outcomeBalance, sell.quantity - sell.filledQuantity, 0⟩ book) (m' i' : ℕ) :
    (book.balance.put (m, sell.outcomeIndex, sell.owner)
      (book.balance.amount (m, sell.outcomeIndex, sell.owner) -
        (sell.quantity - book.remaining))).sumOver (fun k => k.1 = m' ∧ k.2.1 = i') =
      held s m' i' + if m = m' ∧ sell.outcomeIndex = i' then
        fillable s m sell - min (s.outcomeBalance.amount (m, sell.outcomeIndex, sell.owner))
          (sell.filledQuantity + fillable s m sell) else 0 := by
  have hrem := book_remaining ho stored scanned
  have hsold := fills.seller_amount m sell.outcomeIndex
  rw [Store.sumOver_put]
  by_cases hk : m = m' ∧ sell.outcomeIndex = i'
  · have hcredit := fills.sumOver_all (ho.book stored) hpos
      (p := fun k => k.1 = m' ∧ k.2.1 = i') (fun _ => hk)
    simp only at hsold hcredit
    rw [if_pos hk, if_pos hk, hsold, hcredit, hrem]
    simp only [held]
    omega
  · have hkeep := fills.sumOver_none (ho.book stored)
      (p := fun k => k.1 = m' ∧ k.2.1 = i') (fun _ _ _ _ => hk)
    rw [if_neg hk, if_neg hk, hkeep]
    rfl

/-- The operations that trade outcome tokens. -/
def Op.Trades : Op → Prop
  | .buyOutcome .. => True
  | .sellOutcome .. => True
  | .addLiquidity .. => True
  | .removeLiquidity .. => True
  | .placeOrder .. => True
  | .cancelOrder .. => True
  | .matchSellOrder .. => True
  | _ => False

/-- The calls that only move tokens of outcome `i` of market `m` about: any but
`add_liquidity` on that outcome, and a match that debits what it fills. -/
def Op.Conserves (s : State τ) (m i : ℕ) : Op → Prop
  | .addLiquidity _ m' i' _ _ => ¬ (m' = m ∧ i' = i)
  | .matchSellOrder seller m' oid => ∀ sell, s.order.get? (m', oid) = some sell →
      m' = m ∧ sell.outcomeIndex = i →
      (sell.filledQuantity = 0 ∧ fillable s m sell ≤ s.outcomeBalance.amount (m, i, seller)) ∨
        fillable s m sell = s.outcomeBalance.amount (m, i, seller)
  | _ => True

theorem outcome_tokens_conserved_iff (hs : Reachable tok self s) {env : Env} {op : Op}
    (hop : op.Trades) (h : invoke tok self env op s = .ok s') (m i : ℕ) :
    held s' m i + reserve s' m i = held s m i + reserve s m i ↔ op.Conserves s m i := by
  have hb := hs.balances
  have heff : Effect tok self s (.call env op) s' := next_effect h
  cases heff with
  | buyOutcome _ buyer m' i' _ _ _ _ _ pool _ _ _ _ _ pooled _ _ _ _ out_pos =>
    simp only [held, reserve, held_credit hb _ _ _ _ _ out_pos.le, reserve_set pooled,
      Op.Conserves, iff_true]
    split <;> omega
  | sellOutcome _ seller m' i' _ _ _ _ pool _ _ _ _ _ pooled _ covered =>
    simp only [held, reserve, held_debit _ _ covered, reserve_set pooled, Op.Conserves, iff_true]
    split <;> omega
  | addLiquidity _ _ m' i' _ _ _ _ pool _ _ _ _ pooled positive =>
    simp only [held, reserve, reserve_set pooled, Op.Conserves]
    split <;> omega
  | removeLiquidity _ provider m' i' x _ pool _ _ pooled positive _ supplied =>
    have hout := (hs.sound pooled).outcomeFor_nonneg supplied positive.le
    simp only [held, reserve, held_credit hb _ _ _ _ _ hout, reserve_set pooled, Op.Conserves,
      iff_true]
    split <;> omega
  | matchSellOrder _ m' oid sell book _ stored _ _ scanned fills =>
    have hmatch := match_held hs.orders hb stored scanned fills m i
    have hfilled := (hs.orders.valid _ _ stored).filled
    simp only [held, reserve, Op.Conserves, stored, Option.some.injEq, forall_eq'] at hmatch ⊢
    rw [hmatch]
    by_cases hk : m' = m ∧ sell.outcomeIndex = i
    · obtain ⟨rfl, rfl⟩ := hk
      simp only [and_self, if_true, true_implies]
      omega
    · simp [hk]
  | placeOrder => simp [held, reserve, Op.Conserves]
  | cancelOrder => simp [held, reserve, Op.Conserves]
  | _ => exact False.elim hop

section Runs

open Sample

/-- Bob sells into carol's orders, ten tokens at a time. -/
def partialMatches : List (Action Balances) := [
  call (.createMarket alice (params 100 1000 30)),
  call (.buyOutcome bob 0 0 100 0),
  call (.placeOrder bob 0 0 .sell (10 ^ 17) 40),
  call (.placeOrder carol 0 0 .buy (10 ^ 17) 10),
  call (.matchSellOrder bob 0 0),
  call (.placeOrder carol 0 0 .buy (10 ^ 17) 10)]

/-- The first match of an order moves ten tokens and makes none. -/
theorem outcome_tokens_conserved_first_match : ∃ s s' : State Balances,
    Reachable asset contract s ∧
    invoke asset contract (env 0) (.matchSellOrder bob 0 0) s = .ok s' ∧
    held s' 0 0 + reserve s' 0 0 = held s 0 0 + reserve s 0 0 ∧
    (Op.matchSellOrder bob 0 0).Conserves s 0 0 := by
  have h : After (fun s => After (fun s' => held s' 0 0 + reserve s' 0 0 =
      held s 0 0 + reserve s 0 0) (next asset contract (call (.matchSellOrder bob 0 0)) s))
      (run (partialMatches.take 4)) := by
    decide +kernel
  obtain ⟨s, s', hs, hstep, heq⟩ := run_then h
  have htrade : (Op.matchSellOrder bob 0 0).Trades := trivial
  exact ⟨s, s', hs, hstep, heq, (outcome_tokens_conserved_iff hs htrade hstep 0 0).mp heq⟩

/-- Adding liquidity creates tokens, and the second match of one sell order
burns the ten tokens of the first match again. -/
theorem outcome_tokens_not_conserved :
    (∃ s s' : State Balances, Reachable asset contract s ∧
      invoke asset contract (env 0) (.addLiquidity bob 0 0 100 100) s = .ok s' ∧
      held s' 0 0 + reserve s' 0 0 ≠ held s 0 0 + reserve s 0 0) ∧
    (∃ s s' : State Balances, Reachable asset contract s ∧
      invoke asset contract (env 0) (.matchSellOrder bob 0 0) s = .ok s' ∧
      held s' 0 0 + reserve s' 0 0 = held s 0 0 + reserve s 0 0 - 10) := by
  constructor
  · have h : After (fun s => After (fun s' => held s' 0 0 + reserve s' 0 0 ≠
        held s 0 0 + reserve s 0 0)
        (next asset contract (call (.addLiquidity bob 0 0 100 100)) s))
        (run (partialMatches.take 1)) := by
      decide +kernel
    exact run_then h
  · have h : After (fun s => After (fun s' => held s' 0 0 + reserve s' 0 0 =
        held s 0 0 + reserve s 0 0 - 10)
        (next asset contract (call (.matchSellOrder bob 0 0)) s)) (run partialMatches) := by
      decide +kernel
    exact run_then h

end Runs

end PredictionMarket
