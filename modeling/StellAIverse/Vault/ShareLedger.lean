import StellAIverse.Vault.Effects

/-!
# The share ledger

Shares are with users, or in the queue after `queue_withdrawal` has taken them
from a user and before `process_withdrawal_queue` has burned them. The total
supply counts both.
-/

namespace Vault

open Soroban

variable {τ : Type} {tok : Token τ} {self : Address} {s s' : State τ} {a : Action τ}

/-- Reached from empty storage by invocations that `ok` admits. -/
def ReachableVia (tok : Token τ) (self : Address) (ok : State τ → Action τ → Prop)
    (s : State τ) : Prop :=
  ∃ tokens, Steps (next tok self) ok (deployed tokens) s

def Reachable (tok : Token τ) (self : Address) (s : State τ) : Prop :=
  ReachableVia tok self (fun _ _ => True) s

/-- Shares users hold. -/
def userShares (s : State τ) : ℤ := s.userDeposit.total fun _ record => record.shares

/-- Shares a queue item still stands for. -/
def WithdrawalQueueItem.pending (item : WithdrawalQueueItem) : ℤ :=
  if item.processed then 0 else item.shares

theorem WithdrawalQueueItem.pending_eq (item : WithdrawalQueueItem) (h : item.processed = false) :
    item.pending = item.shares := by
  simp [pending, h]

def queuedShares (s : State τ) : ℤ :=
  s.withdrawalQueueItem.total fun _ item => item.pending

structure ShareLedger (s : State τ) : Prop where
  supply : s.totalSupply = userShares s + queuedShares s
  users : ∀ user record, s.userDeposit.get? user = some record → 0 ≤ record.shares
  queued : ∀ id item, s.withdrawalQueueItem.get? id = some item →
    0 < item.shares ∧ item.requestId = id
  ids : s.withdrawalQueueIds = List.range' 1 s.withdrawalQueueCounter
  stored : ∀ id, (∃ item, s.withdrawalQueueItem.get? id = some item) ↔
    1 ≤ id ∧ id ≤ s.withdrawalQueueCounter

/-- Nothing is recorded before `initialize`. -/
structure Untouched (s : State τ) : Prop where
  token : s.admin = none → s.token = none
  users : s.token = none → ∀ user, s.userDeposit.get? user = none
  queue : s.token = none → s.withdrawalQueueCounter = 0

theorem userShares_set (s : State τ) (user : Address) (record : VaultUserDeposit) :
    (s.userDeposit.set user record).total (fun _ record => record.shares) =
      userShares s - (loadUserDeposit s user).shares + record.shares := by
  have hw : s.userDeposit.weight (fun _ record => record.shares) user =
      (loadUserDeposit s user).shares := by
    unfold Store.weight loadUserDeposit
    cases s.userDeposit.get? user <;> rfl
  rw [Store.total_set, hw]
  rfl

theorem ShareLedger.load_nonneg (h : ShareLedger s) (user : Address) :
    0 ≤ (loadUserDeposit s user).shares := by
  unfold loadUserDeposit
  cases hk : s.userDeposit.get? user with
  | none => exact le_rfl
  | some record => exact h.users user record hk

theorem sharesFor_nonneg {amount A S : ℤ} (h : 0 < amount) : 0 ≤ sharesFor amount A S := by
  unfold sharesFor
  split
  · exact h.le
  · exact Int.tdiv_nonneg (mul_nonneg h.le (by omega)) (by omega)

theorem untouched_step (hu : Untouched s) (h : Effect tok self s a s') : Untouched s' := by
  have none_of : ∀ {token : Address}, s.token = some token → s.token = none → False := by
    intro token hs hn
    rw [hn] at hs
    cases hs
  cases h with
  | initializeContract => exact ⟨by simp, by simp, by simp⟩
  | deposit _ _ _ _ _ _ _ _ _ asset =>
    exact ⟨hu.token, fun hn => (none_of asset hn).elim, hu.queue⟩
  | withdraw _ _ _ _ _ _ _ _ _ _ _ _ asset =>
    exact ⟨hu.token, fun hn => (none_of asset hn).elim, hu.queue⟩
  | emergencyWithdraw _ _ _ _ _ _ _ _ _ _ asset =>
    exact ⟨hu.token, fun hn => (none_of asset hn).elim, hu.queue⟩
  | queueWithdrawal _ user _ _ positive owned =>
    have hsome : s.token = none → False := by
      intro hn
      have hzero : (loadUserDeposit s user).shares = 0 := by
        simp [loadUserDeposit, hu.users hn user]
      omega
    exact ⟨hu.token, fun hn => (hsome hn).elim, fun hn => (hsome hn).elim⟩
  | emergencyStrategyWithdrawal =>
    split
    · exact hu
    · exact ⟨hu.token, hu.users, hu.queue⟩
  | _ => exact ⟨hu.token, hu.users, hu.queue⟩

/-- An empty ledger. -/
theorem ShareLedger.of_empty (hsupply : s.totalSupply = 0)
    (husers : ∀ user, s.userDeposit.get? user = none)
    (hqueue : ∀ id, s.withdrawalQueueItem.get? id = none) (hids : s.withdrawalQueueIds = [])
    (hcount : s.withdrawalQueueCounter = 0) : ShareLedger s where
  supply := by
    have hu : userShares s = 0 := Store.total_eq_zero fun user _ hk => by simp [husers] at hk
    have hq : queuedShares s = 0 := Store.total_eq_zero fun id _ hk => by simp [hqueue] at hk
    rw [hsupply, hu, hq]
    rfl
  users user record hk := by simp [husers] at hk
  queued id item hk := by simp [hqueue] at hk
  ids := by simp [hids, hcount]
  stored id := by
    simp only [hqueue, hcount, reduceCtorEq, exists_false, false_iff]
    omega

/-- A user's record and the supply change by the same number of shares. -/
theorem ShareLedger.write (hl : ShareLedger s) {user : Address} {record : VaultUserDeposit}
    (hr : 0 ≤ record.shares)
    (hsupply : s'.totalSupply = s.totalSupply + (record.shares - (loadUserDeposit s user).shares))
    (husers : s'.userDeposit = s.userDeposit.set user record)
    (hitems : s'.withdrawalQueueItem = s.withdrawalQueueItem)
    (hids : s'.withdrawalQueueIds = s.withdrawalQueueIds)
    (hcount : s'.withdrawalQueueCounter = s.withdrawalQueueCounter) : ShareLedger s' where
  supply := by
    have hqueue : queuedShares s' = queuedShares s := by rw [queuedShares, hitems]; rfl
    have hold := hl.supply
    rw [hqueue, userShares, husers, userShares_set]
    omega
  users := by
    rw [husers]
    exact Store.forall_set hl.users hr
  queued := by
    rw [hitems]
    exact hl.queued
  ids := by
    rw [hids, hcount]
    exact hl.ids
  stored := by
    rw [hitems, hcount]
    exact hl.stored

/-- Shares go from a user to a new item at the end of the queue. -/
theorem ShareLedger.push (hl : ShareLedger s) {user : Address} {record : VaultUserDeposit}
    {item : WithdrawalQueueItem} (hr : 0 ≤ record.shares) (hpos : 0 < item.shares)
    (hid : item.requestId = s.withdrawalQueueCounter + 1) (hp : item.processed = false)
    (hmoved : record.shares = (loadUserDeposit s user).shares - item.shares) :
    ShareLedger { s with
      userDeposit := s.userDeposit.set user record
      withdrawalQueueCounter := s.withdrawalQueueCounter + 1
      withdrawalQueueItem := s.withdrawalQueueItem.set (s.withdrawalQueueCounter + 1) item
      withdrawalQueueIds := s.withdrawalQueueIds ++ [s.withdrawalQueueCounter + 1] } := by
  have hfresh : s.withdrawalQueueItem.get? (s.withdrawalQueueCounter + 1) = none := by
    cases hk : s.withdrawalQueueItem.get? (s.withdrawalQueueCounter + 1) with
    | none => rfl
    | some item =>
      have := (hl.stored _).mp ⟨item, hk⟩
      omega
  have hpending := item.pending_eq hp
  refine ⟨?_, Store.forall_set hl.users hr, Store.forall_set hl.queued ⟨hpos, hid⟩, ?_, ?_⟩
  · have hold := hl.supply
    rw [queuedShares] at hold ⊢
    rw [userShares, userShares_set, Store.total_set, Store.weight_none hfresh]
    simp only
    omega
  · simp only [hl.ids]
    rw [List.range'_concat, Nat.one_mul, Nat.add_comm 1]
  · intro id
    simp only [Store.get?_set]
    by_cases he : id = s.withdrawalQueueCounter + 1
    · simp [he]
    · simp only [he, if_false]
      rw [hl.stored]
      omega

/-- The shares of a queued item leave the supply. -/
theorem ShareLedger.finish (hl : ShareLedger s) {id : ℕ} {item : WithdrawalQueueItem}
    (hk : s.withdrawalQueueItem.get? id = some item) (hp : item.processed = false)
    (hsupply : s'.totalSupply = s.totalSupply - item.shares)
    (husers : s'.userDeposit = s.userDeposit)
    (hitems : s'.withdrawalQueueItem =
      s.withdrawalQueueItem.set id { item with processed := true })
    (hids : s'.withdrawalQueueIds = s.withdrawalQueueIds)
    (hcount : s'.withdrawalQueueCounter = s.withdrawalQueueCounter) : ShareLedger s' := by
  refine ⟨?_, by rw [husers]; exact hl.users, ?_, by rw [hids, hcount]; exact hl.ids, ?_⟩
  · have hold := hl.supply
    have hpending := item.pending_eq hp
    have hdone : ({ item with processed := true } : WithdrawalQueueItem).pending = 0 := rfl
    rw [queuedShares] at hold ⊢
    rw [userShares, husers, hitems, Store.total_set, Store.weight_some hk, hpending, hdone]
    rw [userShares] at hold
    omega
  · rw [hitems]
    exact Store.forall_set hl.queued (hl.queued id item hk)
  · intro id'
    rw [hitems, hcount, ← hl.stored, Store.get?_set]
    by_cases he : id' = id
    · simp [he, hk]
    · simp only [he, if_false]

theorem shareLedger_step (hu : Untouched s) (hl : ShareLedger s) (h : Effect tok self s a s') :
    ShareLedger s' := by
  cases h with
  | initializeContract _ _ _ fresh =>
    have htoken := hu.token fresh
    refine .of_empty rfl (hu.users htoken) ?_ rfl rfl
    intro id
    cases hk : s.withdrawalQueueItem.get? id with
    | none => rfl
    | some item =>
      have := (hl.stored id).mp ⟨item, hk⟩
      have := hu.queue htoken
      omega
  | deposit env user _ amount shares _ _ positive minted =>
    have hnn : 0 ≤ shares := by
      rw [minted]
      exact sharesFor_nonneg positive
    have hload := hl.load_nonneg user
    refine hl.write ?_ ?_ rfl rfl rfl rfl
    · simp only [VaultUserDeposit.credited]
      omega
    · simp only [VaultUserDeposit.credited]
      omega
  | withdraw env user _ shares _ _ _ positive owned =>
    refine hl.write ?_ ?_ rfl rfl rfl rfl
    · simp only [VaultUserDeposit.debited]
      omega
    · simp only [burned, VaultUserDeposit.debited]
      omega
  | emergencyWithdraw env user _ shares _ _ all =>
    refine hl.write ?_ ?_ rfl rfl rfl rfl
    · simp only [VaultUserDeposit.debited]
      omega
    · simp only [burned, VaultUserDeposit.debited]
      omega
  | queueWithdrawal env user shares estimated positive owned =>
    exact hl.push (by simp only; omega) positive rfl rfl rfl
  | processWithdrawalQueue env id _ _ item _ stored pending =>
    exact hl.finish stored pending rfl rfl rfl rfl rfl
  | emergencyStrategyWithdrawal =>
    split
    · exact hl
    · exact ⟨hl.supply, hl.users, hl.queued, hl.ids, hl.stored⟩
  | _ => exact ⟨hl.supply, hl.users, hl.queued, hl.ids, hl.stored⟩

/-- Both totals are 128-bit integers. -/
structure Ranged (s : State τ) : Prop where
  assets : I128.InRange s.totalAssets
  supply : s.totalSupply ≤ I128.max

theorem ranged_step (hl : ShareLedger s) (hr : Ranged s) (h : Effect tok self s a s') :
    Ranged s' := by
  obtain ⟨hassets, hsupply⟩ := hr
  cases h with
  | initializeContract => exact ⟨I128.inRange_zero, I128.inRange_zero.2⟩
  | deposit _ _ _ _ _ _ _ _ _ _ _ fits => exact ⟨fits.1, fits.2.2⟩
  | withdraw _ _ _ shares _ _ _ positive _ _ _ _ _ _ _ fits =>
    refine ⟨fits, ?_⟩
    simp only [burned]
    omega
  | emergencyWithdraw _ _ _ shares _ _ _ positive _ _ _ _ _ fits =>
    refine ⟨fits, ?_⟩
    simp only [burned]
    omega
  | governanceWithdraw _ _ _ _ amount _ _ positive covered =>
    refine ⟨⟨?_, ?_⟩, hsupply⟩
    · have := I128.inRange_zero.1
      simp only
      omega
    · have := hassets.2
      simp only
      omega
  | harvestStrategy _ _ _ _ _ _ _ _ _ _ fits => exact ⟨fits hassets, hsupply⟩
  | processWithdrawalQueue _ id _ _ item _ stored _ _ _ _ _ fits =>
    have := (hl.queued id item stored).1
    refine ⟨fits, ?_⟩
    simp only [burned]
    omega
  | emergencyStrategyWithdrawal =>
    split
    · exact ⟨hassets, hsupply⟩
    · exact ⟨hassets, hsupply⟩
  | _ => exact ⟨hassets, hsupply⟩

theorem Reachable.ledger (hs : Reachable tok self s) : ShareLedger s ∧ Ranged s := by
  obtain ⟨tokens, hrun⟩ := hs
  have hall : Untouched s ∧ ShareLedger s ∧ Ranged s := by
    refine Steps.preserves (P := fun s => Untouched s ∧ ShareLedger s ∧ Ranged s) ?_ hrun
      ⟨?_, ?_, ?_⟩
    · rintro s a s' - hn ⟨hu, hl, hr⟩
      have heff := next_effect hn
      exact ⟨untouched_step hu heff, shareLedger_step hu hl heff, ranged_step hl hr heff⟩
    · exact ⟨fun _ => rfl, fun _ _ => rfl, fun _ => rfl⟩
    · exact .of_empty rfl (fun _ => rfl) (fun _ => rfl) rfl rfl
    · exact ⟨I128.inRange_zero, I128.inRange_zero.2⟩
  exact hall.2

theorem WithdrawalQueueItem.pending_nonneg {item : WithdrawalQueueItem} (h : 0 ≤ item.shares) :
    0 ≤ item.pending := by
  unfold pending
  split
  · exact le_rfl
  · exact h

theorem ShareLedger.userShares_nonneg (h : ShareLedger s) : 0 ≤ userShares s :=
  Store.total_nonneg h.users

theorem ShareLedger.queuedShares_nonneg (h : ShareLedger s) : 0 ≤ queuedShares s :=
  Store.total_nonneg fun id item hk => WithdrawalQueueItem.pending_nonneg (h.queued id item hk).1.le

/-- The supply covers every item that is still in the queue. -/
theorem ShareLedger.covers (h : ShareLedger s) {id : ℕ} {item : WithdrawalQueueItem}
    (hk : s.withdrawalQueueItem.get? id = some item) (hp : item.processed = false) :
    0 < item.shares ∧ item.shares ≤ s.totalSupply := by
  have hle := Store.weight_le_total id fun id' item' hk' =>
    WithdrawalQueueItem.pending_nonneg (h.queued id' item' hk').1.le
  rw [Store.weight_some hk] at hle
  change item.pending ≤ queuedShares s at hle
  have hpending := item.pending_eq hp
  have husers := h.userShares_nonneg
  have hsupply := h.supply
  exact ⟨(h.queued id item hk).1, by omega⟩

/-- A part of the assets stays in range when it is taken away. -/
theorem assetsFor_inRange {shares A S : ℤ} (h0 : 0 ≤ shares) (hS : shares ≤ S) (hpos : 0 < S)
    (hA : I128.InRange A) : I128.InRange (A - assetsFor shares A S) := by
  have part : ∀ {B : ℤ}, 0 ≤ B → 0 ≤ assetsFor shares B S ∧ assetsFor shares B S ≤ B := by
    intro B hB
    have hprod := mul_nonneg h0 hB
    refine ⟨Int.tdiv_nonneg hprod hpos.le, ?_⟩
    have hfloor := I128.tdiv_mul_le hprod hpos
    have hshare : shares * B ≤ B * S := by
      rw [mul_comm B]
      exact mul_le_mul_of_nonneg_right hS hB
    exact le_of_mul_le_mul_right (hfloor.trans hshare) hpos
  obtain ⟨hmin, hmax⟩ := hA
  obtain ⟨hmin0, hmax0⟩ := I128.inRange_zero
  rcases le_total 0 A with hnn | hneg
  · have := part hnn
    exact ⟨by omega, by omega⟩
  · have := part (neg_nonneg.mpr hneg)
    have hflip : assetsFor shares (-A) S = -assetsFor shares A S := by
      unfold assetsFor
      rw [mul_neg, Int.neg_tdiv]
    exact ⟨by omega, by omega⟩

theorem calculateAssetsForWithdrawal_ok {shares A S assets : ℤ}
    (h : calculateAssetsForWithdrawal shares A S = .ok assets) : assets = assetsFor shares A S := by
  unfold calculateAssetsForWithdrawal at h
  rw [I128.checked_bind, I128.div_ok] at h
  exact h.2.2.2.symm

theorem calculateAssetsForWithdrawal_avoids {e : Fault} {shares A S : ℤ} (hS : S ≠ 0)
    (he : e ≠ .panic "Overflow" ∧ e ≠ .overflow) :
    Avoids e (calculateAssetsForWithdrawal shares A S) :=
  (I128.checked_avoids he.1).bind fun _ _ => I128.div_avoids hS he.2

theorem transferToken_avoids {e : Fault} {token source target : Address} {amount : ℤ}
    (he : ¬ (e = .panic "Reentrant call blocked" ∨ e = .panic "Transfer amount must be positive" ∨
      e = .callFailed)) : Avoids e (transferToken tok s token source target amount) := by
  push Not at he
  refine (panicIf_avoids he.1).bind fun _ _ => Avoids.bind ?_ fun _ _ => avoids_ok _
  refine (panicIf_avoids he.2.1).bind fun _ _ => Avoids.bind ?_ fun _ _ => avoids_ok _
  exact tok.pay_avoids he.2.2

/-- The conversion in `process_withdrawal_queue` has a divisor, and both
subtractions stay in range. -/
theorem processWithdrawalQueue_avoids {e : Fault} (hl : ShareLedger s) (hr : Ranged s) {id : ℕ}
    {item : WithdrawalQueueItem} (hk : s.withdrawalQueueItem.get? id = some item)
    (hp : item.processed = false) (he : e = .divisionByZero ∨ e = .panic "Underflow") :
    Avoids e (processWithdrawalQueue tok self id s) := by
  obtain ⟨hpos, hcover⟩ := hl.covers hk hp
  have hassets : I128.InRange (s.totalAssets - assetsFor item.shares s.totalAssets s.totalSupply) :=
    assetsFor_inRange hpos.le hcover (by omega) hr.assets
  have hsupply : I128.InRange (s.totalSupply - item.shares) := by
    have := hr.supply
    have := I128.inRange_zero.1
    exact ⟨by omega, by omega⟩
  have other : ∀ {message : String}, message ≠ "Underflow" → e ≠ .panic message := by
    rintro message hm rfl
    simp_all
  unfold processWithdrawalQueue
  refine (expect_avoids (other (by decide))).bind fun item' hitem => ?_
  rw [hk] at hitem
  cases hitem
  refine (panicIf_avoids (other (by decide))).bind fun _ _ => ?_
  refine (calculateAssetsForWithdrawal_avoids (by omega) ⟨other (by decide), ?_⟩).bind
    fun assets ha => ?_
  · rintro rfl
    simp at he
  obtain rfl := calculateAssetsForWithdrawal_ok ha
  refine (I128.checked_avoids_of_inRange hsupply).bind fun _ _ => ?_
  refine (I128.checked_avoids_of_inRange hassets).bind fun _ _ => ?_
  refine (I128.checked_avoids (other (by decide))).bind fun _ _ => ?_
  refine (expect_avoids (other (by decide))).bind fun token _ => ?_
  exact (transferToken_avoids (by
    rintro (rfl | rfl | rfl) <;> simp at he)).bind fun _ _ => avoids_ok _

/-- The supply is what users and the queue hold, the queue is numbered from one
without gaps, and so processing a queued item neither divides by zero nor
underflows. -/
theorem share_ledger (hs : Reachable tok self s) :
    s.totalSupply = userShares s + queuedShares s ∧ 0 ≤ s.totalSupply ∧
    (∀ user, 0 ≤ (loadUserDeposit s user).shares) ∧
    (∀ id item, s.withdrawalQueueItem.get? id = some item → 0 ≤ item.shares) ∧
    s.withdrawalQueueIds = List.range' 1 s.withdrawalQueueCounter ∧
    (∀ id, id ∈ s.withdrawalQueueIds ↔
      ∃ item, s.withdrawalQueueItem.get? id = some item ∧ item.requestId = id) ∧
    ∀ id item, s.withdrawalQueueItem.get? id = some item → item.processed = false →
      s.totalSupply ≠ 0 ∧ 0 ≤ s.totalSupply - item.shares ∧
      processWithdrawalQueue tok self id s ≠ .error .divisionByZero ∧
      processWithdrawalQueue tok self id s ≠ .error (.panic "Underflow") := by
  obtain ⟨hl, hr⟩ := hs.ledger
  have husers := hl.userShares_nonneg
  have hqueued := hl.queuedShares_nonneg
  have hsupply := hl.supply
  refine ⟨hsupply, by omega, hl.load_nonneg, fun id item hk => (hl.queued id item hk).1.le, hl.ids,
    fun id => ?_, fun id item hk hp => ?_⟩
  · rw [hl.ids, List.mem_range'_1]
    have hstored := hl.stored id
    constructor
    · intro hid
      obtain ⟨item, hk⟩ := hstored.mpr ⟨hid.1, by omega⟩
      exact ⟨item, hk, (hl.queued id item hk).2⟩
    · rintro ⟨item, hk, -⟩
      have := hstored.mp ⟨item, hk⟩
      omega
  · have hcover := hl.covers hk hp
    exact ⟨by omega, by omega, processWithdrawalQueue_avoids hl hr hk hp (.inl rfl),
      processWithdrawalQueue_avoids hl hr hk hp (.inr rfl)⟩

namespace Sample

def contract : Address := ⟨0⟩

def admin : Address := ⟨1⟩

def usdc : Address := ⟨2⟩

def alice : Address := ⟨3⟩

def env : Env := ⟨0, fun _ => true⟩

def start : State Balances := deployed (Balances.issue [(usdc, alice, 10 ^ 6)])

def run (calls : List Op) : Result (State Balances) :=
  execute (next asset contract) (calls.map (.call env)) start

theorem run_reachable {calls : List Op} {s : State Balances} (h : run calls = .ok s) :
    Reachable asset contract s :=
  ⟨_, execute_steps _ (fun _ _ _ => trivial) h⟩

end Sample

open Sample in
/-- A deposit of which two fifths are queued: the queued shares are still part
of the supply, and the item can be processed. -/
theorem share_ledger_one_queued :
    ∃ s item, run [.initializeContract admin usdc, .deposit alice 5000,
        .queueWithdrawal alice 2000] = .ok s ∧
      s.withdrawalQueueItem.get? 1 = some item ∧ item.processed = false ∧
      userShares s = 3000 ∧ queuedShares s = 2000 ∧ s.totalSupply = 3000 + 2000 ∧
      processWithdrawalQueue asset contract 1 s ≠ .error .divisionByZero := by
  have hafter : After (fun s => (∃ item ∈ s.withdrawalQueueItem.get? 1, item.processed = false) ∧
      userShares s = 3000 ∧ queuedShares s = 2000)
      (run [.initializeContract admin usdc, .deposit alice 5000, .queueWithdrawal alice 2000]) := by
    decide +kernel
  obtain ⟨s, hs, ⟨item, hk, hp⟩, hu, hq⟩ := hafter.exists_ok
  obtain ⟨hsupply, -, -, -, -, -, hprocess⟩ := share_ledger (run_reachable hs)
  exact ⟨s, item, hs, hk, hp, hu, hq, by rw [hsupply, hu, hq], (hprocess 1 item hk hp).2.2.1⟩

end Vault
