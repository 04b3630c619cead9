import StellAIverse.CrossChainBridge.Completion

/-!
# Fees and locked funds

The fees of every token and of both mechanisms go into one counter, and the
counter is paid out in whatever token a collection names. As long as a collection
names the token that all the fees since the last one were locked in, what is
collected was charged in that token and what is locked stays there.
-/

namespace CrossChainBridge

open Soroban

variable {τ : Type} {tok : MintToken τ} {host : Host} {self : Address} {s s' : State τ}
  {a : Action τ} {log : List (State τ × Action τ)}

/-- A transfer that locked this token. -/
def BridgeTransfer.Locks (t : Address) (transfer : BridgeTransfer) : Prop :=
  transfer.direction = .lockAndMint ∧ transfer.tokenAddress = t

instance (t : Address) (transfer : BridgeTransfer) : Decidable (transfer.Locks t) :=
  inferInstanceAs (Decidable (_ ∧ _))

/-- What the transfers of a kind were charged. -/
def fees (p : ℕ → BridgeTransfer → Prop) [∀ id, DecidablePred (p id)] (s : State τ) : ℤ :=
  s.transfer.total fun id transfer => if p id transfer then transfer.fee else 0

/-- The fees charged on transfers that locked the token. -/
def lockFees (t : Address) (s : State τ) : ℤ := fees (fun _ transfer => transfer.Locks t) s

/-- The amounts locked in the token by transfers that are not completed. -/
def lockedAmount (t : Address) (s : State τ) : ℤ :=
  s.transfer.total fun _ transfer =>
    if transfer.Locks t ∧ transfer.status = .locked then transfer.amount else 0

section Sums

variable {p q : ℕ → BridgeTransfer → Prop} [∀ id, DecidablePred (p id)]
  [∀ id, DecidablePred (q id)]

theorem fees_congr
    (h : ∀ id transfer, s.transfer.get? id = some transfer → (p id transfer ↔ q id transfer)) :
    fees p s = fees q s := by
  apply Store.total_congr
  intro id transfer hfound
  simp only [h id transfer hfound]

theorem fees_eq_zero (h : ∀ id transfer, s.transfer.get? id = some transfer → ¬ p id transfer) :
    fees p s = 0 :=
  Store.total_eq_zero fun id transfer hfound => if_neg (h id transfer hfound)

theorem fees_nonneg (h : ∀ id transfer, s.transfer.get? id = some transfer → 0 ≤ transfer.fee) :
    0 ≤ fees p s := by
  apply Store.total_nonneg
  intro id transfer hfound
  have hfee := h id transfer hfound
  split
  · exact hfee
  · exact le_refl _

theorem fees_le (h : ∀ id transfer, s.transfer.get? id = some transfer → 0 ≤ transfer.fee)
    (hpq : ∀ id transfer, p id transfer → q id transfer) : fees p s ≤ fees q s := by
  apply Store.total_le_total
  intro id transfer hfound
  have hfee := h id transfer hfound
  by_cases hp : p id transfer
  · rw [if_pos hp, if_pos (hpq id transfer hp)]
  · rw [if_neg hp]
    split
    · exact hfee
    · exact le_refl _

/-- Split the fees by a second condition. -/
theorem fees_split (p q : ℕ → BridgeTransfer → Prop) [∀ id, DecidablePred (p id)]
    [∀ id, DecidablePred (q id)] (s : State τ) :
    fees p s = fees (fun id transfer => p id transfer ∧ q id transfer) s +
      fees (fun id transfer => p id transfer ∧ ¬ q id transfer) s := by
  unfold fees
  rw [← Store.total_add]
  apply Store.total_congr
  intro id transfer _
  by_cases hp : p id transfer <;> by_cases hq : q id transfer <;> simp [hp, hq]

end Sums

theorem feeOf_nonneg {config : FeeConfig} {amount fee : ℤ} (hamount : 0 ≤ amount)
    (h : feeOf config amount = .ok fee) : 0 ≤ fee := by
  unfold feeOf at h
  obtain ⟨-, h⟩ := I128.mul_bind.mp h
  obtain ⟨-, -, h⟩ := I128.div_bind.mp h
  cases h
  have hshare : 0 ≤ (amount * (config.basisPoints : ℤ)).tdiv 10000 :=
    Int.tdiv_nonneg (mul_nonneg hamount (Int.natCast_nonneg _)) (by decide)
  exact hshare.trans (le_max_left _ _)

/-- What a collection paid in the token. -/
def payout (t : Address) (e : State τ × Action τ) : ℤ :=
  match e.2 with
  | .call _ (.collectFees t') => if t' = t then max (e.1.totalFees.getD 0) 0 else 0
  | _ => 0

/-- What was collected in the token in all. -/
def collected (t : Address) (log : List (State τ × Action τ)) : ℤ := (log.map (payout t)).sum

/-- The last transfer whose fee was collected. -/
def settled : List (State τ × Action τ) → ℕ
  | [] => 0
  | (s, .call _ (.collectFees _)) :: log =>
    if 0 < s.totalFees.getD 0 then s.transferCounter.getD 0 else settled log
  | _ :: log => settled log

/-- The fees charged since the last collection on anything but transfers that locked the token. -/
def strayFees (t : Address) (log : List (State τ × Action τ)) (s : State τ) : ℤ :=
  fees (fun id transfer => settled log < id ∧ ¬ transfer.Locks t) s

/-- A collection of fees that were all locked in the token it names. -/
def Action.CollectsOwn (log : List (State τ × Action τ)) (s : State τ) : Action τ → Prop
  | .call _ (.collectFees t) => 0 < s.totalFees.getD 0 → strayFees t log s = 0
  | _ => True

instance (log : List (State τ × Action τ)) (s : State τ) : DecidablePred (Action.CollectsOwn log s)
  | .call _ (.collectFees _) => inferInstanceAs (Decidable (_ → _))
  | .call _ (.initializeContract _ _ _ _ _) => .isTrue trivial
  | .call _ (.addValidator _ _ _) => .isTrue trivial
  | .call _ (.removeValidator _) => .isTrue trivial
  | .call _ (.addSupportedToken _ _ _ _ _ _) => .isTrue trivial
  | .call _ (.initiateTransfer _ _ _ _ _ _) => .isTrue trivial
  | .call _ (.completeTransfer _ _) => .isTrue trivial
  | .call _ .pauseBridge => .isTrue trivial
  | .call _ .unpauseBridge => .isTrue trivial
  | .transfers _ => .isTrue trivial

/-- Senders, and the collector of the fees. -/
def Op.parties : Op → List Address
  | .initializeContract _ _ _ feeConfig _ => [feeConfig.feeCollector]
  | .initiateTransfer _ _ _ _ _ sender => [sender]
  | _ => []

/-- The bridge is no party to its own calls, and transfers elsewhere do not spend what it has. -/
def Action.Outside (tok : MintToken τ) (self : Address) (s : State τ) : Action τ → Prop
  | .call _ op => self ∉ op.parties
  | .transfers tokens => ∀ t, tok.balance s.tokens t self ≤ tok.balance tokens t self

/-- The counter holds the fees since the last collection, those before were collected in their own
token, and what is locked is there together with the fees not collected yet. -/
structure Kept (tok : MintToken τ) (holder : Address) (log : List (State τ × Action τ))
    (s : State τ) : Prop where
  stored : ∀ id transfer, s.transfer.get? id = some transfer →
    id ≤ s.transferCounter.getD 0 ∧ 0 ≤ transfer.fee
  settled_le : settled log ≤ s.transferCounter.getD 0
  pending : s.totalFees.getD 0 = fees (fun id _ => settled log < id) s
  paid : ∀ t, collected t log = fees (fun id transfer => id ≤ settled log ∧ transfer.Locks t) s
  backed : ∀ t, lockedAmount t s +
    fees (fun id transfer => settled log < id ∧ transfer.Locks t) s ≤ tok.balance s.tokens t holder

theorem Kept.fee_nonneg (h : Kept tok self log s) (id : ℕ) (transfer : BridgeTransfer)
    (hfound : s.transfer.get? id = some transfer) : 0 ≤ transfer.fee :=
  (h.stored id transfer hfound).2

/-- An invocation that accepts no transfer and collects nothing. -/
theorem Kept.later (h : Kept tok self log s) (hsettled : settled ((s, a) :: log) = settled log)
    (hpayout : ∀ t, payout t (s, a) = 0) (htransfer : s'.transfer = s.transfer)
    (hcounter : s'.transferCounter.getD 0 = s.transferCounter.getD 0)
    (hfees : s'.totalFees.getD 0 = s.totalFees.getD 0)
    (hbalance : ∀ t, tok.balance s.tokens t self ≤ tok.balance s'.tokens t self) :
    Kept tok self ((s, a) :: log) s' := by
  constructor
  · rw [htransfer, hcounter]
    exact h.stored
  · rw [hsettled, hcounter]
    exact h.settled_le
  · rw [hfees, h.pending, hsettled]
    unfold fees
    rw [htransfer]
  · intro t
    rw [collected, List.map_cons, List.sum_cons, hpayout t, zero_add, hsettled]
    unfold fees
    rw [htransfer]
    exact h.paid t
  · intro t
    have hbacked := (h.backed t).trans (hbalance t)
    rw [hsettled]
    unfold fees lockedAmount at hbacked ⊢
    rw [htransfer]
    exact hbacked

theorem lockOrBurn_balance (hex : tok.Exact) {token : SupportedToken} {tokenAddress sender : Address}
    {amount : ℤ} {tokens tokens' : τ} (hne : sender ≠ self)
    (h : lockOrBurn tok self token tokenAddress sender amount tokens = .ok tokens') (t : Address) :
    tok.balance tokens' t self = tok.balance tokens t self +
      if token.isLocked = true ∧ tokenAddress = t then amount else 0 := by
  unfold lockOrBurn at h
  split at h
  · rename_i hlocked
    rw [hex.credit (tok.pay_ok.mp h) hne t]
    simp only [hlocked, true_and, eq_comm]
  · rename_i hopen
    split at h
    · have hburned : tok.burn tokens tokenAddress sender amount = some tokens' := by
        unfold MintToken.destroy okOr at h
        split at h
        · rename_i hburn
          rw [hburn, Except.ok.inj h]
        · cases h
      rw [hex.burn_other hburned hne t]
      simp [hopen]
    · cases h

theorem accepted_locks {env : Env} {id : ℕ} {source destination : ChainID} {recipient : Bytes}
    {tokenAddress sender t : Address} {amount fee : ℤ} {nonce : ℕ} {token : SupportedToken} :
    (accepted env id source destination recipient tokenAddress amount fee nonce sender token).Locks t ↔
      token.isLocked = true ∧ tokenAddress = t := by
  unfold BridgeTransfer.Locks accepted
  by_cases hlocked : token.isLocked = true <;> simp [hlocked]

section Accept

variable {id : ℕ} {transfer : BridgeTransfer}

theorem fees_accept (p : ℕ → BridgeTransfer → Prop) [∀ id, DecidablePred (p id)]
    (hnew : s.transfer.get? id = none) (hset : s'.transfer = s.transfer.set id transfer) :
    fees p s' = fees p s + if p id transfer then transfer.fee else 0 := by
  unfold fees
  rw [hset, Store.total_set, Store.weight_none hnew, sub_zero]

theorem lockedAmount_accept (hnew : s.transfer.get? id = none)
    (hset : s'.transfer = s.transfer.set id transfer) (hlocked : transfer.status = .locked)
    (t : Address) :
    lockedAmount t s' = lockedAmount t s + if transfer.Locks t then transfer.amount else 0 := by
  unfold lockedAmount
  rw [hset, Store.total_set, Store.weight_none hnew, sub_zero]
  simp only [hlocked, and_true]

end Accept

/-- A transfer is accepted under the next identifier and what it locks arrives. -/
theorem Kept.accept (h : Kept tok self log s) {transfer : BridgeTransfer}
    (hsettled : settled ((s, a) :: log) = settled log) (hpayout : ∀ t, payout t (s, a) = 0)
    (hset : s'.transfer = s.transfer.set (s.transferCounter.getD 0 + 1) transfer)
    (hcounter : s'.transferCounter.getD 0 = s.transferCounter.getD 0 + 1)
    (hfees : s'.totalFees.getD 0 = s.totalFees.getD 0 + transfer.fee)
    (hlocked : transfer.status = .locked) (hfee : 0 ≤ transfer.fee)
    (hbalance : ∀ t, tok.balance s'.tokens t self = tok.balance s.tokens t self +
      if transfer.Locks t then transfer.amount + transfer.fee else 0) :
    Kept tok self ((s, a) :: log) s' := by
  have hle := h.settled_le
  have hnew : s.transfer.get? (s.transferCounter.getD 0 + 1) = none := by
    cases hk : s.transfer.get? (s.transferCounter.getD 0 + 1) with
    | none => rfl
    | some old =>
      have hold := (h.stored _ old hk).1
      omega
  have hlater : settled log < s.transferCounter.getD 0 + 1 := by omega
  constructor
  · rw [hset, hcounter]
    refine Store.forall_set (fun id old hk => ?_) ⟨le_refl _, hfee⟩
    exact ⟨(h.stored id old hk).1.trans (Nat.le_succ _), (h.stored id old hk).2⟩
  · rw [hsettled, hcounter]
    exact hlater.le
  · rw [hfees, h.pending, hsettled, fees_accept _ hnew hset, if_pos hlater]
  · intro t
    rw [collected, List.map_cons, List.sum_cons, hpayout t, zero_add, hsettled,
      fees_accept _ hnew hset, if_neg (by omega), add_zero]
    exact h.paid t
  · intro t
    have hbacked := h.backed t
    rw [hsettled, lockedAmount_accept hnew hset hlocked t, fees_accept _ hnew hset, hbalance t]
    by_cases hlocks : transfer.Locks t
    · rw [if_pos hlocks, if_pos ⟨hlater, hlocks⟩, if_pos hlocks]
      linarith
    · rw [if_neg hlocks, if_neg fun hboth => hlocks hboth.2, if_neg hlocks]
      linarith

/-- The fees of a token that were not collected, when no others are due. -/
theorem Kept.pending_own (h : Kept tok self log s) {t : Address} (hown : strayFees t log s = 0) :
    s.totalFees.getD 0 = fees (fun id transfer => settled log < id ∧ transfer.Locks t) s := by
  rw [h.pending, fees_split _ (fun _ transfer => transfer.Locks t)]
  unfold strayFees at hown
  rw [hown, add_zero]

theorem Kept.pending_other (h : Kept tok self log s) {t t' : Address} (hne : t' ≠ t)
    (hown : strayFees t log s = 0) :
    fees (fun id transfer => settled log < id ∧ transfer.Locks t') s = 0 := by
  have hle : fees (fun id transfer => settled log < id ∧ transfer.Locks t') s ≤ strayFees t log s := by
    refine fees_le h.fee_nonneg fun id transfer hlocks => ⟨hlocks.1, fun hother => hne ?_⟩
    exact hlocks.2.2.symm.trans hother.2
  exact le_antisymm (hle.trans hown.le) (fees_nonneg h.fee_nonneg)

theorem Kept.collect (hex : tok.Exact) (h : Kept tok self log s) {env : Env} {t collector : Address}
    {tokens : τ} (hdue : 0 < s.totalFees.getD 0) (hown : strayFees t log s = 0)
    (hpaid : tok.transfer s.tokens t self collector (s.totalFees.getD 0) = some tokens) :
    Kept tok self ((s, .call env (.collectFees t)) :: log)
      { s with tokens, totalFees := some 0 } := by
  have hsettled : settled ((s, .call env (.collectFees t)) :: log) = s.transferCounter.getD 0 :=
    if_pos hdue
  have hall : ∀ id transfer, s.transfer.get? id = some transfer → id ≤ s.transferCounter.getD 0 :=
    fun id transfer hfound => (h.stored id transfer hfound).1
  -- What was due of one token is what its collection pays, and nothing of the others is due.
  have hdue' : ∀ t', fees (fun id transfer => settled log < id ∧ transfer.Locks t') s =
      if t' = t then s.totalFees.getD 0 else 0 := by
    intro t'
    by_cases ht : t' = t
    · rw [if_pos ht, ht, h.pending_own hown]
    · rw [if_neg ht, h.pending_other ht hown]
  constructor
  · exact h.stored
  · exact hsettled.le
  · rw [hsettled]
    exact (fees_eq_zero fun id transfer hfound => not_lt.mpr (hall id transfer hfound)).symm
  · intro t'
    have hbefore : fees (fun id transfer => transfer.Locks t' ∧ id ≤ settled log) s =
        collected t' log := by
      rw [h.paid t']
      exact fees_congr fun _ _ _ => and_comm
    have hsince : fees (fun id transfer => transfer.Locks t' ∧ ¬ id ≤ settled log) s =
        if t' = t then s.totalFees.getD 0 else 0 := by
      rw [← hdue' t']
      exact fees_congr fun _ _ _ => by rw [not_le, and_comm]
    have heverything : fees (fun id transfer => id ≤ s.transferCounter.getD 0 ∧ transfer.Locks t') s =
        fees (fun _ transfer => transfer.Locks t') s :=
      fees_congr fun id transfer hfound => and_iff_right (hall id transfer hfound)
    rw [hsettled]
    change _ = fees (fun id transfer => id ≤ s.transferCounter.getD 0 ∧ transfer.Locks t') s
    rw [heverything, fees_split _ (fun id _ => id ≤ settled log), hbefore, hsince, collected,
      List.map_cons, List.sum_cons, add_comm]
    simp only [payout, max_eq_left hdue.le, eq_comm, collected]
  · intro t'
    have hbacked := h.backed t'
    have hspent := hex.debit hpaid t'
    have hnone : fees (fun id transfer => s.transferCounter.getD 0 < id ∧ transfer.Locks t') s = 0 :=
      fees_eq_zero fun id transfer hfound hlate => not_lt.mpr (hall id transfer hfound) hlate.1
    rw [hdue' t'] at hbacked
    rw [hsettled]
    change lockedAmount t' s +
      fees (fun id transfer => s.transferCounter.getD 0 < id ∧ transfer.Locks t') s ≤ _
    rw [hnone, add_zero]
    change lockedAmount t' s ≤ tok.balance tokens t' self
    linarith

theorem kept_step (hex : tok.Exact) (h : Kept tok self log s) (hfresh : Fresh s) (habroad : Abroad s)
    (houtside : a.Outside tok self s) (hown : a.CollectsOwn log s)
    (heffect : Effect tok self s a s') : Kept tok self ((s, a) :: log) s' := by
  cases heffect with
  | initializeContract env admin chainId signatureConfig feeConfig rateLimitConfig fresh =>
    have hs := hfresh fresh
    exact h.later rfl (fun _ => rfl) rfl (by rw [hs]; rfl) (by rw [hs]; rfl) fun _ => le_refl _
  | initiateTransfer env destinationChain recipient tokenAddress amount nonce sender token
      sourceChain limits rates rates' config fee tokens supported chain abroad positive limited
      counters passes priced charged taken =>
    refine h.accept rfl (fun _ => rfl) rfl rfl rfl rfl (feeOf_nonneg positive.le charged) fun t => ?_
    rw [lockOrBurn_balance hex (notSelf houtside) taken t]
    simp only [accepted_locks]
    rfl
  | completeTransfer env transferId signatures transfer token recipient status tokens found locked
      here =>
    obtain ⟨chain, hchain, hne⟩ := habroad transferId transfer found
    exact absurd (Option.some.inj (hchain.symm.trans here)) hne
  | collectFees env tokenAddress config tokens priced due paid =>
    exact h.collect hex due (hown due) paid
  | collectNothing env tokenAddress none_due =>
    refine h.later (if_neg (not_lt.mpr none_due)) (fun t => ?_) rfl rfl rfl fun _ => le_refl _
    simp only [payout, max_eq_right none_due, ite_self]
  | transfers tokens => exact h.later rfl (fun _ => rfl) rfl rfl rfl houtside
  | _ => exact h.later rfl (fun _ => rfl) rfl rfl rfl fun _ => le_refl _

theorem history_kept (hex : tok.Exact) {start : τ}
    (hrun : History (next tok host self)
      (fun log s a => a.Outside tok self s ∧ a.CollectsOwn log s) (deployed start) log s) :
    Kept tok self log s := by
  have hall := run_preserves (P := fun log s => Abroad s ∧ Kept tok self log s) hrun ?_ ?_
  · exact hall.2
  · refine ⟨fun _ _ hfound => (by cases hfound), fun _ _ hfound => (by cases hfound), le_refl _, rfl,
      fun _ => rfl, fun t => ?_⟩
    exact hex.nonneg start t self
  · rintro log s a s' hfresh ⟨houtside, hown⟩ heffect ⟨habroad, h⟩
    exact ⟨abroad_step habroad hfresh heffect,
      kept_step hex h hfresh habroad houtside hown heffect⟩

/-- In every run that collects fees only in the token they were all locked in, no more is collected
in a token than was charged on transfers that locked it, and what is locked is there. -/
theorem fees_apart (hex : tok.Exact) {start : τ}
    (hrun : History (next tok host self)
      (fun log s a => a.Outside tok self s ∧ a.CollectsOwn log s) (deployed start) log s)
    (t : Address) :
    collected t log ≤ lockFees t s ∧ lockedAmount t s ≤ tok.balance s.tokens t self := by
  have h := history_kept hex hrun
  constructor
  · rw [h.paid t]
    exact fees_le h.fee_nonneg fun _ _ hlocks => hlocks.2
  · have hpending : 0 ≤ fees (fun id transfer => settled log < id ∧ transfer.Locks t) s :=
      fees_nonneg h.fee_nonneg
    have hbacked := h.backed t
    linarith

section Runs

open Sample

/-- Two tokens that are locked. -/
def twoTokens : List (ℕ × Op) := [
  (0, opened 67 10000 50000),
  (1, .addSupportedToken usdc "USDC" 7 true true []),
  (2, .addSupportedToken wbtc "WBTC" 8 true true [])]

/-- The fees of each token are collected before the other is used. -/
def oneByOne : List (ℕ × Op) := twoTokens ++ [
  (3, .initiateTransfer .ethereum [5] usdc 1000 1 alice),
  (4, .collectFees usdc),
  (5, .initiateTransfer .ethereum [5] wbtc 2000 2 alice),
  (6, .collectFees wbtc)]

theorem fees_apart_oneByOne :
    ∃ log s, History (next issuedAsset verifier contract)
        (fun log s a => a.Outside issuedAsset contract s ∧ a.CollectsOwn log s) start log s ∧
      collected usdc log = 10 ∧ collected wbtc log = 20 ∧ 1000 ≤ issuedAsset.balance s.tokens usdc contract ∧
      2000 ≤ issuedAsset.balance s.tokens wbtc contract := by
  have h : After (fun h => collected usdc h.1 = 10 ∧ collected wbtc h.1 = 20 ∧
        lockedAmount usdc h.2 = 1000 ∧ lockedAmount wbtc h.2 = 2000)
      (record (next issuedAsset verifier contract) (fun log s a => a.CollectsOwn log s)
        (calls oneByOne) ([], start)) := by
    decide +kernel
  obtain ⟨⟨log, s⟩, hrec, husdc, hwbtc, hlocked, hlocked'⟩ := h.exists_ok
  have hparties : ∀ e ∈ oneByOne, contract ∉ e.2.parties := by decide
  have hrun : History (next issuedAsset verifier contract)
      (fun log s a => a.Outside issuedAsset contract s ∧ a.CollectsOwn log s) start log s :=
    record_map_history hrec fun e he _ _ hown => ⟨hparties e he, hown⟩
  refine ⟨log, s, hrun, husdc, hwbtc, ?_, ?_⟩
  · exact hlocked.symm.le.trans (fees_apart issuedAsset_exact hrun usdc).2
  · exact hlocked'.symm.le.trans (fees_apart issuedAsset_exact hrun wbtc).2

/-- The fees of both tokens are collected in one of them. -/
def atOnce : List (ℕ × Op) := twoTokens ++ [
  (3, .initiateTransfer .ethereum [5] usdc 1000 1 alice),
  (4, .initiateTransfer .ethereum [5] wbtc 2000 2 alice),
  (5, .collectFees usdc)]

theorem fees_mixed :
    ¬ ∀ (log : List (State Balances × Action Balances)) (s : State Balances) (t : Address),
      History (next issuedAsset verifier contract)
        (fun _ s a => a.Outside issuedAsset contract s) start log s →
      collected t log ≤ lockFees t s ∧ lockedAmount t s ≤ issuedAsset.balance s.tokens t contract := by
  have h : After (fun h => collected usdc h.1 = 30 ∧ lockFees usdc h.2 = 10)
      (record (next issuedAsset verifier contract) (fun _ _ _ => True) (calls atOnce)
        ([], start)) := by
    decide +kernel
  obtain ⟨⟨log, s⟩, hrec, hcollected, hcharged⟩ := h.exists_ok
  have hparties : ∀ e ∈ atOnce, contract ∉ e.2.parties := by decide
  have hrun : History (next issuedAsset verifier contract)
      (fun _ s a => a.Outside issuedAsset contract s) start log s :=
    record_map_history hrec fun e he _ _ _ => hparties e he
  intro hall
  have hle := (hall log s usdc hrun).1
  rw [hcollected, hcharged] at hle
  exact absurd hle (by decide)

end Runs

end CrossChainBridge
