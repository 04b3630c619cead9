import StellAIverse.InsuranceProtocol.Shares
import StellAIverse.Soroban.Donations

/-!
# Pools and their money

Every call books what it moves to one pool, so the assets of a pool are what was
booked to it, and the account of the contract has the assets of all pools. Nothing
stops at zero: a refund is paid whatever the pool has, and a payout as well once
the pool has no shares or keeps everything in reserve. Until a pool pays more than
it has, no pool is paid for by another one.
-/

namespace InsuranceProtocol

open Soroban

variable {τ : Type} {tok : Token τ} {self : Address} {s s' : State τ} {a : Action τ}
  {entry : Option Entry} {poolId : Symbol} {pool pool' : InsurancePool}
  {log : List (State τ × Action τ)}

/-- Assets as the pool counts them. -/
def assetsOf (s : State τ) (id : Symbol) : ℤ := s.pool.weight (fun _ pool => pool.totalAssets) id

def allAssets (s : State τ) : ℤ := s.pool.total fun _ pool => pool.totalAssets

/-- What the entry adds to its pool. -/
def Entry.flow (e : Entry) : ℤ :=
  match e.movement with
  | .deposit | .premium => e.amount
  | .withdrawal | .refund | .payout => -e.amount

def Entry.paysOut (e : Entry) : Prop :=
  match e.movement with
  | .deposit | .premium => False
  | .withdrawal | .refund | .payout => True

theorem Entry.paysOut.flow {e : Entry} (h : e.paysOut) : e.flow = -e.amount := by
  unfold Entry.paysOut at h
  unfold Entry.flow
  cases he : e.movement <;> simp_all

def flowOf : Option Entry → ℤ
  | some e => e.flow
  | none => 0

def flowTo (id : Symbol) : Option Entry → ℤ
  | some e => if e.pool = id then e.flow else 0
  | none => 0

/-- What the entry counts as one kind of movement of a pool. -/
def bookedAs (movement : Movement) (id : Symbol) : Option Entry → ℤ
  | some e => if e.pool = id ∧ e.movement = movement then e.amount else 0
  | none => 0

theorem flowTo_eq (id : Symbol) (entry : Option Entry) :
    flowTo id entry = bookedAs .deposit id entry + bookedAs .premium id entry -
      bookedAs .withdrawal id entry - bookedAs .refund id entry - bookedAs .payout id entry := by
  cases entry with
  | none => rfl
  | some e =>
    obtain ⟨pool, movement, amount⟩ := e
    by_cases hpool : pool = id <;> cases movement <;> simp [flowTo, bookedAs, Entry.flow, hpool]

/-- All movements of one kind that a run booked to a pool. -/
def booked (tok : Token τ) (self : Address) (movement : Movement) (id : Symbol)
    (log : List (State τ × Action τ)) : ℤ :=
  (log.map fun e => bookedAs movement id (entryOf tok self e.2 e.1)).sum

/-- Underwriter deposits and premiums, less withdrawals, refunds and paid claims. -/
def ledger (tok : Token τ) (self : Address) (id : Symbol) (log : List (State τ × Action τ)) : ℤ :=
  booked tok self .deposit id log + booked tok self .premium id log -
    booked tok self .withdrawal id log - booked tok self .refund id log -
    booked tok self .payout id log

theorem ledger_cons (id : Symbol) (s : State τ) (a : Action τ) (log : List (State τ × Action τ)) :
    ledger tok self id ((s, a) :: log) =
      ledger tok self id log + flowTo id (entryOf tok self a s) := by
  rw [flowTo_eq]
  simp only [ledger, booked, List.map_cons, List.sum_cons]
  ring

/-- The assets of the pools move by the entry. -/
structure Books (s : State τ) (entry : Option Entry) (s' : State τ) : Prop where
  pool : ∀ id, assetsOf s' id = assetsOf s id + flowTo id entry
  total : allAssets s' = allAssets s + flowOf entry

theorem Books.same (hpool : s'.pool = s.pool) : Books s none s' := by
  constructor
  · intro id
    simp only [assetsOf, hpool, flowTo, add_zero]
  · simp only [allAssets, hpool, flowOf, add_zero]

theorem Books.write {e : Entry} (hset : s'.pool = s.pool.set e.pool pool')
    (hassets : pool'.totalAssets = assetsOf s e.pool + e.flow) : Books s (some e) s' := by
  constructor
  · intro id
    unfold assetsOf
    rw [hset]
    exact Store.weight_set_add hassets id
  · unfold allAssets
    rw [hset]
    exact Store.total_set_add hassets

/-- A pool is written and keeps its assets. -/
theorem Books.keep (hset : s'.pool = s.pool.set poolId pool')
    (hassets : pool'.totalAssets = assetsOf s poolId) : Books s none s' := by
  have hzero : pool'.totalAssets = assetsOf s poolId + 0 := by rw [hassets, add_zero]
  constructor
  · intro id
    unfold assetsOf
    rw [hset, Store.weight_set_add hzero id, ite_self]
    rfl
  · unfold allAssets
    rw [hset]
    exact Store.total_set_add hzero

theorem assetsOf_found (hfound : s.pool.get? poolId = some pool) :
    assetsOf s poolId = pool.totalAssets :=
  Store.weight_some hfound

theorem books_step (heffect : Effect tok self s a entry s') : Books s entry s' := by
  cases heffect with
  | createPool env admin poolId coverageType reserveRatioBps poolIds poolCounter known new =>
    exact .keep rfl (Store.weight_none new).symm
  | deposited env underwriter poolId amount pool shares reserveAmount token tokens positive found =>
    refine .write rfl ?_
    rw [assetsOf_found found]
    rfl
  | withdrawn env underwriter poolId shares pool assets reserveAmount token tokens positive found =>
    refine .write rfl ?_
    rw [assetsOf_found found]
    exact sub_eq_add_neg _ _
  | purchased env buyer poolId tier coverageAmount pool coverageLimit deductible premium
      reserveAmount policyIds holderPolicies token tokens found =>
    refine .write rfl ?_
    rw [assetsOf_found found]
    rfl
  | cancelled env buyer policyId policy pool refund reserveAmount tokens stored holds active due
      found =>
    refine .write rfl ?_
    rw [assetsOf_found found]
    exact sub_eq_add_neg _ _
  | paid env admin queueId item claim pool policy requiredReserve reserveAmount token tokens listed
      waiting stored approved found =>
    refine .write rfl ?_
    rw [assetsOf_found found]
    exact sub_eq_add_neg _ _
  | reserveRatio env admin poolId newRatioBps pool reserveAmount found =>
    exact .keep rfl (assetsOf_found found).symm
  | _ => exact .same rfl

/-- Half of the premium for the part of the term that is left, before the term is half over. -/
def refundDue (policy : CoveragePolicy) (now : ℕ) : ℤ :=
  if now - policy.purchasedAt < (policy.expiresAt - policy.purchasedAt) / 2 then
    (policy.premiumPaid * (((policy.expiresAt - policy.purchasedAt - (now - policy.purchasedAt)) *
      10000 / (policy.expiresAt - policy.purchasedAt) : ℕ) : ℤ)).tdiv 20000
  else 0

theorem refundOf_ok {policy : CoveragePolicy} {now : ℕ} {refund : ℤ}
    (h : refundOf policy now = .ok refund) : refund = refundDue policy now := by
  unfold refundOf at h
  obtain ⟨-, h⟩ := U64.checkedSub_bind.mp h
  obtain ⟨-, h⟩ := U64.checkedSub_bind.mp h
  unfold refundDue
  split at h
  · rename_i hearly
    obtain ⟨-, h⟩ := U64.mul_bind.mp h
    obtain ⟨-, h⟩ := I128.checked_bind.mp h
    obtain ⟨-, -, h⟩ := I128.div_ok.mp h
    rw [if_pos hearly]
    exact h.symm
  · rename_i hlate
    rw [if_neg hlate]
    exact (Except.ok.inj h).symm

theorem refundDue_nonneg {policy : CoveragePolicy} (h : 0 ≤ policy.premiumPaid) (now : ℕ) :
    0 ≤ refundDue policy now := by
  unfold refundDue
  split
  · exact Int.tdiv_nonneg (mul_nonneg h (Int.natCast_nonneg _)) (by decide)
  · exact le_rfl

theorem calculatePremium_pos {coverageAmount premium : ℤ} {tier : CoverageTier}
    (h : calculatePremium poolId coverageAmount tier s = .ok premium) : 0 < premium := by
  unfold calculatePremium at h
  obtain ⟨pool, -, h⟩ := okOr_bind.mp h
  obtain ⟨-, h⟩ := failIf_bind.mp h
  obtain ⟨params, -, h⟩ := expect_bind.mp h
  obtain ⟨config, -, h⟩ := expect_bind.mp h
  obtain ⟨-, h⟩ := I128.checked_bind.mp h
  obtain ⟨-, h⟩ := I128.checked_bind.mp h
  obtain ⟨-, h⟩ := I128.checked_bind.mp h
  obtain ⟨-, -, h⟩ := I128.div_bind.mp h
  obtain ⟨-, -, h⟩ := I128.div_bind.mp h
  obtain ⟨-, -, h⟩ := I128.div_bind.mp h
  have hpremium := Except.ok.inj h
  rw [← hpremium]
  split <;> omega

/-- Shares are worth no more than the assets they are shares of. -/
theorem share_le {shares assets total : ℤ} (hshares : shares ≤ total) (hpositive : 0 < shares)
    (hassets : 0 ≤ assets) : (shares * assets).tdiv total ≤ assets := by
  have htotal : 0 < total := by omega
  have hfloor := I128.tdiv_mul_le (mul_nonneg hpositive.le hassets) htotal
  have hle : shares * assets ≤ assets * total := by
    rw [mul_comm assets total]
    exact mul_le_mul_of_nonneg_right hshares hassets
  exact le_of_mul_le_mul_right (hfloor.trans hle) htotal

/-- Below a ratio of one, the reserve of a debt is a smaller debt. -/
theorem lt_reserveOf {totalAssets requiredReserve : ℤ} {reserveRatioBps : ℕ}
    (hdebt : totalAssets < 0) (hratio : reserveRatioBps < 10000)
    (h : reserveOf totalAssets reserveRatioBps = .ok requiredReserve) :
    totalAssets < requiredReserve := by
  unfold reserveOf at h
  obtain ⟨-, h⟩ := I128.checked_bind.mp h
  obtain ⟨-, -, h⟩ := I128.div_ok.mp h
  have hpositive : 0 < -totalAssets := by omega
  have hmirror : requiredReserve = -(-totalAssets * reserveRatioBps).tdiv bpsDenominator := by
    rw [← h, ← Int.neg_tdiv, neg_mul, neg_neg]
  have hfloor := I128.tdiv_mul_le (a := -totalAssets * reserveRatioBps) (b := bpsDenominator)
    (mul_nonneg hpositive.le (Int.natCast_nonneg _)) (by decide)
  have hbelow : -totalAssets * reserveRatioBps < -totalAssets * bpsDenominator := by
    apply mul_lt_mul_of_pos_left _ hpositive
    unfold bpsDenominator
    exact_mod_cast hratio
  have hlt := lt_of_mul_lt_mul_right (hfloor.trans_lt hbelow) (by decide)
  omega

/-- Below a ratio of one, the reserve check stops what the pool does not have. -/
theorem checkReserve_covers {amount requiredReserve : ℤ} (hshares : 0 < pool.totalShares)
    (hratio : pool.reserveRatioBps < 10000)
    (hreserve : reserveOf (pool.totalAssets - amount) pool.reserveRatioBps = .ok requiredReserve)
    (h : checkReserve pool amount (pool.totalAssets - amount) requiredReserve = .ok ()) :
    amount ≤ pool.totalAssets := by
  by_contra hover
  have hless := lt_reserveOf (by omega) hratio hreserve
  unfold checkReserve at h
  rw [if_pos ⟨hshares, hless⟩] at h
  obtain ⟨-, h⟩ := I128.checked_bind.mp h
  unfold failIf at h
  split at h
  · cases h
  · rename_i havailable
    omega

/-- A pool pays what it has, or has to pass a reserve check that stops it. -/
def Action.Covered (s : State τ) : Action τ → Prop
  | .call env (.cancelPolicy _ policyId) =>
    ∀ policy ∈ s.policy.get? policyId, ∀ pool ∈ s.pool.get? policy.poolId,
      refundDue policy env.timestamp ≤ pool.totalAssets
  | .call _ (.payClaim _ queueId) =>
    ∀ item ∈ s.payoutQueueItem.get? queueId, ∀ pool ∈ s.pool.get? item.poolId,
      item.amount ≤ pool.totalAssets ∨ 0 < pool.totalShares ∧ pool.reserveRatioBps < 10000
  | _ => True

instance (s : State τ) (a : Action τ) : Decidable (a.Covered s) :=
  match a with
  | .call env (.cancelPolicy _ policyId) =>
    inferInstanceAs (Decidable (∀ policy ∈ s.policy.get? policyId, ∀ pool ∈ s.pool.get? policy.poolId,
      refundDue policy env.timestamp ≤ pool.totalAssets))
  | .call _ (.payClaim _ queueId) =>
    inferInstanceAs (Decidable (∀ item ∈ s.payoutQueueItem.get? queueId,
      ∀ pool ∈ s.pool.get? item.poolId,
        item.amount ≤ pool.totalAssets ∨ 0 < pool.totalShares ∧ pool.reserveRatioBps < 10000))
  | .transfers _ | .call _ (.initializeContract _ _ _) | .call _ (.createPool _ _ _ _)
  | .call _ (.depositAsUnderwriter _ _ _) | .call _ (.withdrawAsUnderwriter _ _ _)
  | .call _ (.purchaseCoverage _ _ _ _) | .call _ (.submitClaim _ _ _ _)
  | .call _ (.voteOnClaim _ _ _) | .call _ (.processClaim _) | .call _ (.setRiskParameters _ _)
  | .call _ (.setTierConfig _ _ _) | .call _ (.updateReserveRatio _ _ _)
  | .call _ (.emergencyPause _) | .call _ (.emergencyUnpause _) => .isTrue trivial

/-- No pool is in debt. -/
def Solvent (s : State τ) : Prop := ∀ id, 0 ≤ assetsOf s id

theorem Solvent.assets_nonneg (h : Solvent s) (hfound : s.pool.get? poolId = some pool) :
    0 ≤ pool.totalAssets := by
  rw [← assetsOf_found hfound]
  exact h poolId

/-- No entry takes more out of a pool than it has. -/
theorem entry_covered (h : Solvent s) (hshares : ShareLedger s) (hcovered : a.Covered s)
    {e : Entry} (heffect : Effect tok self s a (some e) s') (hout : e.paysOut) :
    e.amount ≤ assetsOf s e.pool := by
  cases heffect with
  | deposited | purchased => exact False.elim hout
  | withdrawn env underwriter poolId shares pool assets reserveAmount token tokens positive found
      holds shared share =>
    rw [assetsOf_found found, share]
    exact share_le (holds.trans (hshares.held_le found underwriter)) positive
      (h.assets_nonneg found)
  | cancelled env buyer policyId policy pool refund reserveAmount tokens stored holds active due
      found =>
    rw [assetsOf_found found, refundOf_ok due]
    exact hcovered policy stored pool found
  | paid env admin queueId item claim pool policy requiredReserve reserveAmount token tokens listed
      waiting stored approved found reserve checks =>
    rw [assetsOf_found found]
    rcases hcovered item listed pool found with hle | ⟨hpositive, hratio⟩
    · exact hle
    · exact checkReserve_covers hpositive hratio reserve checks

theorem entry_gains {e : Entry} (heffect : Effect tok self s a (some e) s') (hin : ¬ e.paysOut) :
    0 ≤ e.flow := by
  cases heffect with
  | deposited env underwriter poolId amount pool shares reserveAmount token tokens positive =>
    exact positive.le
  | purchased env buyer poolId tier coverageAmount pool coverageLimit deductible premium
      reserveAmount policyIds holderPolicies token tokens found priced =>
    exact (calculatePremium_pos priced).le
  | withdrawn | cancelled | paid => exact absurd trivial hin

theorem solvent_step (h : Solvent s) (hshares : ShareLedger s) (hcovered : a.Covered s)
    (heffect : Effect tok self s a entry s') : Solvent s' := by
  intro id
  rw [(books_step heffect).pool id]
  cases entry with
  | none =>
    rw [flowTo, add_zero]
    exact h id
  | some e =>
    have hid := h id
    simp only [flowTo]
    split
    · rename_i hpool
      by_cases hout : e.paysOut
      · have hle := entry_covered h hshares hcovered heffect hout
        rw [hpool] at hle
        rw [hout.flow]
        omega
      · exact add_nonneg hid (entry_gains heffect hout)
    · rwa [add_zero]

/-- Payers and recipients of an invocation. -/
def Op.parties : Op → List Address
  | .depositAsUnderwriter underwriter _ _ => [underwriter]
  | .withdrawAsUnderwriter underwriter _ _ => [underwriter]
  | .purchaseCoverage buyer _ _ _ => [buyer]
  | .cancelPolicy buyer _ => [buyer]
  | .submitClaim claimant _ _ _ => [claimant]
  | _ => []

/-- The contract is no party to its own calls, and other transfers do not spend
what it holds. -/
def Action.Outside (tok : Token τ) (self : Address) (s : State τ) : Action τ → Prop
  | .call _ op => self ∉ op.parties
  | .transfers tokens => ∀ t, tok.balance s.tokens t self ≤ tok.balance tokens t self

/-- Transfers of tokens that are no invocation. -/
def Action.elsewhere : Action τ → Option τ
  | .call _ _ => none
  | .transfers tokens => some tokens

def accounts : Accounts τ (State τ) (Action τ) := ⟨State.tokens, Action.elsewhere⟩

theorem Action.Outside.spares (h : a.Outside tok self s) : accounts.Spares tok self s a := by
  rintro tokens he t
  cases a <;> cases he
  exact h t

/-- What the account needs to know of the records. -/
structure Recorded (holder : Address) (s : State τ) : Prop where
  premiums : ∀ id policy, s.policy.get? id = some policy → 0 ≤ policy.premiumPaid
  claimants : ∀ id claim, s.claim.get? id = some claim → claim.claimant ≠ holder
  fresh : s.admin = none → ∀ id, s.pool.get? id = none

theorem Recorded.opened (h : Recorded self s) (hfound : s.pool.get? poolId = some pool) :
    s.admin ≠ none := by
  intro hnone
  rw [h.fresh hnone poolId] at hfound
  cases hfound

theorem recorded_step (h : Recorded self s) (houtside : a.Outside tok self s)
    (heffect : Effect tok self s a entry s') : Recorded self s' := by
  cases heffect with
  | initializeContract => exact ⟨h.premiums, h.claimants, fun hnone => by cases hnone⟩
  | createPool env admin poolId coverageType reserveRatioBps poolIds poolCounter known =>
    exact ⟨h.premiums, h.claimants, fun hnone => by cases hnone.symm.trans known⟩
  | deposited env underwriter poolId amount pool shares reserveAmount token tokens positive found =>
    exact ⟨h.premiums, h.claimants, fun hnone => absurd hnone (h.opened found)⟩
  | withdrawn env underwriter poolId shares pool assets reserveAmount token tokens positive found =>
    exact ⟨h.premiums, h.claimants, fun hnone => absurd hnone (h.opened found)⟩
  | purchased env buyer poolId tier coverageAmount pool coverageLimit deductible premium
      reserveAmount policyIds holderPolicies token tokens found priced =>
    exact ⟨Store.forall_set h.premiums (calculatePremium_pos priced).le, h.claimants,
      fun hnone => absurd hnone (h.opened found)⟩
  | cancelled env buyer policyId policy pool refund reserveAmount tokens stored holds active due
      found =>
    exact ⟨Store.forall_set h.premiums (h.premiums policyId policy stored), h.claimants,
      fun hnone => absurd hnone (h.opened found)⟩
  | claimed => exact ⟨h.premiums, Store.forall_set h.claimants (notSelf houtside), h.fresh⟩
  | voted env underwriter claimId approve claim votesFor votesAgainst totalVoters record stored =>
    exact ⟨h.premiums, Store.forall_set h.claimants (h.claimants claimId claim stored), h.fresh⟩
  | denied env claimId claim stored =>
    exact ⟨h.premiums, Store.forall_set h.claimants (h.claimants claimId claim stored), h.fresh⟩
  | approved env claimId claim payoutQueueIds stored =>
    exact ⟨h.premiums, Store.forall_set h.claimants (h.claimants claimId claim stored), h.fresh⟩
  | paid env admin queueId item claim pool policy requiredReserve reserveAmount token tokens listed
      waiting stored approved found reserve checks insured =>
    exact ⟨Store.forall_set h.premiums (h.premiums claim.policyId policy insured),
      Store.forall_set h.claimants (h.claimants item.claimId claim stored),
      fun hnone => absurd hnone (h.opened found)⟩
  | reserveRatio env admin poolId newRatioBps pool reserveAmount found =>
    exact ⟨h.premiums, h.claimants, fun hnone => absurd hnone (h.opened found)⟩
  | _ => exact ⟨h.premiums, h.claimants, h.fresh⟩

/-- The account has the assets of all pools, in the token of the contract, and gifts. -/
def Balanced (tok : Token τ) (self : Address) (gift : Address → ℤ) (s : State τ) : Prop :=
  ∀ t, tok.balance s.tokens t self = (if s.token = some t then allAssets s else 0) + gift t

section Transfers

variable {tokens : τ} {token : Address} {amount : ℤ} (hex : tok.Exact) (htoken : s.token = some token)

include hex htoken

/-- A payment to the contract in its token. -/
theorem balance_in {source : Address} (hne : source ≠ self)
    (hpaid : tok.transfer s.tokens token source self amount = some tokens) (t : Address) :
    tok.balance tokens t self =
      tok.balance s.tokens t self + if s.token = some t then amount else 0 := by
  rw [hex.credit hpaid hne t, htoken]
  simp only [Option.some.injEq, eq_comm]

/-- A payment of the contract in its token. -/
theorem balance_out {target : Address} (hne : target ≠ self)
    (hpaid : tok.transfer s.tokens token self target amount = some tokens) (t : Address) :
    tok.balance tokens t self =
      tok.balance s.tokens t self + if s.token = some t then -amount else 0 := by
  rw [hex.spend hpaid hne t, htoken]
  by_cases ht : t = token
  · rw [if_pos ht, if_pos (by rw [ht]), sub_eq_add_neg]
  · rw [if_neg ht, if_neg fun he => ht (Option.some.inj he).symm, sub_zero, add_zero]

end Transfers

theorem payRefund_balance (hex : tok.Exact) {buyer : Address} {refund : ℤ} {tokens : τ}
    (hne : buyer ≠ self) (hrefund : 0 ≤ refund) (h : payRefund tok self buyer refund s = .ok tokens)
    (t : Address) :
    tok.balance tokens t self =
      tok.balance s.tokens t self + if s.token = some t then -refund else 0 := by
  unfold payRefund at h
  split at h
  · obtain ⟨token, htoken, h⟩ := expect_bind.mp h
    exact balance_out hex htoken hne (tok.pay_ok.mp h) t
  · have hzero : refund = 0 := by omega
    cases h
    rw [hzero, neg_zero, ite_self, add_zero]

/-- A call books what it moves in the token of the contract. -/
theorem balance_call (hex : tok.Exact) (h : Recorded self s) {env : Env} {op : Op}
    (houtside : self ∉ op.parties) (heffect : Effect tok self s (.call env op) entry s')
    (t : Address) :
    tok.balance s'.tokens t self =
      tok.balance s.tokens t self + if s.token = some t then flowOf entry else 0 := by
  cases heffect with
  | deposited _ underwriter poolId amount pool shares reserveAmount token tokens positive found
      minted configured paid => exact balance_in hex configured (notSelf houtside) paid t
  | withdrawn _ underwriter poolId shares pool assets reserveAmount token tokens positive found
      holds shared share reserve allowed configured paid =>
    exact balance_out hex configured (notSelf houtside) paid t
  | purchased _ buyer poolId tier coverageAmount pool coverageLimit deductible premium
      reserveAmount policyIds holderPolicies token tokens found priced configured paid =>
    exact balance_in hex configured (notSelf houtside) paid t
  | cancelled _ buyer policyId policy pool refund reserveAmount tokens stored holds active due
      found paid =>
    have hrefund : 0 ≤ refund := by
      rw [refundOf_ok due]
      exact refundDue_nonneg (h.premiums policyId policy stored) env.timestamp
    exact payRefund_balance hex (notSelf houtside) hrefund paid t
  | paid _ admin queueId item claim pool policy requiredReserve reserveAmount token tokens listed
      waiting stored approved found reserve checks insured configured paid =>
    exact balance_out hex configured (h.claimants item.claimId claim stored) paid t
  | _ => rw [flowOf, ite_self, add_zero]

/-- The token of the contract is set before there are pools. -/
theorem token_call (h : Recorded self s) {env : Env} {op : Op}
    (heffect : Effect tok self s (.call env op) entry s') (t : Address) :
    (if s'.token = some t then allAssets s' else 0) =
      (if s.token = some t then allAssets s else 0) + if s.token = some t then flowOf entry else 0 := by
  have htotal := (books_step heffect).total
  by_cases hsame : s'.token = s.token
  · rw [hsame, htotal]
    split <;> simp
  · cases heffect with
    | initializeContract _ admin token oracle fresh =>
      have hnone : allAssets s = 0 := Store.total_eq_zero fun id pool hfound =>
        absurd fresh (h.opened hfound)
      rw [hnone, flowOf, add_zero] at htotal
      rw [htotal, hnone, flowOf]
      simp only [ite_self, add_zero]
    | _ => exact absurd rfl hsame

theorem balanced_step (hex : tok.Exact) {gift : Address → ℤ} (h : Balanced tok self gift s)
    (hrecorded : Recorded self s) (houtside : a.Outside tok self s)
    (heffect : Effect tok self s a entry s') :
    Balanced tok self (fun t => gift t + accounts.donated tok self t (s, a)) s' := by
  intro t
  have hbefore := h t
  cases a with
  | call env op =>
    rw [balance_call hex hrecorded houtside heffect t, token_call hrecorded heffect t, hbefore]
    simp only [Accounts.donated, accounts, Action.elsewhere]
    ring
  | transfers tokens =>
    cases heffect
    simp only [Accounts.donated, accounts, Action.elsewhere, allAssets] at hbefore ⊢
    omega

/-- What the assets are known to be, along a run that covers its payments. -/
structure Segregated (tok : Token τ) (holder : Address) (start : τ) (log : List (State τ × Action τ))
    (s : State τ) : Prop where
  recorded : Recorded holder s
  shares : ShareLedger s
  solvent : Solvent s
  ledger : ∀ id, assetsOf s id = ledger tok holder id log
  balanced : Balanced tok holder (accounts.donations tok holder (deployed start) log) s
  own : ∀ e ∈ log, ∀ entry ∈ entryOf tok holder e.2 e.1, entry.paysOut →
    entry.amount ≤ assetsOf e.1 entry.pool

theorem segregated_deployed (tokens : τ) : Segregated tok self tokens [] (deployed tokens) where
  recorded := ⟨fun _ _ hk => (by cases hk), fun _ _ hk => (by cases hk), fun _ _ => rfl⟩
  shares := shareLedger_deployed tokens
  solvent _ := le_rfl
  ledger _ := rfl
  balanced t := by simp [deployed, Accounts.donations, accounts]
  own _ he := by cases he

theorem segregated_step (hex : tok.Exact) {start : τ} (h : Segregated tok self start log s)
    (houtside : a.Outside tok self s) (hcovered : a.Covered s)
    (hnext : next tok self a s = .ok s') : Segregated tok self start ((s, a) :: log) s' := by
  have heffect := next_effect hnext
  constructor
  · exact recorded_step h.recorded houtside heffect
  · exact shares_step h.shares heffect
  · exact solvent_step h.solvent h.shares hcovered heffect
  · intro id
    rw [(books_step heffect).pool id, ledger_cons, h.ledger id]
  · have hgifts : accounts.donations tok self (deployed start) ((s, a) :: log) = fun t =>
        accounts.donations tok self (deployed start) log t + accounts.donated tok self t (s, a) :=
      funext fun t => Accounts.donations_cons _ _ _ t
    rw [hgifts]
    exact balanced_step hex h.balanced h.recorded houtside heffect
  · intro e he entry hentry hout
    rcases List.mem_cons.mp he with rfl | he
    · rw [Option.mem_def.mp hentry] at heffect
      exact entry_covered h.solvent h.shares hcovered heffect hout
    · exact h.own e he entry hentry hout

/-- In every run in which refunds are covered by the assets of their pool, and payouts are as well
or meet the reserve check, no pool is in debt, its assets are what was booked to it, the account has
the assets of all pools and what it was given, and no payment is more than its pool has. -/
theorem pools_segregated (hex : tok.Exact) {start : τ}
    (hrun : History (next tok self) (fun _ s a => a.Outside tok self s ∧ a.Covered s)
      (deployed start) log s) :
    (∀ id pool, s.pool.get? id = some pool → 0 ≤ pool.totalAssets ∧
      pool.totalAssets = booked tok self .deposit id log + booked tok self .premium id log -
        booked tok self .withdrawal id log - booked tok self .refund id log -
        booked tok self .payout id log) ∧
    (∀ token, s.token = some token →
      0 ≤ accounts.donations tok self (deployed start) log token ∧
      tok.balance s.tokens token self = (s.pool.total fun _ pool => pool.totalAssets) +
        accounts.donations tok self (deployed start) log token) ∧
    ∀ e ∈ log, ∀ entry ∈ entryOf tok self e.2 e.1, entry.paysOut →
      entry.amount ≤ e.1.pool.weight (fun _ pool => pool.totalAssets) entry.pool := by
  have h : Segregated tok self start log s := by
    refine hrun.preserves (segregated_deployed start) ?_
    rintro log s a s' ⟨houtside, hcovered⟩ hnext h
    exact segregated_step hex h houtside hcovered hnext
  refine ⟨fun id pool hfound => ⟨h.solvent.assets_nonneg hfound, ?_⟩, fun token htoken => ⟨?_, ?_⟩,
    h.own⟩
  · rw [← assetsOf_found hfound]
    exact h.ledger id
  · exact Accounts.donations_nonneg hex hrun (fun _ _ _ hok => hok.1.spares) token
  · have hbalance := h.balanced token
    rwa [if_pos htoken] at hbalance

namespace Sample

def contract : Address := ⟨0⟩

def admin : Address := ⟨1⟩

def usdc : Address := ⟨2⟩

def alice : Address := ⟨3⟩

def bob : Address := ⟨4⟩

def carol : Address := ⟨5⟩

/-- Everybody authorises. -/
def env (timestamp : ℕ) : Env := ⟨timestamp, fun _ => true⟩

def start : State Balances :=
  deployed (Balances.issue [(usdc, alice, 10 ^ 6), (usdc, bob, 10 ^ 6), (usdc, carol, 10 ^ 6)])

/-- Two pools that keep a fifth in reserve. -/
def opened : List (ℕ × Op) := [
  (0, .initializeContract admin usdc admin),
  (1, .createPool admin "bridges" .smartContractRisk 2000),
  (1, .createPool admin "feeds" .oracleFailure 2000),
  (2, .depositAsUnderwriter alice "bridges" 10000),
  (2, .depositAsUnderwriter bob "feeds" 2000)]

/-- Invocations, each at its ledger time. -/
def calls (ops : List (ℕ × Op)) : List (Action Balances) := ops.map fun e => .call (env e.1) e.2

end Sample

section Runs

open Sample

/-- One policy is claimed and another one cancelled before underwriters leave. -/
def ordinary : List (ℕ × Op) := opened ++ [
  (3, .purchaseCoverage carol "bridges" .standard 1000),
  (3, .purchaseCoverage bob "bridges" .standard 1000),
  (4, .submitClaim carol 1 600 "exploit"),
  (5, .cancelPolicy bob 2),
  (300000, .processClaim 1),
  (300001, .payClaim admin 1),
  (300002, .withdrawAsUnderwriter alice "bridges" 5000)]

theorem pools_segregated_ordinary :
    ∃ log s, History (next asset contract)
        (fun _ s a => a.Outside asset contract s ∧ a.Covered s) start log s ∧
      (∃ pool ∈ s.pool.get? "bridges", pool.totalAssets = 10000 + 99 - 4787 - 24 - 500) ∧
      asset.balance s.tokens usdc contract = 4788 + 2000 := by
  have h : After (fun h => (∃ pool ∈ h.2.pool.get? "bridges", True) ∧
        booked asset contract .deposit "bridges" h.1 = 10000 ∧
        booked asset contract .premium "bridges" h.1 = 99 ∧
        booked asset contract .withdrawal "bridges" h.1 = 4787 ∧
        booked asset contract .refund "bridges" h.1 = 24 ∧
        booked asset contract .payout "bridges" h.1 = 500 ∧ h.2.token = some usdc ∧
        (h.2.pool.total fun _ pool => pool.totalAssets) = 6788 ∧
        accounts.donations asset contract start h.1 usdc = 0)
      (record (next asset contract) (fun _ s a => a.Covered s) (calls ordinary) ([], start)) := by
    decide +kernel
  obtain ⟨⟨log, s⟩, hrec, ⟨pool, hfound, -⟩, hdeposits, hpremiums, hwithdrawn, hrefunds, hpayouts,
    htoken, htotal, hgifts⟩ := h.exists_ok
  have hparties : ∀ e ∈ ordinary, contract ∉ e.2.parties := by decide
  have hrun : History (next asset contract)
      (fun _ s a => a.Outside asset contract s ∧ a.Covered s) start log s :=
    record_map_history hrec fun e he _ _ hcovered => ⟨hparties e he, hcovered⟩
  obtain ⟨hpools, haccount, -⟩ := pools_segregated asset_exact hrun
  refine ⟨log, s, hrun, ⟨pool, hfound, ?_⟩, ?_⟩
  · rw [(hpools "bridges" pool hfound).2, hdeposits, hpremiums, hwithdrawn, hrefunds, hpayouts]
  · have hbalance := (haccount usdc htoken).2
    rw [hbalance, htotal]
    exact hgifts ▸ rfl

/-- The underwriters leave with the premium before the policy is cancelled. -/
def abandoned : List (ℕ × Op) := opened ++ [
  (3, .purchaseCoverage carol "bridges" .standard 10000),
  (4, .withdrawAsUnderwriter alice "bridges" 10000),
  (5, .cancelPolicy carol 1)]

theorem refund_from_other_pool :
    ¬ ∀ (log : List (State Balances × Action Balances)) (s : State Balances),
      History (next asset contract) (fun _ s a => a.Outside asset contract s) start log s →
      ∀ id pool, s.pool.get? id = some pool → 0 ≤ pool.totalAssets := by
  have h : After (fun h => ∃ pool ∈ h.2.pool.get? "bridges", pool.totalAssets = -249)
      (record (next asset contract) (fun _ _ _ => True) (calls abandoned) ([], start)) := by
    decide +kernel
  obtain ⟨⟨log, s⟩, hrec, pool, hfound, hassets⟩ := h.exists_ok
  have hparties : ∀ e ∈ abandoned, contract ∉ e.2.parties := by decide
  have hrun : History (next asset contract) (fun _ s a => a.Outside asset contract s) start log s :=
    record_map_history hrec fun e he _ _ _ => hparties e he
  intro hall
  have hnonneg := hall log s hrun "bridges" pool hfound
  omega

end Runs

end InsuranceProtocol
