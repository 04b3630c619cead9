import Mathlib.Logic.Relation
import StellAIverse.TokenVesting.Contract

/-!
# What each call does

Every completed invocation is one of the effects below, with the guards it
passed. Single and batch creation store schedules one after the other, and
single and batch claims are chains of claims of one beneficiary.
-/

namespace TokenVesting

open Soroban

variable {τ : Type}

/-- What a schedule has released by a given time. -/
def VestingSchedule.vestedAt (schedule : VestingSchedule) (t : ℕ) : ℤ :=
  if t < schedule.cliffTime ∨ t ≤ schedule.startTime then 0
  else if t ≥ schedule.endTime then schedule.totalAmount
  else (schedule.totalAmount * (t - schedule.startTime : ℕ)).tdiv
    (schedule.endTime - schedule.startTime : ℕ)

theorem vestedFor_ok {schedule : VestingSchedule} {t : ℕ} {v : ℤ}
    (h : vestedFor schedule t = .ok v) : v = schedule.vestedAt t := by
  unfold vestedFor at h
  unfold VestingSchedule.vestedAt
  split
  · rename_i hearly
    rw [if_pos hearly] at h
    cases h
    rfl
  · rename_i hlate
    rw [if_neg hlate] at h
    split
    · rename_i hend
      rw [if_pos hend] at h
      cases h
      rfl
    · rename_i hbefore
      rw [if_neg hbefore, U64.checkedSub_bind, U64.checkedSub_bind, if_neg (by omega),
        I128.checked_bind, I128.div_ok] at h
      exact h.2.2.2.2.2.symm

/-- What of an early withdrawal the funder gets back. -/
def penaltyOf (unvested : ℤ) (penaltyBps : ℕ) : ℤ :=
  if unvested ≤ 0 ∨ penaltyBps = 0 then 0 else (unvested * penaltyBps).tdiv bpsDenominator

theorem calculatePenalty_ok {unvested penalty : ℤ} {penaltyBps : ℕ}
    (h : calculatePenalty unvested penaltyBps = .ok penalty) :
    penalty = penaltyOf unvested penaltyBps := by
  unfold calculatePenalty at h
  unfold penaltyOf
  split
  · rename_i hzero
    rw [if_pos hzero] at h
    cases h
    rfl
  · rename_i hpos
    rw [if_neg hpos, I128.checked_bind, I128.div_ok] at h
    exact h.2.2.2.symm

theorem claimableFromVested_ok {schedule : VestingSchedule} {vested claimable : ℤ}
    (h : claimableFromVested schedule vested = .ok claimable) :
    claimable = max (vested - schedule.claimedAmount) 0 := by
  unfold claimableFromVested at h
  split at h
  · cases h
    rw [max_eq_right (by omega)]
  · rw [I128.checked_ok] at h
    rw [← h.2, max_eq_left (by omega)]

/-- The terms the checks of a creation admit. -/
structure Terms.Valid (terms : Terms) : Prop where
  lasting : 0 < terms.durationSeconds
  cliff : terms.cliffDurationSeconds ≤ terms.durationSeconds
  penalty : terms.earlyPenaltyBps ≤ maxPenaltyBps

/-- A new schedule. -/
def Terms.opened (terms : Terms) (now scheduleId : ℕ) (funder token beneficiary : Address)
    (amount : ℤ) : VestingSchedule where
  scheduleId := scheduleId
  token := token
  funder := funder
  beneficiary := beneficiary
  totalAmount := amount
  claimedAmount := 0
  startTime := terms.startTime
  cliffTime := terms.startTime + terms.cliffDurationSeconds
  endTime := terms.startTime + terms.durationSeconds
  revocable := terms.revocable
  earlyWithdrawalAllowed := terms.earlyWithdrawalAllowed
  earlyPenaltyBps := terms.earlyPenaltyBps
  active := true
  createdAt := now
  updatedAt := now
  lastClaimedAt := 0

section Creation

variable (terms : Terms) (now : ℕ) (funder token : Address)

/-- The state with one more schedule. -/
def stored (s : State τ) (beneficiary : Address) (amount : ℤ) : State τ :=
  { s with
    scheduleCounter := s.scheduleCounter + 1
    schedule := s.schedule.set (s.scheduleCounter + 1)
      (terms.opened now (s.scheduleCounter + 1) funder token beneficiary amount)
    beneficiarySchedules := s.beneficiarySchedules.set beneficiary
      (beneficiaryScheduleIds s beneficiary ++ [s.scheduleCounter + 1])
    events := s.events ++ [.vestNew (s.scheduleCounter + 1) funder beneficiary amount] }

def storedAll : List (Address × ℤ) → State τ → State τ
  | [], s => s
  | (beneficiary, amount) :: rest, s =>
    storedAll rest (stored terms now funder token s beneficiary amount)

end Creation

/-- The schedule after a claim that brings it to `vested`. -/
def VestingSchedule.paidUpTo (schedule : VestingSchedule) (vested : ℤ) (now : ℕ) :
    VestingSchedule :=
  { schedule with
    claimedAmount := vested, lastClaimedAt := now, updatedAt := now
    active := if vested ≥ schedule.totalAmount then false else schedule.active }

/-- The schedule after an early withdrawal. -/
def VestingSchedule.closed (schedule : VestingSchedule) (now : ℕ) : VestingSchedule :=
  { schedule with
    claimedAmount := schedule.totalAmount, active := false, updatedAt := now
    lastClaimedAt := now }

def VestingSchedule.toppedUp (schedule : VestingSchedule) (amount : ℤ) (now : ℕ) :
    VestingSchedule :=
  { schedule with totalAmount := schedule.totalAmount + amount, updatedAt := now }

/-- The schedule after a revocation that leaves it `vested`. -/
def VestingSchedule.revoked (schedule : VestingSchedule) (vested : ℤ) (now : ℕ) :
    VestingSchedule :=
  { schedule with
    totalAmount := vested
    endTime := if vested > schedule.claimedAmount then now else schedule.endTime
    active := decide (schedule.claimedAmount < vested), updatedAt := now }

/-- A beneficiary takes what one schedule has released. -/
inductive Claim (tok : Token τ) (self : Address) (now : ℕ) (beneficiary : Address)
    (s : State τ) : State τ → Prop
  | mk (id : ℕ) (schedule : VestingSchedule) (tokens : τ)
      (found : s.schedule.get? id = some schedule) (owner : schedule.beneficiary = beneficiary)
      (active : schedule.active = true)
      (due : schedule.claimedAmount < schedule.vestedAt now)
      (paid : tok.transfer s.tokens schedule.token self beneficiary
        (schedule.vestedAt now - schedule.claimedAmount) = some tokens) :
      Claim tok self now beneficiary s
        { s with
          schedule := s.schedule.set id (schedule.paidUpTo (schedule.vestedAt now) now)
          reentrancyLock := false, tokens
          events := s.events ++
            [.vestClm id beneficiary (schedule.vestedAt now - schedule.claimedAmount)] }

/-- Any number of claims of one beneficiary. -/
def Claims (tok : Token τ) (self : Address) (now : ℕ) (beneficiary : Address) :
    State τ → State τ → Prop :=
  Relation.ReflTransGen (Claim tok self now beneficiary)

/-- Who creates schedules in an invocation, if anybody does. -/
def Op.creator : Op → Option Address
  | .createSchedule funder _ _ _ _ => some funder
  | .createSchedulesBatch funder _ _ _ _ => some funder
  | _ => none

/-- Who claims in an invocation, if anybody does. -/
def Op.claimant : Op → Option Address
  | .claim _ beneficiary => some beneficiary
  | .claimBatch _ beneficiary => some beneficiary
  | _ => none

inductive Effect (tok : Token τ) (self : Address) (s : State τ) : Action τ → State τ → Prop
  | transfers (tokens : τ) : Effect tok self s (.transfers tokens) { s with tokens }
  | initializeContract (env : Env) (admin : Address) (fresh : s.admin = none) :
      Effect tok self s (.call env (.initializeContract admin))
        { s with
          admin := some admin, scheduleCounter := 0, reentrancyLock := false
          events := s.events ++ [.vestInit admin] }
  | creates (env : Env) (op : Op) (funder token : Address) (terms : Terms)
      (entries : List (Address × ℤ)) (tokens : τ) (batch : List Event)
      (creator : op.creator = some funder) (valid : terms.Valid)
      (positive : ∀ e ∈ entries, 0 < e.2)
      (paid : tok.transfer s.tokens token funder self (entries.map Prod.snd).sum = some tokens)
      (summary : batch = [] ∨ ∃ count, batch =
        [.vestBat funder token count (entries.map Prod.snd).sum]) :
      Effect tok self s (.call env op)
        { storedAll terms env.timestamp funder token entries
            { s with tokens, reentrancyLock := false } with
          events := (storedAll terms env.timestamp funder token entries
            { s with tokens, reentrancyLock := false }).events ++ batch }
  | claims (env : Env) (op : Op) (beneficiary : Address) (s₁ : State τ) (batch : List Event)
      (claimant : op.claimant = some beneficiary)
      (claims : Claims tok self env.timestamp beneficiary s s₁)
      (summary : batch = [] ∨ ∃ paid, batch = [.vestBcl beneficiary paid]) :
      Effect tok self s (.call env op) { s₁ with events := s₁.events ++ batch }
  | earlyWithdraw (env : Env) (id : ℕ) (beneficiary : Address) (schedule : VestingSchedule)
      (payout penalty : ℤ) (tokens : τ) (found : s.schedule.get? id = some schedule)
      (owner : schedule.beneficiary = beneficiary) (active : schedule.active = true)
      (penalty_eq : penalty = penaltyOf (schedule.totalAmount - schedule.vestedAt env.timestamp)
        schedule.earlyPenaltyBps)
      (payout_eq : payout = max (schedule.vestedAt env.timestamp - schedule.claimedAmount) 0 +
        (schedule.totalAmount - schedule.vestedAt env.timestamp - penalty))
      (paid : tok.settle s.tokens (leg schedule.token self beneficiary payout ++
        leg schedule.token self schedule.funder penalty) = some tokens) :
      Effect tok self s (.call env (.earlyWithdraw id beneficiary))
        { s with
          schedule := s.schedule.set id (schedule.closed env.timestamp)
          reentrancyLock := false, tokens
          events := s.events ++ [.vestEar id beneficiary payout penalty schedule.funder] }
  | modifySchedule (env : Env) (admin : Address) (id : ℕ) (changes : Changes)
      (schedule : VestingSchedule) (start cliff finish : ℕ) (allowed : Bool) (penalty : ℕ)
      (retimed : VestingSchedule) (found : s.schedule.get? id = some schedule)
      (active : schedule.active = true) (ordered : start ≤ cliff ∧ cliff ≤ finish ∧ start < finish)
      (bounded : penalty = schedule.earlyPenaltyBps ∨ penalty ≤ maxPenaltyBps)
      (retimed_eq : retimed = { schedule with
        beneficiary := changes.newBeneficiary.getD schedule.beneficiary, startTime := start
        cliffTime := cliff, endTime := finish, earlyWithdrawalAllowed := allowed
        earlyPenaltyBps := penalty, updatedAt := env.timestamp })
      (kept : schedule.claimedAmount ≤ retimed.vestedAt env.timestamp) :
      Effect tok self s (.call env (.modifySchedule admin id changes))
        { s with
          schedule := s.schedule.set id retimed
          beneficiarySchedules :=
            (moveBeneficiarySchedule s schedule id changes.newBeneficiary).beneficiarySchedules
          events := s.events ++ [.vestMod id admin] }
  | increaseScheduleAmount (env : Env) (funder : Address) (id : ℕ) (amount : ℤ)
      (schedule : VestingSchedule) (tokens : τ) (positive : 0 < amount)
      (found : s.schedule.get? id = some schedule) (owner : schedule.funder = funder)
      (active : schedule.active = true)
      (paid : tok.transfer s.tokens schedule.token funder self amount = some tokens) :
      Effect tok self s (.call env (.increaseScheduleAmount funder id amount))
        { s with
          schedule := s.schedule.set id (schedule.toppedUp amount env.timestamp)
          reentrancyLock := false, tokens
          events := s.events ++ [.vestAdd id funder amount] }
  | revokeSchedule (env : Env) (admin : Address) (id : ℕ) (schedule : VestingSchedule)
      (vested : ℤ) (tokens : τ) (lock : Bool) (found : s.schedule.get? id = some schedule)
      (active : schedule.active = true) (vested_eq : vested = schedule.vestedAt env.timestamp)
      (paid : tok.settle s.tokens (leg schedule.token self schedule.funder
        (schedule.totalAmount - vested)) = some tokens) :
      Effect tok self s (.call env (.revokeSchedule admin id))
        { s with
          schedule := s.schedule.set id (schedule.revoked vested env.timestamp)
          reentrancyLock := lock, tokens
          events := s.events ++ [.vestRev id admin (schedule.totalAmount - vested)] }

section Calls

variable {tok : Token τ} {self : Address} {s s' : State τ} {env : Env} {β : Type} {t : β}

theorem assertAdmin_bind {caller : Address} {f : Unit → Result β} :
    (assertAdmin s caller >>= f) = .ok t ↔ s.admin = some caller ∧ f () = .ok t := by
  unfold assertAdmin
  cases s.admin with
  | none => simp [expect, bind, Except.bind]
  | some admin =>
    by_cases h : caller = admin <;> simp [expect, bind, Except.bind, panicIf, h, eq_comm]

theorem loadSchedule_bind {id : ℕ} {f : VestingSchedule → Result β} :
    (loadSchedule s id >>= f) = .ok t ↔
      id ≠ 0 ∧ ∃ schedule, s.schedule.get? id = some schedule ∧ f schedule = .ok t := by
  unfold loadSchedule
  by_cases h : id = 0
  · simp [panicIf, h, bind, Except.bind]
  · rw [panicIf_of_not h, ok_bind, expect_bind]
    simp [h]

theorem validateTiming_bind {start cliff duration : ℕ} {f : Unit → Result β} :
    (validateTiming start cliff duration >>= f) = .ok t ↔
      (0 < duration ∧ cliff ≤ duration ∧ start + cliff < 2 ^ 64 ∧ start + duration < 2 ^ 64) ∧
        f () = .ok t := by
  unfold validateTiming
  simp only [bind_assoc, panicIf_bind, U64.checked_bind, ok_bind, not_lt, ← ne_eq,
    ← Nat.pos_iff_ne_zero, and_assoc]

theorem transferTokenUnchecked_ok {token source target : Address} {amount : ℤ}
    (h : transferTokenUnchecked tok s token source target amount = .ok s') :
    0 < amount ∧ ∃ tokens, tok.transfer s.tokens token source target amount = some tokens ∧
      s' = { s with tokens } := by
  unfold transferTokenUnchecked at h
  rw [panicIf_bind, Token.pay_bind, not_le] at h
  obtain ⟨hpos, tokens, htransfer, h⟩ := h
  cases h
  exact ⟨hpos, tokens, htransfer, rfl⟩

theorem enterNonReentrant_ok (h : enterNonReentrant s = .ok s') :
    s' = { s with reentrancyLock := true } := by
  unfold enterNonReentrant at h
  rw [panicIf_bind] at h
  cases h.2
  rfl

theorem transferToken_ok {token source target : Address} {amount : ℤ}
    (h : transferToken tok s token source target amount = .ok s') :
    ∃ tokens, tok.transfer s.tokens token source target amount = some tokens ∧
      s' = { s with tokens, reentrancyLock := false } := by
  unfold transferToken at h
  obtain ⟨s₁, henter, h⟩ := bind_ok.mp h
  obtain ⟨s₂, hpay, h⟩ := bind_ok.mp h
  obtain rfl := enterNonReentrant_ok henter
  obtain ⟨-, tokens, htransfer, rfl⟩ := transferTokenUnchecked_ok hpay
  cases h
  exact ⟨tokens, htransfer, rfl⟩

/-- A conditional payment inside of a held lock. -/
theorem transferIfPositive_ok {token source target : Address} {amount : ℤ}
    (h : transferIfPositive (transferTokenUnchecked tok) s token source target amount = .ok s') :
    ∃ tokens, tok.settle s.tokens (leg token source target amount) = some tokens ∧
      s' = { s with tokens } := by
  unfold transferIfPositive at h
  unfold leg
  split at h
  · rename_i hpos
    obtain ⟨-, tokens, htransfer, rfl⟩ := transferTokenUnchecked_ok h
    rw [if_pos hpos]
    exact ⟨tokens, Token.settle_one htransfer, rfl⟩
  · rename_i hzero
    cases h
    rw [if_neg hzero]
    exact ⟨s.tokens, rfl, rfl⟩

/-- A conditional payment with a lock of its own. -/
theorem transferIfPositive_locked_ok {token source target : Address} {amount : ℤ}
    (h : transferIfPositive (transferToken tok) s token source target amount = .ok s') :
    ∃ tokens lock, tok.settle s.tokens (leg token source target amount) = some tokens ∧
      (s.reentrancyLock = false → lock = false) ∧
      s' = { s with tokens, reentrancyLock := lock } := by
  unfold transferIfPositive at h
  unfold leg
  split at h
  · rename_i hpos
    obtain ⟨tokens, htransfer, rfl⟩ := transferToken_ok h
    rw [if_pos hpos]
    exact ⟨tokens, false, Token.settle_one htransfer, fun _ => rfl, rfl⟩
  · rename_i hzero
    cases h
    rw [if_neg hzero]
    exact ⟨s.tokens, s.reentrancyLock, rfl, id, rfl⟩

theorem storeNext_ok {funder token beneficiary : Address} {amount : ℤ} {terms : Terms}
    {f : ℕ → State τ → Result β}
    (h : (nextScheduleId s >>= fun r =>
      storeSchedule env r.1 funder token beneficiary amount terms r.2 >>= f r.1) = .ok t) :
    f (s.scheduleCounter + 1)
      (stored terms env.timestamp funder token s beneficiary amount) = .ok t := by
  unfold nextScheduleId at h
  simp only [bind_assoc, U64.checked_bind, ok_bind, storeSchedule] at h
  obtain ⟨-, -, -, h⟩ := h
  exact h

theorem storeEach_ok {funder token : Address} {terms : Terms} {entries : List (Address × ℤ)}
    {ids : List ℕ} {r : List ℕ × State τ}
    (h : storeEach env funder token terms entries ids s = .ok r) :
    r.2 = storedAll terms env.timestamp funder token entries s := by
  induction entries generalizing ids s with
  | nil =>
    cases h
    rfl
  | cons e rest ih =>
    obtain ⟨beneficiary, amount⟩ := e
    unfold storeEach at h
    exact ih (storeNext_ok (f := fun id s => storeEach env funder token terms rest (ids ++ [id]) s) h)

theorem batchTotal_ok {amounts : List ℤ} {total r : ℤ} (h : batchTotal amounts total = .ok r) :
    (∀ amount ∈ amounts, 0 < amount) ∧ r = total + amounts.sum := by
  induction amounts generalizing total with
  | nil =>
    cases h
    simp
  | cons amount rest ih =>
    unfold batchTotal validateAmount at h
    rw [panicIf_bind, I128.checked_bind, not_le] at h
    obtain ⟨hpos, -, h⟩ := h
    obtain ⟨hrest, hsum⟩ := ih h
    refine ⟨fun n hn => ?_, by rw [hsum, List.sum_cons]; ring⟩
    rcases List.mem_cons.mp hn with rfl | hn
    · exact hpos
    · exact hrest n hn

theorem createSchedule_ok {funder token beneficiary : Address} {amount : ℤ} {terms : Terms}
    {r : ℕ × State τ}
    (h : createSchedule tok self env funder token beneficiary amount terms s = .ok r) :
    terms.Valid ∧ 0 < amount ∧
      ∃ tokens, tok.transfer s.tokens token funder self amount = some tokens ∧
        r.2 = stored terms env.timestamp funder token { s with tokens, reentrancyLock := false }
          beneficiary amount := by
  unfold createSchedule validateAmount validatePenalty at h
  rw [requireAuth_bind, panicIf_bind, validateTiming_bind, panicIf_bind, not_le, not_lt] at h
  obtain ⟨-, hpos, ⟨hlasting, hcliff, -, -⟩, hpenalty, h⟩ := h
  obtain ⟨s₁, hpay, h⟩ := bind_ok.mp h
  obtain ⟨tokens, hpaid, rfl⟩ := transferToken_ok hpay
  have hstored := storeNext_ok (f := fun id s => .ok (id, s)) h
  cases hstored
  exact ⟨⟨hlasting, hcliff, hpenalty⟩, hpos, tokens, hpaid, rfl⟩

theorem createSchedule_effect {funder token beneficiary : Address} {amount : ℤ} {terms : Terms}
    {r : ℕ × State τ}
    (h : createSchedule tok self env funder token beneficiary amount terms s = .ok r) :
    Effect tok self s (.call env (.createSchedule funder token beneficiary amount terms)) r.2 := by
  obtain ⟨hvalid, hpos, tokens, hpaid, hr⟩ := createSchedule_ok h
  have heffect : Effect tok self s
      (.call env (.createSchedule funder token beneficiary amount terms)) _ :=
    .creates env _ funder token terms [(beneficiary, amount)] tokens [] rfl hvalid
      (by simpa using hpos) (by simpa using hpaid) (.inl rfl)
  rw [List.append_nil] at heffect
  rw [hr]
  exact heffect

theorem createSchedulesBatch_ok {funder token : Address} {beneficiaries : List Address}
    {amounts : List ℤ} {terms : Terms} {r : List ℕ × State τ}
    (h : createSchedulesBatch tok self env funder token beneficiaries amounts terms s = .ok r) :
    terms.Valid ∧ (∀ amount ∈ amounts, 0 < amount) ∧ beneficiaries.length = amounts.length ∧
      ∃ tokens, tok.transfer s.tokens token funder self amounts.sum = some tokens ∧
        r.2 = publish (storedAll terms env.timestamp funder token (beneficiaries.zip amounts)
            { s with tokens, reentrancyLock := false })
          (.vestBat funder token beneficiaries.length amounts.sum) := by
  unfold createSchedulesBatch validatePenalty at h
  simp only [requireAuth_bind, panicIf_bind, validateTiming_bind, not_lt, not_ne_iff] at h
  obtain ⟨-, -, -, hlength, ⟨hlasting, hcliff, -, -⟩, hpenalty, h⟩ := h
  obtain ⟨total, htotal, h⟩ := bind_ok.mp h
  obtain ⟨s₁, hpay, h⟩ := bind_ok.mp h
  obtain ⟨⟨ids, s₂⟩, hstore, h⟩ := bind_ok.mp h
  obtain ⟨tokens, hpaid, rfl⟩ := transferToken_ok hpay
  obtain ⟨hpositive, rfl⟩ := batchTotal_ok htotal
  obtain rfl : s₂ = _ := storeEach_ok hstore
  cases h
  rw [zero_add] at hpaid ⊢
  exact ⟨⟨hlasting, hcliff, hpenalty⟩, hpositive, hlength, tokens, hpaid, rfl⟩

theorem createSchedulesBatch_effect {funder token : Address} {beneficiaries : List Address}
    {amounts : List ℤ} {terms : Terms} {r : List ℕ × State τ}
    (h : createSchedulesBatch tok self env funder token beneficiaries amounts terms s = .ok r) :
    Effect tok self s
      (.call env (.createSchedulesBatch funder token beneficiaries amounts terms)) r.2 := by
  obtain ⟨hvalid, hpositive, hlength, tokens, hpaid, hr⟩ := createSchedulesBatch_ok h
  have hamounts : (beneficiaries.zip amounts).map Prod.snd = amounts :=
    List.map_snd_zip hlength.ge
  rw [hr]
  refine .creates env _ funder token terms (beneficiaries.zip amounts) tokens _ rfl hvalid
    (fun e he => hpositive e.2 (List.of_mem_zip he).2) ?_ (.inr ⟨beneficiaries.length, ?_⟩)
  · rw [hamounts]
    exact hpaid
  · rw [hamounts]

/-- A claim of one schedule pays what it released since the last one, or finds that
there is nothing to pay. -/
theorem claimOne_ok {id : ℕ} {beneficiary : Address} {requirePositive : Bool} {r : ℤ × State τ}
    (h : claimOne tok self env id beneficiary requirePositive s = .ok r) :
    ∃ schedule, s.schedule.get? id = some schedule ∧ schedule.beneficiary = beneficiary ∧
      (r = (0, s) ∧ (schedule.active = true →
          vestedFor schedule env.timestamp = .ok (schedule.vestedAt env.timestamp) ∧
            schedule.vestedAt env.timestamp ≤ schedule.claimedAmount) ∨
        schedule.active = true ∧
          vestedFor schedule env.timestamp = .ok (schedule.vestedAt env.timestamp) ∧
          schedule.claimedAmount < schedule.vestedAt env.timestamp ∧
          ∃ tokens, tok.transfer s.tokens schedule.token self beneficiary
              (schedule.vestedAt env.timestamp - schedule.claimedAmount) = some tokens ∧
            r = (schedule.vestedAt env.timestamp - schedule.claimedAmount, { s with
              schedule := s.schedule.set id
                (schedule.paidUpTo (schedule.vestedAt env.timestamp) env.timestamp)
              reentrancyLock := false, tokens
              events := s.events ++ [.vestClm id beneficiary
                (schedule.vestedAt env.timestamp - schedule.claimedAmount)] })) := by
  unfold claimOne at h
  rw [loadSchedule_bind] at h
  obtain ⟨-, schedule, hfound, h⟩ := h
  rw [panicIf_bind, not_ne_iff] at h
  obtain ⟨howner, h⟩ := h
  refine ⟨schedule, hfound, howner, ?_⟩
  split at h
  · rename_i hclosed
    split at h <;> cases h
    exact .inl ⟨rfl, fun hactive => (by rw [hclosed] at hactive; cases hactive)⟩
  · rename_i hactive
    obtain ⟨vested, hvested, h⟩ := bind_ok.mp h
    obtain ⟨claimable, hclaimable, h⟩ := bind_ok.mp h
    have hpart := claimableFromVested_ok hclaimable
    have hvalue := vestedFor_ok hvested
    rw [hvalue] at hvested hpart
    split at h
    · split at h <;> cases h
      exact .inl ⟨rfl, fun _ => ⟨hvested, by omega⟩⟩
    · rename_i hpos
      rw [I128.checked_bind] at h
      obtain ⟨-, h⟩ := h
      obtain ⟨s₁, hpay, h⟩ := bind_ok.mp h
      obtain ⟨tokens, hpaid, rfl⟩ := transferToken_ok hpay
      cases h
      obtain rfl : claimable = schedule.vestedAt env.timestamp - schedule.claimedAmount := by
        omega
      have hall : schedule.claimedAmount +
          (schedule.vestedAt env.timestamp - schedule.claimedAmount) =
          schedule.vestedAt env.timestamp := by ring
      simp only [hall]
      exact .inr ⟨by simpa using hactive, hvested, by omega, tokens, hpaid, rfl⟩

theorem claimOne_claims {id : ℕ} {beneficiary : Address} {requirePositive : Bool}
    {r : ℤ × State τ} (h : claimOne tok self env id beneficiary requirePositive s = .ok r) :
    Claims tok self env.timestamp beneficiary s r.2 := by
  obtain ⟨schedule, hfound, howner, ⟨rfl, -⟩ | ⟨hactive, -, hdue, tokens, hpaid, rfl⟩⟩ :=
    claimOne_ok h
  · exact .refl
  · exact .single (.mk id schedule tokens hfound howner hactive hdue hpaid)

theorem claimEach_claims {beneficiary : Address} {ids : List ℕ} {totalPaid : ℤ}
    {r : ℤ × State τ} (h : claimEach tok self env beneficiary ids totalPaid s = .ok r) :
    Claims tok self env.timestamp beneficiary s r.2 := by
  induction ids generalizing totalPaid s with
  | nil =>
    cases h
    exact .refl
  | cons id rest ih =>
    unfold claimEach at h
    obtain ⟨⟨paid, s₁⟩, hone, h⟩ := bind_ok.mp h
    rw [I128.checked_bind] at h
    exact (claimOne_claims hone).trans (ih h.2)

theorem earlyWithdraw_effect {id : ℕ} {beneficiary : Address}
    {r : EarlyWithdrawalResult × State τ}
    (h : earlyWithdraw tok self env id beneficiary s = .ok r) :
    Effect tok self s (.call env (.earlyWithdraw id beneficiary)) r.2 := by
  unfold earlyWithdraw at h
  rw [requireAuth_bind, loadSchedule_bind] at h
  obtain ⟨-, -, schedule, hfound, h⟩ := h
  rw [panicIf_bind, panicIf_bind, panicIf_bind, not_ne_iff, Bool.not_eq_false] at h
  obtain ⟨howner, hactive, -, h⟩ := h
  obtain ⟨vested, hvested, h⟩ := bind_ok.mp h
  obtain ⟨claimable, hclaimable, h⟩ := bind_ok.mp h
  rw [I128.checked_bind] at h
  obtain ⟨penalty, hpenalty, h⟩ := bind_ok.mp h.2
  simp only [I128.checked_bind, panicIf_bind] at h
  obtain ⟨-, -, -, h⟩ := h
  obtain ⟨s₁, henter, h⟩ := bind_ok.mp h
  obtain rfl := enterNonReentrant_ok henter
  obtain ⟨s₂, hfirst, h⟩ := bind_ok.mp h
  obtain ⟨s₃, hsecond, h⟩ := bind_ok.mp h
  obtain ⟨tokens₁, hpaid₁, rfl⟩ := transferIfPositive_ok hfirst
  obtain ⟨tokens₂, hpaid₂, rfl⟩ := transferIfPositive_ok hsecond
  cases h
  obtain rfl := claimableFromVested_ok hclaimable
  obtain rfl := vestedFor_ok hvested
  exact .earlyWithdraw env id beneficiary schedule _ penalty tokens₂ hfound howner hactive
    (calculatePenalty_ok hpenalty) rfl (Token.settle_append hpaid₁ hpaid₂)

theorem penaltyAfter_ok {schedule : VestingSchedule} {newPenalty : Option ℕ} {penalty : ℕ}
    (h : penaltyAfter schedule newPenalty = .ok penalty) :
    penalty = schedule.earlyPenaltyBps ∨ penalty ≤ maxPenaltyBps := by
  unfold penaltyAfter at h
  cases newPenalty with
  | none =>
    cases h
    exact .inl rfl
  | some newPenalty =>
    simp only [validatePenalty, panicIf_bind, not_lt] at h
    obtain ⟨hle, h⟩ := h
    cases h
    exact .inr hle

theorem moveBeneficiarySchedule_frame (schedule : VestingSchedule) (id : ℕ)
    (newBeneficiary : Option Address) :
    moveBeneficiarySchedule s schedule id newBeneficiary = { s with
      beneficiarySchedules :=
        (moveBeneficiarySchedule s schedule id newBeneficiary).beneficiarySchedules } := by
  cases newBeneficiary <;> rfl

theorem modifySchedule_effect {admin : Address} {id : ℕ} {changes : Changes}
    {r : VestingSchedule × State τ} (h : modifySchedule env admin id changes s = .ok r) :
    Effect tok self s (.call env (.modifySchedule admin id changes)) r.2 := by
  unfold modifySchedule at h
  rw [requireAuth_bind, assertAdmin_bind, loadSchedule_bind] at h
  obtain ⟨-, -, -, schedule, hfound, h⟩ := h
  simp only [panicIf_bind, Bool.not_eq_false, U64.checkedSub_bind, validateTiming_bind,
    U64.checked_bind] at h
  obtain ⟨hactive, -, -, ⟨hlasting, hcliff, -, -⟩, -, -, h⟩ := h
  obtain ⟨penalty, hpenalty, h⟩ := bind_ok.mp h
  obtain ⟨vested, hvested, h⟩ := bind_ok.mp h
  rw [panicIf_bind, not_lt, vestedFor_ok hvested] at h
  obtain ⟨hkept, h⟩ := h
  cases h
  rw [moveBeneficiarySchedule_frame]
  exact .modifySchedule env admin id changes schedule _ _ _ _ penalty _ hfound hactive
    ⟨by omega, by omega, by omega⟩ (penaltyAfter_ok hpenalty) rfl hkept

theorem increaseScheduleAmount_effect {funder : Address} {id : ℕ} {amount : ℤ}
    {r : VestingSchedule × State τ}
    (h : increaseScheduleAmount tok self env funder id amount s = .ok r) :
    Effect tok self s (.call env (.increaseScheduleAmount funder id amount)) r.2 := by
  unfold increaseScheduleAmount validateAmount at h
  rw [requireAuth_bind, panicIf_bind, loadSchedule_bind, not_le] at h
  obtain ⟨-, hpos, -, schedule, hfound, h⟩ := h
  rw [panicIf_bind, panicIf_bind, I128.checked_bind, not_ne_iff, Bool.not_eq_false] at h
  obtain ⟨howner, hactive, -, h⟩ := h
  obtain ⟨s₁, hpay, h⟩ := bind_ok.mp h
  obtain ⟨tokens, hpaid, rfl⟩ := transferToken_ok hpay
  cases h
  exact .increaseScheduleAmount env funder id amount schedule tokens hpos hfound howner hactive hpaid

/-- A revocation keeps what is released and gives back the rest. -/
theorem revokeSchedule_ok {admin : Address} {id : ℕ} {r : ℤ × State τ}
    (h : revokeSchedule tok self env admin id s = .ok r) :
    ∃ schedule, s.schedule.get? id = some schedule ∧ schedule.active = true ∧
      vestedFor schedule env.timestamp = .ok (schedule.vestedAt env.timestamp) ∧
      ∃ tokens lock, tok.settle s.tokens (leg schedule.token self schedule.funder
          (schedule.totalAmount - schedule.vestedAt env.timestamp)) = some tokens ∧
        (s.reentrancyLock = false → lock = false) ∧
        r = (schedule.totalAmount - schedule.vestedAt env.timestamp, { s with
          schedule := s.schedule.set id
            (schedule.revoked (schedule.vestedAt env.timestamp) env.timestamp)
          reentrancyLock := lock, tokens
          events := s.events ++
            [.vestRev id admin (schedule.totalAmount - schedule.vestedAt env.timestamp)] }) := by
  unfold revokeSchedule at h
  rw [requireAuth_bind, assertAdmin_bind, loadSchedule_bind] at h
  obtain ⟨-, -, -, schedule, hfound, h⟩ := h
  rw [panicIf_bind, panicIf_bind, Bool.not_eq_false] at h
  obtain ⟨hactive, -, h⟩ := h
  obtain ⟨vested, hvested, h⟩ := bind_ok.mp h
  obtain rfl := vestedFor_ok hvested
  rw [I128.checked_bind] at h
  obtain ⟨s₁, hpay, h⟩ := bind_ok.mp h.2
  obtain ⟨tokens, lock, hpaid, hlock, rfl⟩ := transferIfPositive_locked_ok hpay
  cases h
  exact ⟨schedule, hfound, hactive, hvested, tokens, lock, hpaid, hlock, rfl⟩

theorem revokeSchedule_effect {admin : Address} {id : ℕ} {r : ℤ × State τ}
    (h : revokeSchedule tok self env admin id s = .ok r) :
    Effect tok self s (.call env (.revokeSchedule admin id)) r.2 := by
  obtain ⟨schedule, hfound, hactive, -, tokens, lock, hpaid, -, rfl⟩ := revokeSchedule_ok h
  exact .revokeSchedule env admin id schedule _ tokens lock hfound hactive rfl hpaid

/-- Every completed invocation has its effect. -/
theorem next_effect {a : Action τ} (h : next tok self a s = .ok s') : Effect tok self s a s' := by
  cases a with
  | transfers tokens =>
    cases h
    exact .transfers tokens
  | call env op =>
    cases op with
    | initializeContract admin =>
      simp only [next, invoke, initializeContract] at h
      rw [panicIf_bind, requireAuth_bind, Option.not_isSome_iff_eq_none] at h
      obtain ⟨hfresh, -, h⟩ := h
      cases h
      exact .initializeContract env admin hfresh
    | createSchedule =>
      obtain ⟨r, hr, rfl⟩ := map_ok.mp h
      exact createSchedule_effect hr
    | createSchedulesBatch =>
      obtain ⟨r, hr, rfl⟩ := map_ok.mp h
      exact createSchedulesBatch_effect hr
    | claim id beneficiary =>
      obtain ⟨r, hr, rfl⟩ := map_ok.mp h
      unfold claim at hr
      rw [requireAuth_bind] at hr
      obtain ⟨-, hr⟩ := hr
      obtain ⟨⟨paid, s₁⟩, hone, hr⟩ := bind_ok.mp hr
      rw [panicIf_bind] at hr
      obtain ⟨-, hr⟩ := hr
      cases hr
      have heffect : Effect tok self s (.call env (.claim id beneficiary)) _ :=
        .claims env _ beneficiary s₁ [] rfl (claimOne_claims hone) (.inl rfl)
      rw [List.append_nil] at heffect
      exact heffect
    | claimBatch ids beneficiary =>
      obtain ⟨r, hr, rfl⟩ := map_ok.mp h
      unfold claimBatch at hr
      rw [requireAuth_bind, panicIf_bind, panicIf_bind] at hr
      obtain ⟨-, -, -, hr⟩ := hr
      obtain ⟨⟨paid, s₁⟩, hall, hr⟩ := bind_ok.mp hr
      rw [panicIf_bind] at hr
      obtain ⟨-, hr⟩ := hr
      cases hr
      exact .claims env _ beneficiary s₁ _ rfl (claimEach_claims hall) (.inr ⟨paid, rfl⟩)
    | earlyWithdraw =>
      obtain ⟨r, hr, rfl⟩ := map_ok.mp h
      exact earlyWithdraw_effect hr
    | modifySchedule =>
      obtain ⟨r, hr, rfl⟩ := map_ok.mp h
      exact modifySchedule_effect hr
    | increaseScheduleAmount =>
      obtain ⟨r, hr, rfl⟩ := map_ok.mp h
      exact increaseScheduleAmount_effect hr
    | revokeSchedule =>
      obtain ⟨r, hr, rfl⟩ := map_ok.mp h
      exact revokeSchedule_effect hr

end Calls

end TokenVesting
