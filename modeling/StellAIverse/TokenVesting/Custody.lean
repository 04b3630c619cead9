import StellAIverse.TokenVesting.Index
import StellAIverse.Soroban.Donations

/-!
# Custody of vested tokens

The contract holds what its active schedules have not paid yet. An early
withdrawal pays everything that is left, which is right because no schedule has
paid more than it has released: re-timing is refused where it would undo that,
a top-up releases at least as much as before, and a revocation stops at what is
released.
-/

namespace TokenVesting

open Soroban

variable {τ : Type} {tok : Token τ} {self : Address} {s s' : State τ} {a : Action τ}

/-- Funders and beneficiaries that pay or are paid in an invocation. -/
def Op.parties : Op → List Address
  | .createSchedule funder _ _ _ _ => [funder]
  | .createSchedulesBatch funder _ _ _ _ => [funder]
  | .claim _ beneficiary => [beneficiary]
  | .claimBatch _ beneficiary => [beneficiary]
  | .earlyWithdraw _ beneficiary => [beneficiary]
  | .increaseScheduleAmount funder _ _ => [funder]
  | _ => []

/-- The contract is no party to its own calls, and other transfers do not spend
what it holds. -/
def Action.Outside (tok : Token τ) (self : Address) (s : State τ) : Action τ → Prop
  | .call _ op => self ∉ op.parties
  | .transfers tokens => ∀ t, tok.balance s.tokens t self ≤ tok.balance tokens t self

/-- Transfers of tokens that are no invocation. -/
def Action.elsewhere : Action τ → Option τ
  | .call _ _ => none
  | .transfers tokens => some tokens

def accounts : Accounts τ (State τ) (Action τ) := ⟨State.tokens, Action.elsewhere⟩

/-- What an active schedule still has to pay. -/
def VestingSchedule.due (schedule : VestingSchedule) : ℤ :=
  if schedule.active = true then schedule.totalAmount - schedule.claimedAmount else 0

/-- What all active schedules still have to pay in one token. -/
def outstanding (schedules : Store ℕ VestingSchedule) (t : Address) : ℤ :=
  schedules.total fun _ schedule => if schedule.token = t then schedule.due else 0

section Events

variable (id : ℕ)

def Event.funded : Event → ℤ
  | .vestNew id' _ _ amount => if id' = id then amount else 0
  | .vestAdd id' _ amount => if id' = id then amount else 0
  | _ => 0

def Event.toBeneficiary : Event → ℤ
  | .vestClm id' _ amount => if id' = id then amount else 0
  | .vestEar id' _ payout _ _ => if id' = id then payout else 0
  | _ => 0

/-- Penalties and refunds. -/
def Event.toFunder : Event → ℤ
  | .vestEar id' _ _ penalty _ => if id' = id then penalty else 0
  | .vestRev id' _ refund => if id' = id then refund else 0
  | _ => 0

def Event.net (e : Event) : ℤ := e.funded id - e.toBeneficiary id - e.toFunder id

/-- All amounts of one kind that the events name for a schedule. -/
def named (amount : ℕ → Event → ℤ) (events : List Event) : ℤ := (events.map (amount id)).sum

end Events

theorem named_append (id : ℕ) (amount : ℕ → Event → ℤ) (events events' : List Event) :
    named id amount (events ++ events') = named id amount events + named id amount events' := by
  simp [named]

theorem named_net (id : ℕ) (events : List Event) :
    named id (fun id e => e.net id) events = named id (fun id e => e.funded id) events -
      named id (fun id e => e.toBeneficiary id) events -
      named id (fun id e => e.toFunder id) events := by
  induction events with
  | nil => rfl
  | cons e rest ih =>
    simp only [named, List.map_cons, List.sum_cons, Event.net] at ih ⊢
    omega

section Release

variable {schedule : VestingSchedule} {t t' : ℕ}

/-- A schedule starts before it ends, with the cliff in between. -/
def VestingSchedule.Ordered (schedule : VestingSchedule) : Prop :=
  schedule.startTime ≤ schedule.cliffTime ∧ schedule.cliffTime ≤ schedule.endTime ∧
    schedule.startTime < schedule.endTime

theorem vestedAt_bounds (ho : schedule.Ordered) (h0 : 0 ≤ schedule.totalAmount) (t : ℕ) :
    0 ≤ schedule.vestedAt t ∧ schedule.vestedAt t ≤ schedule.totalAmount := by
  obtain ⟨-, -, hlt⟩ := ho
  unfold VestingSchedule.vestedAt
  split
  · exact ⟨le_rfl, h0⟩
  · split
    · exact ⟨h0, le_rfl⟩
    · have hd : (0 : ℤ) < (schedule.endTime - schedule.startTime : ℕ) := by omega
      have hpart : (0 : ℤ) ≤ (t - schedule.startTime : ℕ) := Int.natCast_nonneg _
      have hle : ((t - schedule.startTime : ℕ) : ℤ) ≤ (schedule.endTime - schedule.startTime : ℕ) := by
        omega
      refine ⟨Int.tdiv_nonneg (mul_nonneg h0 hpart) hd.le, ?_⟩
      have hfloor := I128.tdiv_mul_le (mul_nonneg h0 hpart) hd
      exact le_of_mul_le_mul_right (hfloor.trans (mul_le_mul_of_nonneg_left hle h0)) hd

/-- Nothing that is released is taken back. -/
theorem vestedAt_mono (ho : schedule.Ordered) (h0 : 0 ≤ schedule.totalAmount) (h : t ≤ t') :
    schedule.vestedAt t ≤ schedule.vestedAt t' := by
  obtain ⟨hzero', -⟩ := vestedAt_bounds ho h0 t'
  obtain ⟨-, hle⟩ := vestedAt_bounds ho h0 t
  obtain ⟨-, -, hlt⟩ := ho
  by_cases hearly : t < schedule.cliffTime ∨ t ≤ schedule.startTime
  · have hnone : schedule.vestedAt t = 0 := if_pos hearly
    rw [hnone]
    exact hzero'
  · have hlate : ¬ (t' < schedule.cliffTime ∨ t' ≤ schedule.startTime) := by omega
    by_cases hend : t' ≥ schedule.endTime
    · have hall : schedule.vestedAt t' = schedule.totalAmount := by
        unfold VestingSchedule.vestedAt
        rw [if_neg hlate, if_pos hend]
      rw [hall]
      exact hle
    · unfold VestingSchedule.vestedAt
      rw [if_neg hearly, if_neg hlate, if_neg hend, if_neg (by omega)]
      have hd : (0 : ℤ) < (schedule.endTime - schedule.startTime : ℕ) := by omega
      have hpart : ((t - schedule.startTime : ℕ) : ℤ) ≤ (t' - schedule.startTime : ℕ) := by omega
      exact I128.tdiv_le_tdiv_of_cross hd hd
        (mul_le_mul_of_nonneg_right (mul_le_mul_of_nonneg_left hpart h0) hd.le)

/-- A larger total releases at least as much. -/
theorem vestedAt_topUp (ho : schedule.Ordered) {amount : ℤ} (h : 0 ≤ amount) (now t : ℕ) :
    schedule.vestedAt t ≤ (schedule.toppedUp amount now).vestedAt t := by
  obtain ⟨-, -, hlt⟩ := ho
  have htop : (schedule.toppedUp amount now).vestedAt t =
      if t < schedule.cliffTime ∨ t ≤ schedule.startTime then 0
      else if t ≥ schedule.endTime then schedule.totalAmount + amount
      else ((schedule.totalAmount + amount) * (t - schedule.startTime : ℕ)).tdiv
        (schedule.endTime - schedule.startTime : ℕ) := rfl
  rw [htop]
  unfold VestingSchedule.vestedAt
  by_cases hearly : t < schedule.cliffTime ∨ t ≤ schedule.startTime
  · rw [if_pos hearly, if_pos hearly]
  · rw [if_neg hearly, if_neg hearly]
    by_cases hend : t ≥ schedule.endTime
    · rw [if_pos hend, if_pos hend]
      omega
    · rw [if_neg hend, if_neg hend]
      have hd : (0 : ℤ) < (schedule.endTime - schedule.startTime : ℕ) := by omega
      refine I128.tdiv_le_tdiv_of_cross hd hd (mul_le_mul_of_nonneg_right ?_ hd.le)
      exact mul_le_mul_of_nonneg_right (by omega) (Int.natCast_nonneg _)

theorem penaltyOf_bounds {unvested : ℤ} {penaltyBps : ℕ} (h0 : 0 ≤ unvested)
    (hle : penaltyBps ≤ maxPenaltyBps) :
    0 ≤ penaltyOf unvested penaltyBps ∧ penaltyOf unvested penaltyBps ≤ unvested := by
  unfold penaltyOf
  split
  · exact ⟨le_rfl, h0⟩
  · have hd : (0 : ℤ) < bpsDenominator := by decide
    have hscaled : 0 ≤ unvested * (penaltyBps : ℤ) := mul_nonneg h0 (Int.natCast_nonneg _)
    refine ⟨Int.tdiv_nonneg hscaled hd.le, ?_⟩
    have hfloor := I128.tdiv_mul_le hscaled hd
    have hpart : (penaltyBps : ℤ) ≤ bpsDenominator := by
      unfold maxPenaltyBps at hle
      unfold bpsDenominator
      omega
    exact le_of_mul_le_mul_right (hfloor.trans (mul_le_mul_of_nonneg_left hpart h0)) hd

end Release

structure VestingSchedule.Sound (now : ℕ) (schedule : VestingSchedule) : Prop where
  ordered : schedule.Ordered
  claimed : 0 ≤ schedule.claimedAmount
  within : schedule.claimedAmount ≤ schedule.totalAmount
  penalty : schedule.earlyPenaltyBps ≤ maxPenaltyBps
  vested : schedule.active = true → schedule.claimedAmount ≤ schedule.vestedAt now

theorem VestingSchedule.Sound.later {schedule : VestingSchedule} {now now' : ℕ}
    (h : schedule.Sound now) (hle : now ≤ now') : schedule.Sound now' :=
  ⟨h.ordered, h.claimed, h.within, h.penalty, fun hactive =>
    (h.vested hactive).trans (vestedAt_mono h.ordered (h.claimed.trans h.within) hle)⟩

section Records

variable {schedule : VestingSchedule} {now : ℕ}

theorem opened_sound {terms : Terms} (hvalid : terms.Valid) {amount : ℤ} (hpos : 0 < amount)
    (time id : ℕ) (funder token beneficiary : Address) :
    (terms.opened time id funder token beneficiary amount).Sound now := by
  have hordered : (terms.opened time id funder token beneficiary amount).Ordered := by
    have := hvalid.lasting
    have := hvalid.cliff
    refine ⟨?_, ?_, ?_⟩ <;> simp only [Terms.opened] <;> omega
  exact ⟨hordered, le_rfl, hpos.le, hvalid.penalty, fun _ =>
    (vestedAt_bounds hordered hpos.le now).1⟩

theorem paidUpTo_sound (h : schedule.Sound now) :
    (schedule.paidUpTo (schedule.vestedAt now) now).Sound now := by
  obtain ⟨hzero, hle⟩ := vestedAt_bounds h.ordered (h.claimed.trans h.within) now
  exact ⟨h.ordered, hzero, hle, h.penalty, fun _ => le_rfl⟩

theorem closed_sound (h : schedule.Sound now) : (schedule.closed now).Sound now :=
  ⟨h.ordered, h.claimed.trans h.within, le_rfl, h.penalty, fun hactive => (by cases hactive)⟩

theorem toppedUp_sound (h : schedule.Sound now) {amount : ℤ} (hpos : 0 < amount) :
    (schedule.toppedUp amount now).Sound now := by
  refine ⟨h.ordered, h.claimed, ?_, h.penalty, fun hactive => ?_⟩
  · have := h.within
    simp only [VestingSchedule.toppedUp]
    omega
  · exact (h.vested hactive).trans (vestedAt_topUp h.ordered hpos.le _ _)

/-- Re-timing is refused where it would undo what was paid. -/
theorem retimed_sound (h : schedule.Sound now) {start cliff finish penalty : ℕ} {allowed : Bool}
    {beneficiary : Address} {retimed : VestingSchedule}
    (hordered : start ≤ cliff ∧ cliff ≤ finish ∧ start < finish)
    (hbounded : penalty = schedule.earlyPenaltyBps ∨ penalty ≤ maxPenaltyBps)
    (hretimed : retimed = { schedule with
      beneficiary, startTime := start, cliffTime := cliff, endTime := finish
      earlyWithdrawalAllowed := allowed, earlyPenaltyBps := penalty, updatedAt := now })
    (hkept : schedule.claimedAmount ≤ retimed.vestedAt now) : retimed.Sound now := by
  subst hretimed
  refine ⟨hordered, h.claimed, h.within, ?_, fun _ => hkept⟩
  rcases hbounded with rfl | hle
  · exact h.penalty
  · exact hle

/-- A revocation with something released ends the schedule there, after its cliff. -/
theorem revoked_sound {schedule : VestingSchedule} {vested : ℤ} (h : schedule.Sound now)
    (hvested : vested = schedule.vestedAt now)
    (hkept : schedule.claimedAmount ≤ schedule.vestedAt now) :
    (schedule.revoked vested now).Sound now := by
  rw [← hvested] at hkept
  by_cases hopen : vested > schedule.claimedAmount
  · have hlate : ¬ (now < schedule.cliffTime ∨ now ≤ schedule.startTime) := by
      intro hearly
      have hnone : schedule.vestedAt now = 0 := if_pos hearly
      have := h.claimed
      omega
    have hend : (schedule.revoked vested now).endTime = now := if_pos hopen
    obtain ⟨hcliff, -, -⟩ := h.ordered
    refine ⟨⟨hcliff, ?_, ?_⟩, h.claimed, hkept, h.penalty, fun _ => ?_⟩
    · rw [hend]
      exact not_lt.mp fun hlt => hlate (.inl hlt)
    · rw [hend]
      exact not_le.mp fun hle => hlate (.inr hle)
    · have hall : (schedule.revoked vested now).vestedAt now = vested := by
        unfold VestingSchedule.vestedAt
        rw [hend, if_pos (le_refl now)]
        exact if_neg hlate
      rw [hall]
      exact hkept
  · have hend : (schedule.revoked vested now).endTime = schedule.endTime := if_neg hopen
    refine ⟨?_, h.claimed, hkept, h.penalty, fun hactive => ?_⟩
    · unfold VestingSchedule.Ordered
      rw [hend]
      exact h.ordered
    · exact absurd (of_decide_eq_true hactive) hopen

theorem opened_due (terms : Terms) (time id : ℕ) (funder token beneficiary : Address) (amount : ℤ) :
    (terms.opened time id funder token beneficiary amount).due = amount :=
  (if_pos rfl).trans (sub_zero amount)

theorem paidUpTo_due (hactive : schedule.active = true) {vested : ℤ}
    (hle : vested ≤ schedule.totalAmount) :
    (schedule.paidUpTo vested now).due = schedule.due + -(vested - schedule.claimedAmount) := by
  unfold VestingSchedule.due VestingSchedule.paidUpTo
  simp only [hactive, if_true]
  by_cases hall : vested ≥ schedule.totalAmount
  · simp only [hall, if_true, Bool.false_eq_true, if_false]
    omega
  · simp only [hall, if_false, if_true]
    omega

theorem toppedUp_due (hactive : schedule.active = true) (amount : ℤ) :
    (schedule.toppedUp amount now).due = schedule.due + amount := by
  simp only [VestingSchedule.due, VestingSchedule.toppedUp, hactive, if_true]
  omega

theorem closed_due (now : ℕ) : (schedule.closed now).due = 0 := rfl

/-- Nothing is due of a schedule that closes because everything released is paid. -/
theorem revoked_due (hactive : schedule.active = true) {vested : ℤ}
    (hkept : schedule.claimedAmount ≤ vested) :
    (schedule.revoked vested now).due = schedule.due + -(schedule.totalAmount - vested) := by
  simp only [VestingSchedule.due, VestingSchedule.revoked, hactive, if_true, decide_eq_true_eq]
  split <;> omega

/-- A schedule written again moves what is due in its token. -/
theorem outstanding_set {schedules : Store ℕ VestingSchedule} {id : ℕ}
    {schedule' : VestingSchedule} {moved : ℤ} (hk : schedules.get? id = some schedule)
    (hsame : schedule'.token = schedule.token) (hdue : schedule'.due = schedule.due + moved)
    (t : Address) : outstanding (schedules.set id schedule') t =
      outstanding schedules t + if t = schedule.token then moved else 0 := by
  unfold outstanding
  rw [Store.total_set, Store.weight_some hk, hsame]
  by_cases ht : schedule.token = t
  · simp only [ht, if_true, hdue]
    ring
  · simp only [ht, Ne.symm ht, if_false]
    ring

end Records

structure Held (tok : Token τ) (holder : Address) (gift : Address → ℤ) (now : ℕ) (s : State τ) :
    Prop where
  numbered : Numbered s
  sound : ∀ id schedule, s.schedule.get? id = some schedule →
    schedule.Sound now ∧ schedule.funder ≠ holder
  ledger : ∀ id, named id (fun id e => e.net id) s.events =
    s.schedule.weight (fun _ schedule => schedule.due) id
  balance : ∀ t, tok.balance s.tokens t holder = outstanding s.schedule t + gift t

variable {gift : Address → ℤ} {now now' : ℕ}

theorem Held.later (h : Held tok self gift now s) (hle : now ≤ now') :
    Held tok self gift now' s :=
  ⟨h.numbered, fun id schedule hk =>
    ⟨(h.sound id schedule hk).1.later hle, (h.sound id schedule hk).2⟩, h.ledger, h.balance⟩

/-- Events that name no schedule, and the lock, do not matter. -/
theorem Held.frame (h : Held tok self gift now s) {batch : List Event} (lock : Bool)
    (hquiet : ∀ id, named id (fun id e => e.net id) batch = 0) :
    Held tok self gift now { s with reentrancyLock := lock, events := s.events ++ batch } :=
  ⟨h.numbered, h.sound, fun id => by
    rw [named_append, hquiet, add_zero]
    exact h.ledger id, h.balance⟩

/-- A schedule rewritten: events and account say by how much its obligation moved. -/
theorem Held.rewrite (h : Held tok self gift now s) {id : ℕ} {schedule : VestingSchedule}
    (schedule' : VestingSchedule) {tokens : τ} {batch : List Event}
    (hk : s.schedule.get? id = some schedule) (hsound : schedule'.Sound now)
    (hsame : schedule'.token = schedule.token ∧ schedule'.funder = schedule.funder) (moved : ℤ)
    (hdue : schedule'.due = schedule.due + moved)
    (hevents : ∀ id', named id' (fun id e => e.net id) batch = if id = id' then moved else 0)
    (hbalance : ∀ t, tok.balance tokens t self = tok.balance s.tokens t self +
      if t = schedule.token then moved else 0)
    (index : Store Address (List ℕ)) (lock : Bool) :
    Held tok self gift now { s with
      schedule := s.schedule.set id schedule', beneficiarySchedules := index
      reentrancyLock := lock, tokens, events := s.events ++ batch } where
  numbered := Store.forall_set h.numbered (h.numbered id schedule hk)
  sound := by
    refine Store.forall_set h.sound ⟨hsound, ?_⟩
    rw [hsame.2]
    exact (h.sound id schedule hk).2
  ledger id' := by
    simp only
    rw [named_append, hevents, h.ledger]
    by_cases he : id = id'
    · subst he
      rw [if_pos rfl, Store.weight_some hk, Store.weight_some (Store.get?_set_self _ _ _), hdue]
    · rw [if_neg he, add_zero]
      unfold Store.weight
      rw [Store.get?_set_ne _ _ (Ne.symm he)]
  balance t := by
    simp only
    rw [hbalance, h.balance, outstanding_set hk hsame.1 hdue]
    ring

/-- A schedule whose amount has been paid in turns a gift into an obligation. -/
theorem Held.stored (h : Held tok self gift now s) {terms : Terms} {funder token : Address}
    {amount : ℤ} (hvalid : terms.Valid) (hfunder : funder ≠ self) (hpos : 0 < amount)
    (time : ℕ) (beneficiary : Address) :
    Held tok self (fun t => gift t - if t = token then amount else 0) now
      (stored terms time funder token s beneficiary amount) := by
  have hnone := h.numbered.none (Nat.lt_succ_self _)
  refine ⟨?_, Store.forall_set h.sound ⟨opened_sound hvalid hpos _ _ _ _ _, hfunder⟩,
    fun id => ?_, fun t => ?_⟩
  · refine Store.forall_set (fun id schedule hk => ?_) le_rfl
    have := h.numbered id schedule hk
    simp only [TokenVesting.stored]
    omega
  · simp only [TokenVesting.stored]
    rw [named_append, h.ledger]
    by_cases he : s.scheduleCounter + 1 = id
    · subst he
      rw [Store.weight_none hnone, Store.weight_some (Store.get?_set_self _ _ _)]
      simp [named, Event.net, Event.funded, Event.toBeneficiary, Event.toFunder,
        VestingSchedule.due, Terms.opened]
    · unfold Store.weight
      rw [Store.get?_set_ne _ _ (Ne.symm he)]
      simp [named, Event.net, Event.funded, Event.toBeneficiary, Event.toFunder, he]
  · have hbalance := h.balance t
    simp only [TokenVesting.stored, outstanding] at hbalance ⊢
    rw [Store.total_set, Store.weight_none hnone, hbalance]
    by_cases ht : token = t
    · simp [VestingSchedule.due, Terms.opened, ht]
    · simp [Terms.opened, ht, Ne.symm ht]

theorem Held.storedAll {terms : Terms} {funder token : Address} {entries : List (Address × ℤ)}
    (hvalid : terms.Valid) (hfunder : funder ≠ self) (hpos : ∀ e ∈ entries, 0 < e.2) (time : ℕ)
    (h : Held tok self
      (fun t => gift t + if t = token then (entries.map Prod.snd).sum else 0) now s) :
    Held tok self gift now (storedAll terms time funder token entries s) := by
  induction entries generalizing s with
  | nil =>
    simp only [List.map_nil, List.sum_nil, ite_self, add_zero] at h
    exact h
  | cons e rest ih =>
    refine ih (fun e' he' => hpos e' (List.mem_cons_of_mem _ he')) ?_
    have hone : Held tok self _ now (TokenVesting.stored terms time funder token s e.1 e.2) :=
      h.stored hvalid hfunder (hpos e List.mem_cons_self) time e.1
    have hgift : (fun t => gift t + (if t = token then ((e :: rest).map Prod.snd).sum else 0) -
          if t = token then e.2 else 0) =
        fun t => gift t + if t = token then (rest.map Prod.snd).sum else 0 := by
      funext t
      simp only [List.map_cons, List.sum_cons]
      split <;> ring
    rw [hgift] at hone
    exact hone

theorem Held.claimed (hex : tok.Exact) {beneficiary : Address} (hne : beneficiary ≠ self)
    (h : Held tok self gift now s) (hclaim : Claim tok self now beneficiary s s') :
    Held tok self gift now s' := by
  cases hclaim with
  | mk id schedule tokens found owner active due paid =>
    obtain ⟨hsound, -⟩ := h.sound id schedule found
    obtain ⟨-, hle⟩ :=
      vestedAt_bounds hsound.ordered (hsound.claimed.trans hsound.within) now
    refine h.rewrite (schedule.paidUpTo (schedule.vestedAt now) now) found
      (paidUpTo_sound hsound) ⟨rfl, rfl⟩ _ (paidUpTo_due active hle)
      (fun id' => ?_) (fun t => ?_) s.beneficiarySchedules false
    · simp only [named, List.map_cons, List.map_nil, List.sum_cons, List.sum_nil, Event.net,
        Event.funded, Event.toBeneficiary, Event.toFunder]
      split <;> omega
    · rw [hex.spend paid hne t]
      split <;> omega

theorem Held.claims (hex : tok.Exact) {beneficiary : Address} (hne : beneficiary ≠ self)
    (h : Held tok self gift now s) (hclaims : Claims tok self now beneficiary s s') :
    Held tok self gift now s' := by
  induction hclaims with
  | refl => exact h
  | tail _ hstep ih => exact ih.claimed hex hne hstep

/-- New schedules, paid for by their funder. -/
theorem Held.created (hex : tok.Exact) (h : Held tok self gift now s) {terms : Terms}
    {funder token : Address} {entries : List (Address × ℤ)} {tokens : τ} {batch : List Event}
    (hvalid : terms.Valid) (hfunder : funder ≠ self) (hpos : ∀ e ∈ entries, 0 < e.2)
    (hpaid : tok.transfer s.tokens token funder self (entries.map Prod.snd).sum = some tokens)
    (hsummary : batch = [] ∨ ∃ count, batch =
      [.vestBat funder token count (entries.map Prod.snd).sum]) (time : ℕ) :
    Held tok self gift now
      { TokenVesting.storedAll terms time funder token entries
          { s with tokens, reentrancyLock := false } with
        events := (TokenVesting.storedAll terms time funder token entries
          { s with tokens, reentrancyLock := false }).events ++ batch } := by
  have hgift : Held tok self
      (fun t => gift t + if t = token then (entries.map Prod.snd).sum else 0) now
      { s with tokens, reentrancyLock := false } := by
    refine ⟨h.numbered, h.sound, h.ledger, fun t => ?_⟩
    simp only
    rw [hex.credit hpaid hfunder t, h.balance t]
    ring
  have hend := hgift.storedAll hvalid hfunder hpos time
  refine hend.frame _ fun id => ?_
  rcases hsummary with rfl | ⟨count, rfl⟩ <;> rfl

/-- An early withdrawal pays everything that is left, since no more than is released was
paid before. -/
theorem Held.withdrawn (hex : tok.Exact) (h : Held tok self gift now s) {id : ℕ}
    {schedule : VestingSchedule} {beneficiary : Address} {payout penalty : ℤ} {tokens : τ}
    (hne : beneficiary ≠ self) (hfound : s.schedule.get? id = some schedule)
    (hactive : schedule.active = true)
    (hpenalty : penalty = penaltyOf (schedule.totalAmount - schedule.vestedAt now)
      schedule.earlyPenaltyBps)
    (hpayout : payout = max (schedule.vestedAt now - schedule.claimedAmount) 0 +
      (schedule.totalAmount - schedule.vestedAt now - penalty))
    (hpaid : tok.settle s.tokens (leg schedule.token self beneficiary payout ++
      leg schedule.token self schedule.funder penalty) = some tokens) :
    Held tok self gift now
      { s with
        schedule := s.schedule.set id (schedule.closed now)
        reentrancyLock := false, tokens
        events := s.events ++ [.vestEar id beneficiary payout penalty schedule.funder] } := by
  obtain ⟨hsound, hfunder⟩ := h.sound id schedule hfound
  obtain ⟨hzero, hle⟩ := vestedAt_bounds hsound.ordered (hsound.claimed.trans hsound.within) now
  have hkept := hsound.vested hactive
  obtain ⟨hpart, hrest⟩ := penaltyOf_bounds (sub_nonneg.mpr hle) hsound.penalty
  rw [← hpenalty] at hpart hrest
  rw [max_eq_left (by omega)] at hpayout
  have hdue : schedule.due = schedule.totalAmount - schedule.claimedAmount := if_pos hactive
  refine h.rewrite (schedule.closed now) hfound (closed_sound hsound)
    ⟨rfl, rfl⟩ (-(payout + penalty)) ?_ (fun id' => ?_) (fun t => ?_) s.beneficiarySchedules false
  · rw [hdue, closed_due]
    omega
  · simp only [named, List.map_cons, List.map_nil, List.sum_cons, List.sum_nil, Event.net,
      Event.funded, Event.toBeneficiary, Event.toFunder]
    split <;> omega
  · rw [hex.settle hpaid t self, netFlow_append, leg_out hne, leg_out hfunder]
    split <;> omega

theorem Held.increased (hex : tok.Exact) (h : Held tok self gift now s) {id : ℕ}
    {schedule : VestingSchedule} {funder : Address} {amount : ℤ} {tokens : τ} (hne : funder ≠ self)
    (hpos : 0 < amount) (hfound : s.schedule.get? id = some schedule)
    (hactive : schedule.active = true)
    (hpaid : tok.transfer s.tokens schedule.token funder self amount = some tokens) :
    Held tok self gift now
      { s with
        schedule := s.schedule.set id (schedule.toppedUp amount now)
        reentrancyLock := false, tokens, events := s.events ++ [.vestAdd id funder amount] } := by
  obtain ⟨hsound, -⟩ := h.sound id schedule hfound
  refine h.rewrite (schedule.toppedUp amount now) hfound (toppedUp_sound hsound hpos) ⟨rfl, rfl⟩
    amount (toppedUp_due hactive amount) (fun id' => ?_) (fun t => ?_) s.beneficiarySchedules false
  · simp [named, Event.net, Event.funded, Event.toBeneficiary, Event.toFunder]
  · rw [hex.credit hpaid hne t]

/-- A revocation gives back what is not released, which is all that is no longer due. -/
theorem Held.revoked (hex : tok.Exact) (h : Held tok self gift now s) {id : ℕ}
    {schedule : VestingSchedule} {admin : Address} {vested : ℤ} {tokens : τ} (lock : Bool)
    (hfound : s.schedule.get? id = some schedule) (hactive : schedule.active = true)
    (hvested : vested = schedule.vestedAt now)
    (hpaid : tok.settle s.tokens (leg schedule.token self schedule.funder
      (schedule.totalAmount - vested)) = some tokens) :
    Held tok self gift now
      { s with
        schedule := s.schedule.set id (schedule.revoked vested now)
        reentrancyLock := lock, tokens
        events := s.events ++ [.vestRev id admin (schedule.totalAmount - vested)] } := by
  obtain ⟨hsound, hfunder⟩ := h.sound id schedule hfound
  have hzero := hsound.claimed
  have hkept := hsound.vested hactive
  obtain ⟨-, hle⟩ := vestedAt_bounds hsound.ordered (hzero.trans hsound.within) now
  have hrevoked := revoked_sound hsound hvested hkept
  rw [← hvested] at hle hkept
  refine h.rewrite (schedule.revoked vested now) hfound hrevoked ⟨rfl, rfl⟩
    (-(schedule.totalAmount - vested)) (revoked_due hactive hkept) (fun id' => ?_) (fun t => ?_)
    s.beneficiarySchedules lock
  · simp only [named, List.map_cons, List.map_nil, List.sum_cons, List.sum_nil, Event.net,
      Event.funded, Event.toBeneficiary, Event.toFunder]
    split <;> omega
  · rw [hex.settle hpaid t self, leg_out hfunder]
    split <;> omega

theorem held_call {env : Env} {op : Op} (hex : tok.Exact) (ho : self ∉ op.parties)
    (hstart : (Action.call env op : Action τ).StartsEmpty s)
    (h : Held tok self gift env.timestamp s) (heffect : Effect tok self s (.call env op) s') :
    Held tok self gift env.timestamp s' := by
  cases heffect with
  | initializeContract _ admin fresh =>
    have hquiet : ∀ id, named id (fun id e => e.net id) [.vestInit admin] = 0 := fun _ => rfl
    have hframe := h.frame false hquiet
    refine ⟨fun id schedule hk => ?_, hframe.sound, hframe.ledger, hframe.balance⟩
    have hle := h.numbered id schedule hk
    rw [hstart rfl] at hle
    exact hle
  | creates _ _ funder token terms entries tokens batch creator valid positive paid summary =>
    have hfunder : funder ≠ self := by
      rintro rfl
      cases op <;> cases creator <;> exact ho (by simp [Op.parties])
    exact h.created hex valid hfunder positive paid summary env.timestamp
  | claims _ _ beneficiary s₁ batch claimant claims summary =>
    have hne : beneficiary ≠ self := by
      rintro rfl
      cases op <;> cases claimant <;> exact ho (by simp [Op.parties])
    refine (h.claims hex hne claims).frame _ fun id => ?_
    rcases summary with rfl | ⟨paid, rfl⟩ <;> rfl
  | earlyWithdraw _ id beneficiary schedule payout penalty tokens found owner active penalty_eq
      payout_eq paid =>
    exact h.withdrawn hex (notSelf ho) found active penalty_eq payout_eq paid
  | modifySchedule _ admin id changes schedule start cliff finish allowed penalty retimed found
      active ordered bounded retimed_eq kept =>
    obtain ⟨hsound, -⟩ := h.sound id schedule found
    refine h.rewrite retimed found (retimed_sound hsound ordered bounded retimed_eq kept) ?_ 0 ?_
      (fun id' => ?_) (fun t => ?_) _ _
    · rw [retimed_eq]
      exact ⟨rfl, rfl⟩
    · rw [retimed_eq, add_zero]
      rfl
    · rw [ite_self]
      rfl
    · rw [ite_self, add_zero]
  | increaseScheduleAmount _ funder id amount schedule tokens positive found owner active paid =>
    exact h.increased hex (notSelf ho) positive found active paid
  | revokeSchedule _ admin id schedule vested tokens lock found active vested_eq paid =>
    exact h.revoked hex lock found active vested_eq paid

theorem held_step (hex : tok.Exact) {log : List (State τ × Action τ)}
    (htime : OnTime Action.time log a) (ho : a.Outside tok self s) (hstart : a.StartsEmpty s)
    (h : Held tok self gift (clock Action.time log) s) (heffect : Effect tok self s a s') :
    Held tok self (fun t => gift t + accounts.donated tok self t (s, a))
      (clock Action.time ((s, a) :: log)) s' := by
  have hlater := h.later (htime.clock_le s)
  cases a with
  | call env op =>
    simp only [Accounts.donated, accounts, Action.elsewhere, add_zero]
    exact held_call hex ho hstart hlater heffect
  | transfers tokens =>
    cases heffect
    refine ⟨h.numbered, h.sound, h.ledger, fun t => ?_⟩
    have := h.balance t
    simp only [Accounts.donated, accounts, Action.elsewhere]
    omega

theorem held_deployed (tokens : τ) :
    Held tok self (accounts.donations tok self (deployed tokens) []) 0 (deployed tokens) where
  numbered _ _ hk := by cases hk
  sound _ _ hk := by cases hk
  ledger _ := rfl
  balance t := by simp [deployed, Accounts.donations, accounts, outstanding, Store.total, Store.empty]

/-- With exact tokens and parties other than the contract itself, at times that do not
go back, and with `initialize` before the first schedule: the account holds what the
active schedules owe, no schedule has paid more than it has released, and what each
schedule ever received is what it paid out, gave back and still owes. -/
theorem schedules_covered (hex : tok.Exact) {tokens : τ} {log : List (State τ × Action τ)}
    (hrun : History (next tok self)
      (fun log s a => OnTime Action.time log a ∧ a.Outside tok self s ∧ a.StartsEmpty s)
      (deployed tokens) log s) :
    (∀ t, tok.balance s.tokens t self =
      (s.schedule.total fun _ schedule => if schedule.token = t then
        (if schedule.active = true then schedule.totalAmount - schedule.claimedAmount else 0)
        else 0) + accounts.donations tok self (deployed tokens) log t) ∧
    (∀ now, clock Action.time log ≤ now → ∀ id schedule, s.schedule.get? id = some schedule →
      schedule.active = true → 0 ≤ schedule.claimedAmount ∧
        schedule.claimedAmount ≤ schedule.vestedAt now ∧
        schedule.vestedAt now ≤ schedule.totalAmount ∧
        ∀ v, vestedFor schedule now = .ok v → v = schedule.vestedAt now) ∧
    ∀ id schedule, s.schedule.get? id = some schedule →
      named id (fun id e => e.toBeneficiary id) s.events +
        named id (fun id e => e.toFunder id) s.events +
        (if schedule.active = true then schedule.totalAmount - schedule.claimedAmount else 0) =
      named id (fun id e => e.funded id) s.events := by
  have hheld : Held tok self (accounts.donations tok self (deployed tokens) log)
      (clock Action.time log) s := by
    refine hrun.preserves (P := fun log s => Held tok self
      (accounts.donations tok self (deployed tokens) log) (clock Action.time log) s)
      (held_deployed tokens) ?_
    rintro log s a s' ⟨htime, ho, hstart⟩ hn h
    have hgifts : accounts.donations tok self (deployed tokens) ((s, a) :: log) = fun t =>
        accounts.donations tok self (deployed tokens) log t + accounts.donated tok self t (s, a) :=
      funext fun t => Accounts.donations_cons _ _ _ t
    rw [hgifts]
    exact held_step hex htime ho hstart h (next_effect hn)
  refine ⟨hheld.balance, fun now hle id schedule hk hactive => ?_, fun id schedule hk => ?_⟩
  · have hsound := (hheld.sound id schedule hk).1.later hle
    have hbounds := vestedAt_bounds hsound.ordered (hsound.claimed.trans hsound.within) now
    exact ⟨hsound.claimed, hsound.vested hactive, hbounds.2, fun v hv => vestedFor_ok hv⟩
  · have hledger := hheld.ledger id
    rw [named_net, Store.weight_some hk] at hledger
    unfold VestingSchedule.due at hledger
    omega

section Runs

open Sample

/-- Every way to pay and to be paid, on three schedules. -/
def busy : List (ℕ × Op) := [
  (0, .initializeContract admin),
  (0, .createSchedulesBatch carol usdc [alice, alice, bob] [1000, 2000, 3000] terms),
  (150, .claim 1 alice),
  (160, .increaseScheduleAmount carol 1 1000),
  (160, .claimBatch [1, 2] alice),
  (170, .earlyWithdraw 3 bob),
  (180, .revokeSchedule admin 2)]

/-- The second schedule received 2000: 1200 are paid, 400 were refunded and 400 are
still due when it is revoked at 180, beside 800 of the first. -/
theorem schedules_covered_busy :
    ∃ s log, History (next asset contract)
        (fun log s a => OnTime Action.time log a ∧ a.Outside asset contract s ∧ a.StartsEmpty s)
        start log s ∧
      asset.balance s.tokens usdc contract = 800 + 400 ∧
      1200 + 400 + 400 = named 2 (fun id e => e.funded id) s.events := by
  have h : After (fun h => outstanding h.2.schedule usdc = 1200 ∧
        accounts.donations asset contract start h.1 usdc = 0 ∧
        named 2 (fun id e => e.toBeneficiary id) h.2.events = 1200 ∧
        named 2 (fun id e => e.toFunder id) h.2.events = 400 ∧
        ∃ schedule ∈ h.2.schedule.get? 2, schedule.active = true ∧
          schedule.totalAmount = 1600 ∧ schedule.claimedAmount = 1200)
      (record (next asset contract) (fun log s a => OnTime Action.time log a ∧ a.StartsEmpty s)
        (calls busy) ([], start)) := by
    decide +kernel
  obtain ⟨⟨log, s⟩, hrec, hdue, hgifts, hpaid, hback, schedule, hk, hactive, htotal, hclaimed⟩ :=
    h.exists_ok
  have hparties : ∀ e ∈ busy, contract ∉ e.2.parties := by decide
  have hrun : History (next asset contract)
      (fun log s a => OnTime Action.time log a ∧ a.Outside asset contract s ∧ a.StartsEmpty s)
      start log s :=
    record_map_history hrec fun e he _ _ hadmitted => ⟨hadmitted.1, hparties e he, hadmitted.2⟩
  obtain ⟨hbalance, -, hledger⟩ := schedules_covered asset_exact hrun
  refine ⟨s, log, hrun, ?_, ?_⟩
  · have haccount : asset.balance s.tokens usdc contract =
        outstanding s.schedule usdc + accounts.donations asset contract start log usdc :=
      hbalance usdc
    simp only at hdue hgifts
    omega
  · have hsecond := hledger 2 schedule hk
    simp only [hactive, if_true] at hsecond hpaid hback
    omega

/-- The amount of the schedule that is overwritten stays in the account. -/
theorem schedules_uncovered :
    ¬ ∀ (s : State Balances) (log : List (State Balances × Action Balances)),
      History (next asset contract)
        (fun log s a => OnTime Action.time log a ∧ a.Outside asset contract s) start log s →
      ∀ t, asset.balance s.tokens t contract =
        (s.schedule.total fun _ schedule => if schedule.token = t then
          (if schedule.active = true then schedule.totalAmount - schedule.claimedAmount else 0)
          else 0) + accounts.donations asset contract start log t := by
  have h : After (fun h => asset.balance h.2.tokens usdc contract = 30 ∧
        outstanding h.2.schedule usdc = 20 ∧ accounts.donations asset contract start h.1 usdc = 0)
      (record (next asset contract) (fun log _ a => OnTime Action.time log a)
        (calls renumbered) ([], start)) := by
    decide +kernel
  obtain ⟨⟨log, s⟩, hrec, hbalance, hdue, hgifts⟩ := h.exists_ok
  have hparties : ∀ e ∈ renumbered, contract ∉ e.2.parties := by decide
  intro hall
  have hrun : History (next asset contract)
      (fun log s a => OnTime Action.time log a ∧ a.Outside asset contract s) start log s :=
    record_map_history hrec fun e he _ _ hadmitted => ⟨hadmitted, hparties e he⟩
  have haccount : asset.balance s.tokens usdc contract =
      outstanding s.schedule usdc + accounts.donations asset contract start log usdc :=
    hall s log hrun usdc
  simp only at hbalance hdue hgifts
  omega

end Runs

end TokenVesting
