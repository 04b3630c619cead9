import StellAIverse.TokenVesting.Release
import StellAIverse.TokenVesting.Solvency

/-!
# Revocation

A revocation cuts a schedule down to what it has released, and ends it there. From
then on the beneficiary can claim what was released and not paid, at once and no more,
and the account has it.
-/

namespace TokenVesting

open Soroban

variable {τ : Type} {tok : Token τ} {self : Address} {s s' : State τ} {a : Action τ} {env : Env}
  {op : Op} {now id : ℕ} {p q : VestingSchedule}

/-- No payment is under way, and no schedule has the id that calls refuse. -/
structure Ready (s : State τ) : Prop where
  unlocked : s.reentrancyLock = false
  zero : s.schedule.get? 0 = none

theorem Ready.ne_zero (h : Ready s) (hk : s.schedule.get? id = some p) : id ≠ 0 := by
  rintro rfl
  rw [h.zero] at hk
  cases hk

theorem Ready.set (h : Ready s) (hk : s.schedule.get? id = some p) (q : VestingSchedule) :
    (s.schedule.set id q).get? 0 = none :=
  (Store.get?_set_ne _ _ (h.ne_zero hk).symm).trans h.zero

theorem Claims.ready {beneficiary : Address} (h : Claims tok self now beneficiary s s')
    (hs : Ready s) : Ready s' := by
  induction h with
  | refl => exact hs
  | tail _ hstep ih =>
    cases hstep with
    | mk id schedule tokens found => exact ⟨rfl, ih.set found _⟩

theorem ready_step (h : next tok self a s = .ok s') (hs : Ready s) : Ready s' := by
  have heffect := next_effect h
  cases heffect with
  | transfers => exact ⟨hs.unlocked, hs.zero⟩
  | initializeContract => exact ⟨rfl, hs.zero⟩
  | creates env _ funder token terms entries tokens =>
    obtain ⟨-, hlock⟩ := storedAll_rest (s := { s with tokens, reentrancyLock := false })
      terms env.timestamp funder token entries
    have hzero : (storedAll terms env.timestamp funder token entries
        { s with tokens, reentrancyLock := false }).schedule.get? 0 = s.schedule.get? 0 :=
      storedAll_get? _ _ _ _ _ fun h => absurd h.1 (Nat.not_lt_zero _)
    exact ⟨hlock, hzero.trans hs.zero⟩
  | claims _ _ _ _ _ _ claims => exact ⟨(claims.ready hs).unlocked, (claims.ready hs).zero⟩
  | earlyWithdraw _ _ _ _ _ _ _ found => exact ⟨rfl, hs.set found _⟩
  | modifySchedule _ _ _ _ _ _ _ _ _ _ _ found => exact ⟨hs.unlocked, hs.set found _⟩
  | increaseScheduleAmount _ _ _ _ _ _ _ found => exact ⟨rfl, hs.set found _⟩
  | revokeSchedule _ _ _ _ _ _ lock found =>
    obtain ⟨r, hr, hsame⟩ := map_ok.mp h
    obtain ⟨_, -, -, -, _, lock', -, hlock, rfl⟩ := revokeSchedule_ok hr
    have hlocks : lock' = lock := congrArg State.reentrancyLock hsame
    exact ⟨hlocks.symm.trans (hlock hs.unlocked), hs.set found _⟩

theorem ready_history {ok : List (State τ × Action τ) → State τ → Action τ → Prop} {s₀ : State τ}
    {log : List (State τ × Action τ)} (hready : Ready s₀)
    (hrun : History (next tok self) ok s₀ log s) : Ready s := by
  refine hrun.preserves (P := fun _ s => Ready s) hready ?_
  intro log s a s' _ hn hs
  exact ready_step hn hs

theorem Ready.transferToken (hs : Ready s) {token source target : Address} {amount : ℤ} {tokens : τ}
    (hpos : 0 < amount) (hpaid : tok.transfer s.tokens token source target amount = some tokens) :
    transferToken tok s token source target amount =
      .ok { s with tokens, reentrancyLock := false } := by
  have hfree : ¬ s.reentrancyLock = true := by simp [hs.unlocked]
  unfold TokenVesting.transferToken enterNonReentrant transferTokenUnchecked
  rw [panicIf_of_not hfree, ok_bind, ok_bind, panicIf_of_not (not_le.mpr hpos), ok_bind]
  simp only
  rw [tok.pay_ok.mpr hpaid, ok_bind, ok_bind]
  rfl

theorem Ready.loadSchedule (hs : Ready s) (hk : s.schedule.get? id = some p) :
    loadSchedule s id = .ok p := by
  unfold TokenVesting.loadSchedule
  rw [panicIf_of_not (hs.ne_zero hk), ok_bind, hk]
  rfl

/-- A claim of what is due goes through when its payment does. -/
theorem claim_completes (hs : Ready s) (hk : s.schedule.get? id = some q)
    (hactive : q.active = true) {v : ℤ} (hvested : vestedFor q env.timestamp = .ok v)
    (hzero : 0 ≤ q.claimedAmount) (hdue : q.claimedAmount < v) (hfits : I128.InRange v)
    (hauth : env.authorized q.beneficiary = true) {tokens : τ}
    (hpaid : tok.transfer s.tokens q.token self q.beneficiary (v - q.claimedAmount) = some tokens) :
    ∃ s', claim tok self env id q.beneficiary s = .ok (v - q.claimedAmount, s') := by
  have hopen : ¬ q.active = false := by simp [hactive]
  have hpart : claimableFromVested q v = .ok (v - q.claimedAmount) := by
    unfold claimableFromVested
    rw [if_neg (not_le.mpr hdue)]
    exact I128.checked_of_inRange (hfits.of_le (by omega) (by omega))
  have hall : q.claimedAmount + (v - q.claimedAmount) = v := by ring
  have hpos : 0 < v - q.claimedAmount := by omega
  unfold claim claimOne
  rw [requireAuth, if_pos hauth, ok_bind, hs.loadSchedule hk, ok_bind,
    panicIf_of_not (by simp), ok_bind, if_neg hopen, hvested, ok_bind, hpart, ok_bind,
    if_neg (not_le.mpr hpos), hall, I128.checked_of_inRange hfits, ok_bind]
  have hready : Ready (setSchedule s id (q.paidUpTo v env.timestamp)) := ⟨hs.unlocked, hs.set hk _⟩
  have hpay : transferToken tok _ q.token self q.beneficiary (v - q.claimedAmount) = _ :=
    hready.transferToken hpos hpaid
  unfold VestingSchedule.paidUpTo at hpay
  simp only
  rw [hpay, ok_bind, ok_bind, panicIf_of_not (not_le.mpr hpos)]
  exact ⟨_, rfl⟩

theorem Ready.transferIfPositive (hs : Ready s) {token source target : Address} {amount : ℤ}
    {tokens : τ} (hpaid : tok.settle s.tokens (leg token source target amount) = some tokens) :
    ∃ s', transferIfPositive (TokenVesting.transferToken tok) s token source target amount =
      .ok s' := by
  unfold TokenVesting.transferIfPositive
  unfold leg at hpaid
  by_cases hpos : amount > 0
  · rw [if_pos hpos] at hpaid ⊢
    obtain ⟨tokens', hmoved, -⟩ := Token.settle_cons_some.mp hpaid
    exact ⟨_, hs.transferToken hpos hmoved⟩
  · rw [if_neg hpos]
    exact ⟨s, rfl⟩

/-- A revocation goes through when its refund does. -/
theorem revokeSchedule_completes (hs : Ready s) (hk : s.schedule.get? id = some p)
    (hactive : p.active = true) (hrevocable : p.revocable = true) {v : ℤ}
    (hvested : vestedFor p env.timestamp = .ok v) (hzero : 0 ≤ v) (hle : v ≤ p.totalAmount)
    (hfits : I128.InRange p.totalAmount) {admin : Address} (hadmin : s.admin = some admin)
    (hauth : env.authorized admin = true) {tokens : τ}
    (hpaid : tok.settle s.tokens (leg p.token self p.funder (p.totalAmount - v)) = some tokens) :
    ∃ r, revokeSchedule tok self env admin id s = .ok r := by
  have hopen : ¬ p.active = false := by simp [hactive]
  have hrefund : I128.InRange (p.totalAmount - v) := hfits.of_le (by omega) (by omega)
  have hready : Ready (setSchedule s id (p.revoked v env.timestamp)) := ⟨hs.unlocked, hs.set hk _⟩
  obtain ⟨s₁, hpay⟩ := hready.transferIfPositive hpaid
  unfold VestingSchedule.revoked at hpay
  unfold revokeSchedule assertAdmin
  rw [requireAuth, if_pos hauth, ok_bind, hadmin, expect, ok_bind, panicIf_of_not (by simp),
    ok_bind, hs.loadSchedule hk, ok_bind, panicIf_of_not hopen, ok_bind,
    panicIf_of_not (by simp [hrevocable]), ok_bind, hvested, ok_bind,
    I128.checked_of_inRange hrefund, ok_bind]
  simp only
  rw [hpay]
  exact ⟨_, rfl⟩

/-- The invocations that leave the terms of every schedule as they are. -/
def Op.keepsTerms : Op → Bool
  | .claim _ _ => true
  | .claimBatch _ _ => true
  | .earlyWithdraw _ _ => true
  | .revokeSchedule _ _ => true
  | _ => false

theorem Op.keepsTerms_creates (op : Op) (h : op.keepsTerms = true) : op.creates = 0 := by
  cases op <;> first | rfl | cases h

theorem Op.keepsTerms_of_claims (h : op.claims = true) : op.keepsTerms = true := by
  cases op <;> first | rfl | cases h

theorem Op.keepsTerms_alters (h : op.keepsTerms = true) : op.alters = none := by
  cases op <;> first | rfl | cases h

/-- A revoked schedule that had released `v`, and what it paid since: either nothing yet, and
it is over, or all there was, and it is closed. -/
structure Retained (now : ℕ) (p : VestingSchedule) (v paid : ℤ) (q : VestingSchedule) : Prop where
  token : q.token = p.token
  beneficiary : q.beneficiary = p.beneficiary
  total : q.totalAmount = v
  rest : q.active = true ∧ q.endTime ≤ now ∧ q.claimedAmount = p.claimedAmount ∧
      p.claimedAmount < v ∧ paid = 0 ∨
    q.active = false ∧ paid = v - p.claimedAmount

variable {v paid : ℤ}

theorem Retained.later (h : Retained now p v paid q) {now' : ℕ} (hle : now ≤ now') :
    Retained now' p v paid q where
  token := h.token
  beneficiary := h.beneficiary
  total := h.total
  rest := h.rest.imp_left fun ⟨hactive, hend, hrest⟩ => ⟨hactive, hend.trans hle, hrest⟩

theorem revoked_retained (hs : p.Sound now) (hactive : p.active = true) :
    Retained now p (p.vestedAt now) 0 (p.revoked (p.vestedAt now) now) where
  token := rfl
  beneficiary := rfl
  total := rfl
  rest := by
    rcases (hs.vested hactive).lt_or_eq with hopen | hall
    · have hend : (p.revoked (p.vestedAt now) now).endTime = now := if_pos hopen
      exact .inl ⟨decide_eq_true hopen, hend.le, rfl, hopen, rfl⟩
    · exact .inr ⟨decide_eq_false hall.not_lt, by omega⟩

theorem vestedAt_ended (ho : p.Ordered) {t : ℕ} (h : p.endTime ≤ t) :
    p.vestedAt t = p.totalAmount :=
  (vestedFor_ok (vestedFor_ended ho h)).symm

theorem Retained.touched (h : Retained now p v paid q) (hs : q.Sound now) {q' : VestingSchedule}
    {more : ℤ} (hop : op.keepsTerms = true) (htouched : Touched now op id q q' more) :
    Retained now p v (paid + more) q' := by
  obtain ⟨htoken, hbeneficiary, htotal, hrest⟩ := h
  -- A closed schedule stays as it is.
  have stays : q.active = true → q.vestedAt now = v ∧ q.claimedAmount = p.claimedAmount ∧
      p.claimedAmount < v ∧ paid = 0 := by
    intro hactive
    obtain ⟨-, hend, hclaimed, hopen, hpaid⟩ | ⟨hclosed, -⟩ := hrest
    · exact ⟨(vestedAt_ended hs.ordered hend).trans htotal, hclaimed, hopen, hpaid⟩
    · rw [hactive] at hclosed
      cases hclosed
  cases htouched with
  | kept =>
    rw [add_zero]
    exact ⟨htoken, hbeneficiary, htotal, hrest⟩
  | claimed _ _ _ claims =>
    cases claims with
    | nothing =>
      rw [add_zero]
      exact ⟨htoken, hbeneficiary, htotal, hrest⟩
    | paid active due =>
      obtain ⟨hvested, hclaimed, hopen, hpaid⟩ := stays active
      have hclosed : (q.paidUpTo (q.vestedAt now) now).active = false :=
        if_pos (by rw [hvested, htotal])
      refine ⟨htoken, hbeneficiary, htotal, .inr ⟨hclosed, ?_⟩⟩
      rw [hvested, hclaimed, hpaid, zero_add]
  | closed payout _ active payout_eq =>
    obtain ⟨hvested, hclaimed, hopen, hpaid⟩ := stays active
    refine ⟨htoken, hbeneficiary, htotal, .inr ⟨rfl, ?_⟩⟩
    have hnone : penaltyOf (v - v) q.earlyPenaltyBps = 0 := if_pos (.inl (by omega))
    rw [payout_eq, hvested, htotal, hclaimed, hnone, max_eq_left (by omega), hpaid]
    ring
  | revoked _ active =>
    obtain ⟨hvested, hclaimed, hopen, hpaid⟩ := stays active
    have hdue : q.claimedAmount < q.vestedAt now := by rw [hvested, hclaimed]; exact hopen
    have hend : (q.revoked (q.vestedAt now) now).endTime = now := if_pos hdue
    exact ⟨htoken, hbeneficiary, hvested, .inl ⟨decide_eq_true hdue, hend.le, hclaimed, hopen,
      by rw [hpaid, add_zero]⟩⟩
  | altered _ alters => exact absurd ((Op.keepsTerms_alters hop).symm.trans alters) nofun

theorem retained_kept (id : ℕ) (p : VestingSchedule) (v : ℤ) :
    KeptBy Op.keepsTerms id fun now paid q => Retained now p v paid q where
  creates := Op.keepsTerms_creates
  later hle h := h.later hle
  touched hop hs htouched h := h.touched hs hop htouched

theorem claim_ok {beneficiary : Address} {r : ℤ × State τ}
    (h : claim tok self env id beneficiary s = .ok r) :
    ∃ q, s.schedule.get? id = some q ∧ q.active = true ∧
      vestedFor q env.timestamp = .ok (q.vestedAt env.timestamp) ∧
      r.1 = q.vestedAt env.timestamp - q.claimedAmount := by
  unfold claim at h
  rw [requireAuth_bind] at h
  obtain ⟨-, h⟩ := h
  obtain ⟨r', hone, h⟩ := bind_ok.mp h
  rw [panicIf_bind] at h
  obtain ⟨hpos, h⟩ := h
  cases h
  obtain ⟨q, hfound, -, ⟨rfl, -⟩ | ⟨hactive, hvested, -, tokens, -, rfl⟩⟩ := claimOne_ok hone
  · exact absurd le_rfl hpos
  · exact ⟨q, hfound, hactive, hvested, rfl⟩

/-- What can still be claimed of a schedule after a run: exactly this amount, at once, and only
as long as it was not. The account has it, when the contract is no party to its own calls and
others do not spend its tokens. -/
structure Left (tok : Token τ) (holder : Address) (id : ℕ) (p : VestingSchedule)
    (log : List (State τ × Action τ)) (s : State τ) (left : ℤ) : Prop where
  nonneg : 0 ≤ left
  exact : ∀ env beneficiary r, clock Action.time log ≤ env.timestamp →
    claim tok holder env id beneficiary s = .ok r → 0 < left ∧ r.1 = left
  covered : tok.Exact → (∀ e ∈ log, e.2.Outside tok holder e.1) →
    left ≤ tok.balance s.tokens p.token holder
  pays : tok.Honours → left ≤ tok.balance s.tokens p.token holder → 0 < left →
    ∀ env, clock Action.time log ≤ env.timestamp → env.authorized p.beneficiary = true →
      ∃ s', claim tok holder env id p.beneficiary s = .ok (left, s')

theorem Retained.left {log : List (State τ × Action τ)}
    (h : Retained (clock Action.time log) p v paid q) (hk : s.schedule.get? id = some q)
    (hs : AllSound (clock Action.time log) s) (hready : Ready s) (hfits : I128.InRange v)
    (hsolvent : tok.Exact → (∀ e ∈ log, e.2.Outside tok self e.1) → Solvent tok self s) :
    Left tok self id p log s (v - p.claimedAmount - paid) := by
  have hsound := hs id q hk
  obtain ⟨htoken, hbeneficiary, htotal, ⟨hactive, hend, hclaimed, hopen, rfl⟩ | ⟨hclosed, rfl⟩⟩ := h
  · rw [sub_zero]
    refine ⟨by omega, fun env beneficiary r hnow hr => ?_, fun hex ho => ?_,
      fun hhonours hle hpos env hnow hauth => ?_⟩
    · obtain ⟨q', hq', -, -, hpaid⟩ := claim_ok hr
      obtain rfl := Option.some.inj (hk.symm.trans hq')
      rw [vestedAt_ended hsound.ordered (hend.trans hnow), htotal, hclaimed] at hpaid
      exact ⟨by omega, hpaid⟩
    · have hdue : q.due = v - p.claimedAmount := by
        unfold VestingSchedule.due
        rw [if_pos hactive, htotal, hclaimed]
      rw [← hdue, ← htoken]
      exact (due_le_outstanding hs hk).trans (hsolvent hex ho _)
    · have hvested : vestedFor q env.timestamp = .ok v := by
        rw [← htotal]
        exact vestedFor_ended hsound.ordered (hend.trans hnow)
      obtain ⟨tokens, hmoved⟩ := hhonours s.tokens p.token self p.beneficiary _ hpos.le hle
      rw [← htoken, ← hbeneficiary, ← hclaimed] at hmoved
      rw [← hbeneficiary] at hauth ⊢
      rw [← hclaimed]
      exact claim_completes hready hk hactive hvested hsound.claimed (by omega) hfits hauth hmoved
  · rw [sub_self]
    refine ⟨le_rfl, fun env beneficiary r _ hr => ?_, fun hex _ => hex.nonneg _ _ _,
      fun _ _ hpos => absurd hpos (lt_irrefl 0)⟩
    obtain ⟨q', hq', hactive, -⟩ := claim_ok hr
    obtain rfl := Option.some.inj (hk.symm.trans hq')
    rw [hclosed] at hactive
    cases hactive

theorem Solvent.refund (hsolvent : Solvent tok self s) (hs : AllSound now s)
    (hk : s.schedule.get? id = some p) (hactive : p.active = true) :
    p.totalAmount - p.vestedAt now ≤ tok.balance s.tokens p.token self := by
  refine le_trans ?_ ((due_le_outstanding hs hk).trans (hsolvent p.token))
  have hkept := (hs id p hk).vested hactive
  unfold VestingSchedule.due
  rw [if_pos hactive]
  omega

/-- Revocation keeps what was earned. A revocation gives the funder what the schedule has not
released, and it goes through where the account is served by honest tokens. While nobody
changes the terms afterwards, what is left to claim in every later state is what the schedule
had released less what was paid before and since. -/
theorem revocation_keeps_earned (env : Env) (admin : Address) {tokens : τ}
    {old : List (State τ × Action τ)}
    (hreach : History (next tok self) (fun log _ a => OnTime Action.time log a) (deployed tokens)
      old s)
    (hk : s.schedule.get? id = some p) (hfits : I128.InRange p.totalAmount)
    (hactive : p.active = true) (hrevocable : p.revocable = true)
    (hnow : clock Action.time old ≤ env.timestamp) :
    (∀ v, vestedFor p env.timestamp = .ok v → s.admin = some admin →
      env.authorized admin = true → tok.Exact → tok.Honours →
      (∀ e ∈ old, e.2.Outside tok self e.1) →
      ∃ r, revokeSchedule tok self env admin id s = .ok r) ∧
    ∀ refund s', revokeSchedule tok self env admin id s = .ok (refund, s') →
      ∃ v, vestedFor p env.timestamp = .ok v ∧ refund = p.totalAmount - v ∧
        tok.settle s.tokens (leg p.token self p.funder refund) = some s'.tokens ∧
        ∀ log s'', History (next tok self)
            (fun log t a =>
              OnTime Action.time (log ++ (s, .call env (.revokeSchedule admin id)) :: old) a ∧
                a.OnlyBy Op.keepsTerms tok self id t) s' log s'' →
          Left tok self id p (log ++ (s, .call env (.revokeSchedule admin id)) :: old) s''
            (v - p.claimedAmount - (paidFor id s'' - paidFor id s')) := by
  have hs := history_allSound hreach
  have hready : Ready s := ready_history ⟨rfl, rfl⟩ hreach
  have hsolvent : tok.Exact → (∀ e ∈ old, e.2.Outside tok self e.1) → Solvent tok self s :=
    fun hex ho => solvent_deployed hex hreach ho
  have hsnow := hs.later hnow
  have hp := hsnow id p hk
  obtain ⟨hzero, hle⟩ := vestedAt_bounds hp.ordered (hp.claimed.trans hp.within) env.timestamp
  refine ⟨fun v hvested hadmin hauth hex hhonours ho => ?_, fun refund s' hr => ?_⟩
  · obtain rfl := vestedFor_ok hvested
    obtain ⟨tokens', hpaid⟩ := hhonours.leg p.funder ((hsolvent hex ho).refund hsnow hk hactive)
    exact revokeSchedule_completes hready hk hactive hrevocable hvested hzero hle hfits hadmin hauth
      hpaid
  · have hn : next tok self (.call env (.revokeSchedule admin id)) s = .ok s' :=
      map_ok.mpr ⟨(refund, s'), hr, rfl⟩
    have htime : OnTime Action.time old (.call env (.revokeSchedule admin id) : Action τ) := by
      intro t ht
      cases ht
      exact hnow
    have hs' := allSound_step htime hs hn
    have hready' := ready_step hn hready
    obtain ⟨schedule, hfound, -, hvested, tokens', lock, hpaid, -, heq⟩ := revokeSchedule_ok hr
    obtain rfl := Option.some.inj (hk.symm.trans hfound)
    cases heq
    refine ⟨p.vestedAt env.timestamp, hvested, rfl, hpaid, fun log s'' hrun => ?_⟩
    have hkept := retained_kept id p (p.vestedAt env.timestamp)
    obtain ⟨hs'', q, hq, hretained⟩ := hkept.history hs' (Store.get?_set_self _ _ _)
      (revoked_retained hp hactive) hrun
    refine hretained.left hq hs'' (ready_history hready' hrun) (hfits.of_le hzero hle)
      fun hex ho => ?_
    obtain ⟨hrecent, hothers⟩ := List.forall_mem_append.mp ho
    obtain ⟨hrevoke, hbefore⟩ := List.forall_mem_cons.mp hothers
    exact solvent_history hex _ hs' (solvent_step hex htime hrevoke hs (hsolvent hex hbefore) hn)
      hrun (fun _ _ _ ha => ha.1) hrecent

section Runs

open Sample

/-- The first schedule has paid 300 of 1000. -/
def partlyClaimed : List (ℕ × Op) := opened ++ [(130, .claim 1 alice)]

/-- It is revoked once more, and other schedules go on. -/
def goesOn : List (ℕ × Op) := [
  (160, .claim 2 bob),
  (165, .increaseScheduleAmount carol 2 100),
  (170, .revokeSchedule admin 1)]

theorem outside_of_mem {ops : List (ℕ × Op)} (h : ∀ e ∈ ops, contract ∉ e.2.parties)
    {log : List (State Balances × Action Balances)} (hlog : ∀ e ∈ log, e.2 ∈ calls ops) :
    ∀ e ∈ log, e.2.Outside asset contract e.1 := by
  intro e he
  obtain ⟨o, ho, hcall⟩ := List.mem_map.mp (hlog e he)
  rw [← hcall]
  exact h o ho

/-- Revoked at 150 with 500 released: 500 go back, and 200 can still be claimed, also at 400. -/
theorem revocation_keeps_earned_half :
    ∃ (s s' s'' : State Balances),
      revokeSchedule asset contract (Sample.env 150) admin 1 s = .ok (500, s') ∧
      paidFor 1 s'' = paidFor 1 s' ∧
      ∃ s₃, claim asset contract (Sample.env 400) 1 alice s'' = .ok (200, s₃) := by
  have h : After (fun h₀ => (∃ p ∈ h₀.2.schedule.get? 1, p.active = true ∧ p.revocable = true ∧
        p.totalAmount = 1000 ∧ p.claimedAmount = 300 ∧ p.beneficiary = alice) ∧
      clock Action.time h₀.1 ≤ 150 ∧
      After (fun r => r.1 = 500 ∧ After (fun h => paidFor 1 h.2 = paidFor 1 r.2 ∧
          clock Action.time
            (h.1 ++ (h₀.2, .call (Sample.env 150) (.revokeSchedule admin 1)) :: h₀.1) ≤ 400)
        (record (next asset contract) (fun log t a => OnTime Action.time
            (log ++ (h₀.2, .call (Sample.env 150) (.revokeSchedule admin 1)) :: h₀.1) a ∧
            a.Beside Op.alters 1 t) (calls goesOn) ([], r.2)))
        (revokeSchedule asset contract (Sample.env 150) admin 1 h₀.2))
      (record (next asset contract) (fun log _ a => OnTime Action.time log a) (calls partlyClaimed)
        ([], start)) := by
    decide +kernel
  obtain ⟨⟨old, s⟩, hold, ⟨p, hk, hactive, hrevocable, htotal, hclaimed, howner⟩, hnow, h⟩ :=
    h.exists_ok
  obtain ⟨⟨refund, s'⟩, hr, hrefund, h⟩ := h.exists_ok
  obtain ⟨⟨log, s''⟩, hlog, hpaid, hlater⟩ := h.exists_ok
  simp only at hk hrefund hpaid hlater hr
  subst hrefund
  have hreach : History (next asset contract) (fun log _ a => OnTime Action.time log a) start
      old s := record_run hold
  obtain ⟨-, hrevoked⟩ := revocation_keeps_earned (Sample.env 150) admin hreach hk
    (by rw [htotal]; decide) hactive hrevocable hnow
  obtain ⟨v, -, hv, -, hleft⟩ := hrevoked 500 s' hr
  have hleft := hleft log s'' (record_map_history hlog fun _ _ _ _ ha =>
    ⟨ha.1, ha.2.onlyBy (fun op hop => Op.keepsTerms_of_claims hop) fun op hop => by
      cases op <;> first | exact .inl rfl | exact .inr hop⟩)
  have hamount : v - p.claimedAmount - (paidFor 1 s'' - paidFor 1 s') = 200 := by
    rw [hpaid, hclaimed]
    omega
  rw [hamount] at hleft
  have hcovered := hleft.covered asset_exact fun e he => by
    rcases List.mem_append.mp he with he | he
    · exact outside_of_mem (by decide) (mem_of_record hlog) e he
    · rcases List.mem_cons.mp he with rfl | he
      · show contract ∉ []
        exact List.not_mem_nil
      · exact outside_of_mem (by decide) (mem_of_record hold) e he
  rw [← howner]
  exact ⟨s, s', s'', hr, hpaid,
    hleft.pays asset_honours hcovered (by decide) (Sample.env 400) hlater rfl⟩

end Runs

end TokenVesting
