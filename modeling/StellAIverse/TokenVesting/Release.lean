import StellAIverse.TokenVesting.Schedules

/-!
# What a schedule releases

A claim pays the difference between what a schedule has released by now and what
it has paid before. While nothing but claims writes the schedule these differences
add up to the released amount itself, so neither the number of the claims nor
their times matter, nor whether they were made alone or in a batch.
-/

namespace TokenVesting

open Soroban

variable {τ : Type} {tok : Token τ} {self : Address} {s s' : State τ} {a : Action τ} {env : Env}
  {op : Op} {now id : ℕ} {p q : VestingSchedule}

theorem vestedFor_early {t : ℕ} (h : t < p.cliffTime) : vestedFor p t = .ok 0 := if_pos (.inl h)

theorem vestedFor_ended (ho : p.Ordered) {t : ℕ} (h : p.endTime ≤ t) :
    vestedFor p t = .ok p.totalAmount := by
  obtain ⟨-, hcliff, hlt⟩ := ho
  unfold vestedFor
  rw [if_neg (by omega), if_pos h]

/-- A schedule that is not over holds something back. -/
theorem vestedAt_lt (ho : p.Ordered) (hpos : 0 < p.totalAmount) {t : ℕ} (h : t < p.endTime) :
    p.vestedAt t < p.totalAmount := by
  obtain ⟨-, -, hlt⟩ := ho
  unfold VestingSchedule.vestedAt
  split
  · exact hpos
  · rw [if_neg (not_le.mpr h)]
    have hd : (0 : ℤ) < (p.endTime - p.startTime : ℕ) := by omega
    have hpart : ((t - p.startTime : ℕ) : ℤ) < (p.endTime - p.startTime : ℕ) := by omega
    have hpart₀ : (0 : ℤ) ≤ (t - p.startTime : ℕ) := Int.natCast_nonneg _
    have hfloor := I128.tdiv_mul_le (mul_nonneg hpos.le hpart₀) hd
    exact lt_of_mul_lt_mul_right (hfloor.trans_lt (mul_lt_mul_of_pos_left hpart hpos)) hd.le

/-- What is released by a time: nothing before the cliff, never less than before, all of
it from the end on. -/
structure Releases (p : VestingSchedule) : Prop where
  early : ∀ t, t < p.cliffTime → vestedFor p t = .ok 0
  grows : ∀ t t' v v', t ≤ t' → vestedFor p t = .ok v → vestedFor p t' = .ok v' → v ≤ v'
  bounded : ∀ t v, vestedFor p t = .ok v → 0 ≤ v ∧ v ≤ p.totalAmount
  all : ∀ t, p.endTime ≤ t → vestedFor p t = .ok p.totalAmount

theorem VestingSchedule.Sound.releases (h : p.Sound now) : Releases p where
  early _ := vestedFor_early
  grows t t' v v' hle hv hv' := by
    rw [vestedFor_ok hv, vestedFor_ok hv']
    exact vestedAt_mono h.ordered (h.claimed.trans h.within) hle
  bounded t v hv := by
    rw [vestedFor_ok hv]
    exact vestedAt_bounds h.ordered (h.claimed.trans h.within) t
  all _ := vestedFor_ended h.ordered

/-- A schedule of which there were only claims, and what they paid. -/
inductive OnlyClaimed (now : ℕ) (p : VestingSchedule) (paid : ℤ) : VestingSchedule → Prop
  | mk (claimedAmount : ℤ) (active : Bool) (updatedAt lastClaimedAt : ℕ)
      (claimed_eq : claimedAmount = p.claimedAmount + paid)
      (released : claimedAmount ≤ p.vestedAt now)
      (complete : active = false → claimedAmount = p.totalAmount ∧ p.endTime ≤ now) :
      OnlyClaimed now p paid { p with claimedAmount, active, updatedAt, lastClaimedAt }

variable {paid : ℤ}

theorem OnlyClaimed.start (hs : p.Sound now) (hactive : p.active = true) : OnlyClaimed now p 0 p :=
  .mk p.claimedAmount p.active p.updatedAt p.lastClaimedAt (add_zero _).symm (hs.vested hactive)
    fun hclosed => (by rw [hactive] at hclosed; cases hclosed)

theorem OnlyClaimed.later (h : OnlyClaimed now p paid q) {t now' : ℕ} (hs : p.Sound t)
    (hle : now ≤ now') : OnlyClaimed now' p paid q := by
  cases h with
  | mk claimedAmount active updatedAt lastClaimedAt claimed_eq released complete =>
    have hmore := vestedAt_mono hs.ordered (hs.claimed.trans hs.within) hle
    exact .mk claimedAmount active updatedAt lastClaimedAt claimed_eq (released.trans hmore)
      fun hclosed => ⟨(complete hclosed).1, (complete hclosed).2.trans hle⟩

/-- A claim closes a schedule only if it brings it to the total. -/
theorem paidUpTo_closes (now : ℕ) (hactive : p.active = true) {vested : ℤ}
    (h : (p.paidUpTo vested now).active = false) : p.totalAmount ≤ vested := by
  by_contra hpart
  simp only [VestingSchedule.paidUpTo, ge_iff_le, hpart, if_false, hactive] at h
  cases h

/-- One more claim brings the sum to what is released now. -/
theorem OnlyClaimed.claim (h : OnlyClaimed now p paid q) (hs : q.Sound now) {q' : VestingSchedule}
    {more : ℤ} (hclaim : Claimed now q q' more) : OnlyClaimed now p (paid + more) q' := by
  cases hclaim with
  | nothing =>
    rw [add_zero]
    exact h
  | paid active due =>
    cases h with
    | mk claimedAmount active' updatedAt lastClaimedAt claimed_eq released complete =>
      refine .mk (p.vestedAt now) _ now now ?_ le_rfl fun hclosed => ?_
      · have hsum : p.vestedAt now = claimedAmount + (p.vestedAt now - claimedAmount) := by ring
        rw [← add_assoc, ← claimed_eq]
        exact hsum
      · have hle := (vestedAt_bounds hs.ordered (hs.claimed.trans hs.within) now).2
        have hall : p.totalAmount ≤ p.vestedAt now := paidUpTo_closes now active hclosed
        refine ⟨le_antisymm hle hall, not_lt.mp fun hopen => ?_⟩
        have hpos : 0 < p.totalAmount := (hs.claimed.trans_lt due).trans_le hle
        exact absurd hall (not_le.mpr (vestedAt_lt hs.ordered hpos hopen))

/-- There is nothing to claim of a schedule at a time. -/
def Settled (t : ℕ) (q : VestingSchedule) : Prop :=
  q.active = true → vestedFor q t = .ok (q.vestedAt t) ∧ q.vestedAt t ≤ q.claimedAmount

/-- What was paid, when there is nothing to claim. -/
theorem OnlyClaimed.settled (h : OnlyClaimed now p paid q) {t : ℕ} (hs : p.Sound t)
    (hq : Settled now q) : vestedFor p now = .ok (p.claimedAmount + paid) := by
  cases h with
  | mk claimedAmount active updatedAt lastClaimedAt claimed_eq released complete =>
    cases active with
    | true =>
      obtain ⟨hvested, hle⟩ := hq rfl
      have hall : p.vestedAt now = p.claimedAmount + paid := by
        rw [← claimed_eq]
        exact le_antisymm hle released
      rw [← hall]
      exact hvested
    | false =>
      obtain ⟨hall, hend⟩ := complete rfl
      rw [← claimed_eq, hall]
      exact vestedFor_ended hs.ordered hend

/-- There is nothing to claim of the schedule under this id. -/
def SettledAt (t id : ℕ) (s : State τ) : Prop :=
  ∀ q, s.schedule.get? id = some q → Settled t q

theorem paidUpTo_settled {t : ℕ} (hvested : vestedFor q t = .ok (q.vestedAt t)) :
    Settled t (q.paidUpTo (q.vestedAt t) t) := fun _ => ⟨hvested, le_rfl⟩

theorem claimOne_settles {id' : ℕ} {beneficiary : Address} {requirePositive : Bool}
    {r : ℤ × State τ} (h : claimOne tok self env id' beneficiary requirePositive s = .ok r)
    (hid : id' = id ∨ SettledAt env.timestamp id s) : SettledAt env.timestamp id r.2 := by
  obtain ⟨q, hfound, -, ⟨rfl, hnothing⟩ | ⟨-, hvested, -, tokens, -, rfl⟩⟩ := claimOne_ok h
  · rcases hid with rfl | hid
    · intro q' hq'
      obtain rfl := Option.some.inj (hfound.symm.trans hq')
      exact hnothing
    · exact hid
  · intro q' hq'
    simp only [Store.get?_set] at hq'
    split at hq'
    · cases hq'
      exact paidUpTo_settled hvested
    · rename_i hne
      exact hid.resolve_left (Ne.symm hne) q' hq'

theorem claimEach_settles {beneficiary : Address} {ids : List ℕ} {totalPaid : ℤ}
    {r : ℤ × State τ} (h : claimEach tok self env beneficiary ids totalPaid s = .ok r)
    (hid : id ∈ ids ∨ SettledAt env.timestamp id s) : SettledAt env.timestamp id r.2 := by
  induction ids generalizing totalPaid s with
  | nil =>
    cases h
    exact hid.resolve_left List.not_mem_nil
  | cons id' rest ih =>
    unfold claimEach at h
    obtain ⟨⟨paid, s₁⟩, hone, h⟩ := bind_ok.mp h
    rw [I128.checked_bind] at h
    refine ih h.2 ?_
    rcases hid with hid | hid
    · rcases List.mem_cons.mp hid with rfl | hid
      · exact .inr (claimOne_settles hone (.inl rfl))
      · exact .inl hid
    · exact .inr (claimOne_settles hone (.inr hid))

/-- A batch that pays nothing writes nothing. -/
theorem claimEach_pays {beneficiary : Address} {ids : List ℕ} {totalPaid : ℤ}
    {r : ℤ × State τ} (h : claimEach tok self env beneficiary ids totalPaid s = .ok r) :
    totalPaid ≤ r.1 ∧ (r.1 = totalPaid → r.2 = s) := by
  induction ids generalizing totalPaid s with
  | nil =>
    cases h
    exact ⟨le_rfl, fun _ => rfl⟩
  | cons id' rest ih =>
    unfold claimEach at h
    obtain ⟨⟨paid, s₁⟩, hone, h⟩ := bind_ok.mp h
    rw [I128.checked_bind] at h
    obtain ⟨hle, hsame⟩ := ih h.2
    obtain ⟨q, -, -, ⟨hr, -⟩ | ⟨-, -, hdue, tokens, -, hr⟩⟩ := claimOne_ok hone
    · cases hr
      rw [add_zero] at hle hsame
      exact ⟨hle, hsame⟩
    · cases hr
      exact ⟨by omega, fun he => absurd he (by omega)⟩

/-- How a call answers that a schedule has nothing to pay. -/
def NothingDue (fault : Fault) : Prop :=
  fault = .panic "No vested tokens available" ∨ fault = .panic "Schedule is not active"

section Faults

variable {fault : Fault}

theorem NothingDue.ne_panic (he : NothingDue fault) {message : String}
    (h : message ≠ "No vested tokens available" ∧ message ≠ "Schedule is not active") :
    fault ≠ .panic message := by
  rintro rfl
  rcases he with he | he
  · exact h.1 (Fault.panic.inj he)
  · exact h.2 (Fault.panic.inj he)

theorem NothingDue.ne_host (he : NothingDue fault) :
    fault ≠ .divisionByZero ∧ fault ≠ .overflow ∧ fault ≠ .unauthorized ∧ fault ≠ .callFailed := by
  rcases he with rfl | rfl <;> decide

theorem vestedFor_avoids (he : NothingDue fault) (q : VestingSchedule) (t : ℕ) :
    Avoids fault (vestedFor q t) := by
  unfold vestedFor
  split
  · exact avoids_ok 0
  · split
    · exact avoids_ok q.totalAmount
    · rw [U64.checkedSub, if_pos (by omega), ok_bind, U64.checkedSub, if_pos (by omega), ok_bind]
      split
      · exact avoids_ok q.totalAmount
      · exact (I128.checked_avoids (he.ne_panic (by decide))).bind fun _ _ =>
          I128.div_avoids_of_ne he.ne_host.1 he.ne_host.2.1

/-- A payment has three ways to trap. -/
theorem transferToken_avoids (hlock : fault ≠ .panic "Reentrant call blocked")
    (hpositive : fault ≠ .panic "Transfer amount must be positive") (hcall : fault ≠ .callFailed)
    {token source target : Address} {amount : ℤ} :
    Avoids fault (transferToken tok s token source target amount) := by
  unfold transferToken enterNonReentrant transferTokenUnchecked
  refine Avoids.bind ?_ fun _ _ => Avoids.bind ?_ fun _ _ => avoids_ok _
  · exact (panicIf_avoids hlock).bind fun _ _ => avoids_ok _
  · exact (panicIf_avoids hpositive).bind fun _ _ => (tok.pay_avoids hcall).bind fun _ _ => avoids_ok _

/-- Such an answer comes from a single claim of a schedule with nothing to pay. -/
theorem claimOne_avoids (he : NothingDue fault) {beneficiary : Address} {requirePositive : Bool}
    (hopen : requirePositive = true → ¬ SettledAt env.timestamp id s) :
    Avoids fault (claimOne tok self env id beneficiary requirePositive s) := by
  unfold claimOne
  refine Avoids.bind ?_ fun q hq => (panicIf_avoids (he.ne_panic (by decide))).bind fun _ _ => ?_
  · exact (panicIf_avoids (he.ne_panic (by decide))).bind fun _ _ =>
      expect_avoids (he.ne_panic (by decide))
  · have hfound : s.schedule.get? id = some q := by
      obtain ⟨-, q', hq', hsame⟩ := loadSchedule_bind.mp ((bind_pure _).trans hq)
      cases hsame
      exact hq'
    have hdue : requirePositive = true → ¬ Settled env.timestamp q := fun hstrict hsettled =>
      hopen hstrict fun q' hq' => (by
        obtain rfl := Option.some.inj (hfound.symm.trans hq')
        exact hsettled)
    split
    · rename_i hclosed
      split
      · rename_i hstrict
        exact absurd (fun hactive => (by rw [hclosed] at hactive; cases hactive)) (hdue hstrict)
      · exact avoids_ok _
    · refine (vestedFor_avoids he q _).bind fun vested hvested =>
        Avoids.bind ?_ fun claimable hclaimable => ?_
      · unfold claimableFromVested
        split
        · exact avoids_ok _
        · exact I128.checked_avoids (he.ne_panic (by decide))
      · split
        · rename_i hnone
          split
          · rename_i hstrict
            have hpart := claimableFromVested_ok hclaimable
            have hvalue := vestedFor_ok hvested
            rw [hvalue] at hvested hpart
            exact absurd (fun _ => ⟨hvested, by omega⟩) (hdue hstrict)
          · exact avoids_ok _
        · exact (I128.checked_avoids (he.ne_panic (by decide))).bind fun _ _ =>
            (transferToken_avoids (he.ne_panic (by decide)) (he.ne_panic (by decide))
              he.ne_host.2.2.2).bind fun _ _ => avoids_ok _

theorem claim_nothingDue (he : NothingDue fault) {beneficiary : Address}
    (h : claim tok self env id beneficiary s = .error fault) : SettledAt env.timestamp id s := by
  by_contra hopen
  refine absurd h (Avoids.bind (requireAuth_avoids he.ne_host.2.2.1) fun _ _ =>
    (claimOne_avoids he fun _ => hopen).bind fun r hr => ?_)
  -- A claim that completes either pays or shows that there is nothing to pay.
  obtain ⟨q, hfound, -, ⟨-, hnothing⟩ | ⟨-, -, hdue, tokens, -, rfl⟩⟩ := claimOne_ok hr
  · refine absurd (fun q' hq' => ?_) hopen
    obtain rfl := Option.some.inj (hfound.symm.trans hq')
    exact hnothing
  · simp only
    rw [panicIf_of_not (by omega), ok_bind]
    exact avoids_ok _

theorem claimEach_avoids (he : NothingDue fault) {beneficiary : Address} {ids : List ℕ}
    {totalPaid : ℤ} : Avoids fault (claimEach tok self env beneficiary ids totalPaid s) := by
  induction ids generalizing totalPaid s with
  | nil => exact avoids_ok _
  | cons id rest ih =>
    unfold claimEach
    refine (claimOne_avoids he fun hstrict => (by cases hstrict)).bind fun r _ => ?_
    exact (I128.checked_avoids (he.ne_panic (by decide))).bind fun _ _ => ih

theorem claimBatch_nothingDue {beneficiary : Address} {ids : List ℕ} (hid : id ∈ ids)
    (h : claimBatch tok self env ids beneficiary s = .error (.panic "No vested tokens available")) :
    SettledAt env.timestamp id s := by
  have he : NothingDue (.panic "No vested tokens available") := .inl rfl
  by_contra hopen
  refine absurd h (Avoids.bind (requireAuth_avoids he.ne_host.2.2.1) fun _ _ =>
    (panicIf_avoids (he.ne_panic (by decide))).bind fun _ _ =>
    (panicIf_avoids (he.ne_panic (by decide))).bind fun _ _ =>
    (claimEach_avoids he).bind fun r hr => ?_)
  obtain ⟨hle, hsame⟩ := claimEach_pays hr
  have hpos : ¬ r.1 ≤ 0 := by
    intro hzero
    have hsettles := claimEach_settles hr (.inl hid)
    rw [hsame (le_antisymm hzero hle)] at hsettles
    exact hopen hsettles
  simp only
  rw [panicIf_of_not hpos, ok_bind]
  exact avoids_ok _

end Faults

/-- The beneficiary claims a schedule, alone or in a batch; when it has nothing to pay, the
call traps and leaves everything as it was. -/
inductive Claiming (tok : Token τ) (self : Address) (env : Env) (id : ℕ) (beneficiary : Address)
    (s : State τ) : State τ → Prop
  | single (r : ℤ × State τ) (done : claim tok self env id beneficiary s = .ok r) :
      Claiming tok self env id beneficiary s r.2
  | batch (ids : List ℕ) (listed : id ∈ ids) (r : ℤ × State τ)
      (done : claimBatch tok self env ids beneficiary s = .ok r) :
      Claiming tok self env id beneficiary s r.2
  | nothing (fault : Fault) (zero : NothingDue fault)
      (trapped : claim tok self env id beneficiary s = .error fault) :
      Claiming tok self env id beneficiary s s
  | nothingInBatch (ids : List ℕ) (listed : id ∈ ids)
      (trapped : claimBatch tok self env ids beneficiary s =
        .error (.panic "No vested tokens available")) :
      Claiming tok self env id beneficiary s s

theorem Claiming.settles {beneficiary : Address}
    (h : Claiming tok self env id beneficiary s s') : SettledAt env.timestamp id s' := by
  cases h with
  | single r done =>
    unfold claim at done
    rw [requireAuth_bind] at done
    obtain ⟨-, done⟩ := done
    obtain ⟨r', hone, done⟩ := bind_ok.mp done
    rw [panicIf_bind] at done
    cases done.2
    exact claimOne_settles hone (.inl rfl)
  | batch ids listed r done =>
    unfold claimBatch at done
    rw [requireAuth_bind, panicIf_bind, panicIf_bind] at done
    obtain ⟨-, -, -, done⟩ := done
    obtain ⟨r', heach, done⟩ := bind_ok.mp done
    rw [panicIf_bind] at done
    cases done.2
    have hsettles := claimEach_settles heach (.inl listed)
    exact hsettles
  | nothing fault zero trapped => exact claim_nothingDue zero trapped
  | nothingInBatch ids listed trapped => exact claimBatch_nothingDue listed trapped

theorem Op.claims_creates (op : Op) (h : op.claims = true) : op.creates = 0 := by
  cases op <;> first | rfl | cases h

theorem Op.claims_rewrites (h : op.claims = true) : op.rewrites = none ∧ op.alters = none := by
  cases op <;> first | exact ⟨rfl, rfl⟩ | cases h

theorem Claiming.step {beneficiary : Address} (h : Claiming tok self env id beneficiary s s') :
    s' = s ∨ ∃ op, next tok self (.call env op) s = .ok s' ∧ op.claims = true ∧
      (Action.call env op).OnlyBy Op.claims tok self id s := by
  cases h with
  | single r done =>
    exact .inr ⟨.claim id beneficiary, map_ok.mpr ⟨r, done, rfl⟩, rfl, .inl rfl⟩
  | batch ids _ r done =>
    exact .inr ⟨.claimBatch ids beneficiary, map_ok.mpr ⟨r, done, rfl⟩, rfl, .inl rfl⟩
  | nothing => exact .inl rfl
  | nothingInBatch => exact .inl rfl

theorem onlyClaimed_kept (id : ℕ) {t : ℕ} (hp : p.Sound t) :
    KeptBy Op.claims id fun now paid q => OnlyClaimed now p paid q where
  creates := Op.claims_creates
  later hle h := h.later hp hle
  touched hop hs htouched h := by
    obtain ⟨hrewrites, halters⟩ := Op.claims_rewrites hop
    cases htouched with
    | kept =>
      rw [add_zero]
      exact h
    | claimed _ _ _ claims => exact h.claim hs claims
    | closed _ rewrites => exact absurd (hrewrites.symm.trans rewrites) nofun
    | revoked rewrites => exact absurd (hrewrites.symm.trans rewrites) nofun
    | altered _ alters => exact absurd (halters.symm.trans alters) nofun

/-- The transfers of some claims, in the order of their events: each from the contract to the
beneficiary, in the token of the schedule. -/
def payouts (self : Address) (s : State τ) (batch : List Event) : List Payment :=
  batch.filterMap fun
    | .vestClm id beneficiary amount =>
      (s.schedule.get? id).map fun schedule => ⟨schedule.token, self, beneficiary, amount⟩
    | _ => none

/-- The ledger moves by the transfers of the claims that the events tell of, and nothing else. -/
def PaidOut (tok : Token τ) (self : Address) (s s' : State τ) : Prop :=
  ∃ batch, s'.events = s.events ++ batch ∧
    tok.settle s.tokens (payouts self s batch) = some s'.tokens

/-- The beneficiary has no other schedule in the same token. -/
def Sole (id : ℕ) (p : VestingSchedule) (s : State τ) : Prop :=
  ∀ id' q, s.schedule.get? id' = some q → q.token = p.token → q.beneficiary = p.beneficiary →
    id' = id

instance (id : ℕ) (p : VestingSchedule) (s : State τ) : Decidable (Sole id p s) :=
  decidable_of_iff (∀ e ∈ s.schedule.list, e.2.token = p.token → e.2.beneficiary = p.beneficiary →
      e.1 = id)
    ⟨fun h id' q hk => h (id', q) (Store.mem_list.mpr hk), fun h e he =>
      h e.1 e.2 (Store.mem_list.mp he)⟩

/-- Only claims of the schedule move the beneficiary's account in its token. -/
def Action.Alone (tok : Token τ) (self : Address) (id : ℕ) (p : VestingSchedule) (s : State τ) :
    Action τ → Prop
  | .call env op =>
    if op.claims = true then Sole id p s
    else ∀ s', next tok self (.call env op) s = .ok s' →
      tok.balance s'.tokens p.token p.beneficiary = tok.balance s.tokens p.token p.beneficiary
  | .transfers tokens =>
    tok.balance tokens p.token p.beneficiary = tok.balance s.tokens p.token p.beneficiary

instance (tok : Token τ) (self : Address) (id : ℕ) (p : VestingSchedule) (s : State τ)
    (a : Action τ) : Decidable (a.Alone tok self id p s) :=
  match a with
  | .call env op =>
    if hop : op.claims = true then decidable_of_iff (Sole id p s) (if_pos hop).symm.to_iff
    else
      match hn : next tok self (.call env op) s with
      | .ok s' => decidable_of_iff (tok.balance s'.tokens p.token p.beneficiary =
          tok.balance s.tokens p.token p.beneficiary) (by simp [Action.Alone, hop, hn])
      | .error _ => isTrue (by simp [Action.Alone, hop, hn])
  | .transfers _ => inferInstanceAs (Decidable (_ = _))

section Ledger

variable {beneficiary : Address}

/-- Claims write no new schedules, and leave to each its token and its beneficiary. -/
theorem Claims.terms (h : Claims tok self now beneficiary s s')
    (hk : s'.schedule.get? id = some q) :
    ∃ p, s.schedule.get? id = some p ∧ q.token = p.token ∧ q.beneficiary = p.beneficiary := by
  induction h generalizing q with
  | refl => exact ⟨q, hk, rfl, rfl⟩
  | tail _ hstep ih =>
    cases hstep with
    | mk id' schedule tokens found =>
      rw [Store.get?_set] at hk
      split at hk
      · rename_i hid
        subst hid
        cases hk
        obtain ⟨p, hp, htoken, howner⟩ := ih found
        exact ⟨p, hp, htoken, howner⟩
      · exact ih hk

theorem Claims.paidOut (h : Claims tok self now beneficiary s s') : PaidOut tok self s s' := by
  induction h with
  | refl => exact ⟨[], (List.append_nil _).symm, rfl⟩
  | tail hsteps hstep ih =>
    obtain ⟨batch, hevents, hsettled⟩ := ih
    cases hstep with
    | mk id schedule tokens found owner active due paid =>
      obtain ⟨p, hp, htoken, -⟩ := Claims.terms hsteps found
      generalize schedule.vestedAt now - schedule.claimedAmount = due at paid ⊢
      refine ⟨batch ++ [.vestClm id beneficiary due], ?_, ?_⟩
      · simp only [hevents, List.append_assoc]
      · have hlast : payouts self s [.vestClm id beneficiary due] =
            [⟨schedule.token, self, beneficiary, due⟩] := by
          simp only [payouts, List.filterMap_cons, List.filterMap_nil, hp, Option.map_some, htoken]
        rw [payouts, List.filterMap_append, ← payouts, ← payouts, hlast]
        exact Token.settle_append hsettled (Token.settle_one paid)

/-- Claims by a beneficiary with one schedule in a token pay into its account there what they
pay for the schedule. -/
theorem Claims.balance (h : Claims tok self now beneficiary s s') (hex : tok.Exact)
    (hself : self ≠ p.beneficiary) (hk : s.schedule.get? id = some q) (htoken : q.token = p.token)
    (howner : q.beneficiary = p.beneficiary) (hsole : Sole id p s) :
    tok.balance s'.tokens p.token p.beneficiary =
      tok.balance s.tokens p.token p.beneficiary + (paidFor id s' - paidFor id s) := by
  induction h with
  | refl => simp
  | tail hsteps hstep ih =>
    cases hstep with
    | mk id' schedule tokens found owner active due paid =>
      obtain ⟨old, hold, htoken', howner'⟩ := Claims.terms hsteps found
      rw [hex.moves _ _ _ _ _ _ paid, ih]
      simp only [paidFor]
      rw [named_append]
      by_cases hid : id' = id
      · subst hid
        cases hk.symm.trans hold
        rw [if_neg (fun hpay => hself hpay.2.symm),
          if_pos ⟨(htoken'.trans htoken).symm, (howner.symm.trans howner'.symm).trans owner⟩]
        simp only [named, Event.toBeneficiary, List.map_cons, List.map_nil, List.sum_cons,
          List.sum_nil, if_true]
        ring
      · rw [if_neg (fun hpay => hself hpay.2.symm), if_neg fun hpay => hid
          (hsole id' old hold (htoken'.symm.trans hpay.1.symm)
            ((howner'.symm.trans owner).trans hpay.2.symm))]
        simp [named, Event.toBeneficiary, hid]

/-- A claiming invocation makes claims of one beneficiary, and may sum them up. -/
theorem claims_effect (hop : op.claims = true) (h : next tok self (.call env op) s = .ok s') :
    ∃ beneficiary s₁ batch, Claims tok self env.timestamp beneficiary s s₁ ∧
      (batch = [] ∨ ∃ amount, batch = [.vestBcl beneficiary amount]) ∧
      s' = { s₁ with events := s₁.events ++ batch } := by
  have heffect := next_effect h
  cases heffect with
  | claims _ _ beneficiary s₁ batch claimant claims summary =>
    exact ⟨beneficiary, s₁, batch, claims, summary, rfl⟩
  | creates _ _ funder token terms entries tokens batch creator =>
    cases op <;> cases hop <;> cases creator
  | _ => cases hop

/-- A claiming invocation pays by transfers. -/
theorem claims_paidOut (hop : op.claims = true) (h : next tok self (.call env op) s = .ok s') :
    PaidOut tok self s s' := by
  obtain ⟨beneficiary, s₁, batch, hclaims, hquiet, rfl⟩ := claims_effect hop h
  obtain ⟨paid, hevents, hsettled⟩ := hclaims.paidOut
  refine ⟨paid ++ batch, by simp only [hevents, List.append_assoc], ?_⟩
  have hnone : payouts self s batch = [] := by
    rcases hquiet with rfl | ⟨amount, rfl⟩ <;> rfl
  rw [payouts, List.filterMap_append, ← payouts, ← payouts, hnone, List.append_nil]
  exact hsettled

end Ledger

/-- What an invocation pays for the schedule goes into the beneficiary's account. -/
theorem Action.Alone.balance (halone : (Action.call env op : Action τ).Alone tok self id p s)
    (honly : (Action.call env op : Action τ).OnlyBy Op.claims tok self id s)
    (h : next tok self (.call env op) s = .ok s') (hex : tok.Exact) (hself : self ≠ p.beneficiary)
    (hk : s.schedule.get? id = some q) (htoken : q.token = p.token)
    (howner : q.beneficiary = p.beneficiary) :
    tok.balance s'.tokens p.token p.beneficiary =
      tok.balance s.tokens p.token p.beneficiary + (paidFor id s' - paidFor id s) := by
  by_cases hop : op.claims = true
  · have hsole : Sole id p s := (if_pos hop).mp halone
    obtain ⟨claimant, s₁, batch, hclaims, hquiet, rfl⟩ := claims_effect hop h
    have hpaid : paidFor id { s₁ with events := s₁.events ++ batch } = paidFor id s₁ := by
      rw [paidFor_append]
      rcases hquiet with rfl | ⟨amount, rfl⟩ <;> exact add_zero _
    rw [hpaid]
    exact hclaims.balance hex hself hk htoken howner hsole
  · have hstill := (if_neg hop).mp halone
    obtain ⟨q', paid, -, hpaid, ⟨-, rfl⟩ | ⟨hclaims, -⟩⟩ := honly.touched Op.claims_creates h hk
    · rw [hstill s' h, hpaid]
      ring
    · exact absurd hclaims hop

theorem OnlyClaimed.token (h : OnlyClaimed now p paid q) : q.token = p.token := by
  cases h
  rfl

theorem OnlyClaimed.beneficiary (h : OnlyClaimed now p paid q) :
    q.beneficiary = p.beneficiary := by
  cases h
  rfl

/-- While only claims of the schedule move the account, it grows by what they pay. -/
theorem alone_history {old log : List (State τ × Action τ)} {s₀ : State τ}
    (hstart : AllSound (clock Action.time old) s₀) (hk : s₀.schedule.get? id = some p)
    (hactive : p.active = true) (hex : tok.Exact) (hself : self ≠ p.beneficiary)
    (hrun : History (next tok self) (fun log s a =>
      OnTime Action.time (log ++ old) a ∧ a.OnlyBy Op.claims tok self id s) s₀ log s)
    (halone : ∀ e ∈ log, e.2.Alone tok self id p e.1) :
    tok.balance s.tokens p.token p.beneficiary =
      tok.balance s₀.tokens p.token p.beneficiary + (paidFor id s - paidFor id s₀) := by
  have hp := hstart id p hk
  induction hrun with
  | nil => rw [sub_self, add_zero]
  | @cons log s s' a run admitted done ih =>
    obtain ⟨hlast, hothers⟩ := List.forall_mem_cons.mp halone
    have hbefore := ih hothers
    obtain ⟨-, q, hq, h⟩ :=
      (onlyClaimed_kept id hp).history hstart hk (.start hp hactive) run
    cases a with
    | transfers tokens =>
      cases done
      exact hlast.trans hbefore
    | call env op =>
      rw [Action.Alone.balance hlast admitted.2 done hex hself hq h.token h.beneficiary, hbefore]
      ring

/-- Claims are path independent. From any state with an active schedule on, while nothing
but claims writes it: after each claim, alone or in a batch, what it ever paid is what the
schedule as it stood at the start releases by then, whatever was claimed before and when. Each
claim is paid by a transfer, and the beneficiary's account has grown by the sum if nothing else
moves it. -/
theorem claims_path_independent {tokens : τ} {old log : List (State τ × Action τ)}
    {s₀ : State τ} {beneficiary : Address}
    (hreach : History (next tok self) (fun log _ a => OnTime Action.time log a) (deployed tokens)
      old s₀)
    (hk : s₀.schedule.get? id = some p) (hactive : p.active = true)
    (hrun : History (next tok self) (fun log s a =>
      OnTime Action.time (log ++ old) a ∧ a.OnlyBy Op.claims tok self id s) s₀ log s)
    (hnow : clock Action.time (log ++ old) ≤ env.timestamp)
    (hclaim : Claiming tok self env id beneficiary s s') :
    vestedFor p env.timestamp =
        .ok (p.claimedAmount + (paidFor id s' - paidFor id s₀)) ∧
      Releases p ∧
      (∀ e ∈ log, ∀ env op, e.2 = .call env op → op.claims = true → ∀ t,
        next tok self e.2 e.1 = .ok t → PaidOut tok self e.1 t) ∧
      PaidOut tok self s s' ∧
      (tok.Exact → self ≠ p.beneficiary → (∀ e ∈ log, e.2.Alone tok self id p e.1) → Sole id p s →
        tok.balance s'.tokens p.token p.beneficiary =
          tok.balance s₀.tokens p.token p.beneficiary + (paidFor id s' - paidFor id s₀)) := by
  have hstart := history_allSound hreach
  have hp := hstart id p hk
  have hkept := onlyClaimed_kept id hp
  obtain ⟨hs, q, hq, h⟩ := hkept.history hstart hk (.start hp hactive) hrun
  have hpays : ∀ (env : Env) (op : Op) (s t : State τ), op.claims = true →
      next tok self (.call env op) s = .ok t → PaidOut tok self s t :=
    fun _ _ _ _ hop h => claims_paidOut hop h
  refine ⟨?_, hp.releases, ?_, ?_, ?_⟩
  · have hsettled := hclaim.settles
    rcases hclaim.step with rfl | ⟨op, hn, -, ha⟩
    · exact (h.later hp hnow).settled hp (hsettled q hq)
    · have htime : OnTime Action.time (log ++ old) (.call env op : Action τ) := by
        intro t ht
        cases ht
        exact hnow
      obtain ⟨q', hq', h'⟩ := hkept.step htime ha hn hs hq h
      rw [add_comm, sub_add_sub_cancel] at h'
      exact h'.settled hp (hsettled q' hq')
  · rintro ⟨s, a⟩ - env op rfl hop t ht
    exact hpays env op s t hop ht
  · rcases hclaim.step with rfl | ⟨op, hn, hop, -⟩
    · exact ⟨[], (List.append_nil _).symm, rfl⟩
    · exact hpays env op s s' hop hn
  · intro hex hself halone hsole
    have hbefore := alone_history hstart hk hactive hex hself hrun halone
    rcases hclaim.step with rfl | ⟨op, hn, hop, ha⟩
    · exact hbefore
    · have hlast : (Action.call env op : Action τ).Alone tok self id p s := (if_pos hop).mpr hsole
      rw [hlast.balance ha hn hex hself hq h.token h.beneficiary, hbefore]
      ring

section Runs

open Sample

/-- Two schedules with the same terms. -/
def opened : List (ℕ × Op) := [
  (0, .initializeContract admin),
  (0, .createSchedulesBatch carol usdc [alice, bob] [1000, 2000] terms)]

/-- Claims of the first, with a revocation of the second in between. -/
def claimedInParts : List (ℕ × Op) := [
  (130, .claim 1 alice),
  (140, .revokeSchedule admin 2),
  (145, .claimBatch [1, 1] alice)]

/-- Paid in three parts by 165: 300, 150 and 200 of 1000. Alice has all of it. -/
theorem claims_path_independent_thrice :
    ∃ (p : VestingSchedule) (s₀ s' : State Balances), s₀.schedule.get? 1 = some p ∧
      p.claimedAmount = 0 ∧ paidFor 1 s' - paidFor 1 s₀ = 650 ∧
      vestedFor p 165 = .ok (0 + 650) ∧
      asset.balance s'.tokens usdc alice = asset.balance s₀.tokens usdc alice + 650 := by
  have h : After (fun h₀ => ∃ p ∈ h₀.2.schedule.get? 1, (p.active = true ∧
        p.claimedAmount = 0 ∧ p.token = usdc ∧ p.beneficiary = alice) ∧
        After (fun h => clock Action.time (h.1 ++ h₀.1) ≤ 165 ∧
            (∀ e ∈ h.1, e.2.Alone asset contract 1 p e.1) ∧ Sole 1 p h.2 ∧
            After (fun r => paidFor 1 r.2 - paidFor 1 h₀.2 = 650)
              (claim asset contract (env 165) 1 alice h.2))
          (record (next asset contract)
            (fun log s a => OnTime Action.time (log ++ h₀.1) a ∧ a.Beside Op.rewrites 1 s)
            (calls claimedInParts) ([], h₀.2)))
      (record (next asset contract) (fun log _ a => OnTime Action.time log a) (calls opened)
        ([], start)) := by
    decide +kernel
  obtain ⟨⟨old, s₀⟩, hold, p, hk, ⟨hactive, hnew, htoken, howner⟩, h⟩ := h.exists_ok
  obtain ⟨⟨log, s⟩, hlog, hnow, halone, hsole, h⟩ := h.exists_ok
  obtain ⟨r, hr, hpaid⟩ := h.exists_ok
  have hreach : History (next asset contract) (fun log _ a => OnTime Action.time log a) start
      old s₀ := record_run hold
  have hrun : History (next asset contract) (fun log s a => OnTime Action.time (log ++ old) a ∧
      a.OnlyBy Op.claims asset contract 1 s) s₀ log s :=
    record_map_history hlog fun _ _ _ _ ha =>
      ⟨ha.1, ha.2.onlyBy (fun _ hop => hop) fun _ hop => .inr hop⟩
  obtain ⟨hvested, -, -, -, hledger⟩ :=
    claims_path_independent hreach hk hactive hrun hnow (.single r hr)
  have hself : contract ≠ p.beneficiary := by
    rw [howner]
    decide
  have hbalance := hledger asset_exact hself halone hsole
  rw [hnew, hpaid] at hvested
  rw [htoken, howner, hpaid] at hbalance
  exact ⟨p, s₀, r.2, hk, hnew, hpaid, hvested, hbalance⟩

end Runs

end TokenVesting
