import StellAIverse.TokenVesting.Custody

/-!
# One schedule at a time

What an invocation can do to one schedule, and what it pays the beneficiary. A law of
one schedule that a kind of invocations keeps holds after every run in which no other
invocation writes the schedule.
-/

namespace TokenVesting

open Soroban

variable {τ : Type} {tok : Token τ} {self : Address} {s s' : State τ} {a : Action τ} {env : Env}
  {op : Op} {now id : ℕ} {p q : VestingSchedule}

/-- What claims at one time leave of a schedule, and what they pay. -/
inductive Claimed (now : ℕ) (p : VestingSchedule) : VestingSchedule → ℤ → Prop
  | nothing : Claimed now p p 0
  | paid (active : p.active = true) (due : p.claimedAmount < p.vestedAt now) :
      Claimed now p (p.paidUpTo (p.vestedAt now) now) (p.vestedAt now - p.claimedAmount)

/-- The claims, alone and in batches. -/
def Op.claims (op : Op) : Bool := op.claimant.isSome

/-- The schedule whose terms an invocation changes. -/
def Op.alters : Op → Option ℕ
  | .modifySchedule _ id _ => some id
  | .increaseScheduleAmount _ id _ => some id
  | _ => none

/-- The schedule that an invocation writes in another way than by a claim. -/
def Op.rewrites : Op → Option ℕ
  | .earlyWithdraw id _ => some id
  | .revokeSchedule _ id => some id
  | op => op.alters

theorem Op.rewrites_of_alters (h : op.alters = some id) : op.rewrites = some id := by
  cases op <;> first | exact h | cases h

/-- How many schedules an invocation creates. -/
def Op.creates : Op → ℕ
  | .createSchedule _ _ _ _ _ => 1
  | .createSchedulesBatch _ _ beneficiaries _ _ => beneficiaries.length
  | _ => 0

/-- A schedule is created under this id. -/
def Op.Numbers (op : Op) (s : State τ) (id : ℕ) : Prop :=
  s.scheduleCounter < id ∧ id ≤ s.scheduleCounter + op.creates

/-- What an invocation leaves of a schedule, and what it pays the beneficiary. -/
inductive Touched (now : ℕ) (op : Op) (id : ℕ) (p : VestingSchedule) : VestingSchedule → ℤ → Prop
  | kept : Touched now op id p p 0
  | claimed (q : VestingSchedule) (paid : ℤ) (by_claim : op.claims = true)
      (claims : Claimed now p q paid) : Touched now op id p q paid
  | closed (payout : ℤ) (rewrites : op.rewrites = some id) (active : p.active = true)
      (payout_eq : payout = max (p.vestedAt now - p.claimedAmount) 0 +
        (p.totalAmount - p.vestedAt now -
          penaltyOf (p.totalAmount - p.vestedAt now) p.earlyPenaltyBps)) :
      Touched now op id p (p.closed now) payout
  | revoked (rewrites : op.rewrites = some id) (active : p.active = true) :
      Touched now op id p (p.revoked (p.vestedAt now) now) 0
  | altered (q : VestingSchedule) (alters : op.alters = some id) (active : p.active = true) :
      Touched now op id p q 0

/-- What the beneficiary of a schedule has been paid, by the events. -/
def paidFor (id : ℕ) (s : State τ) : ℤ := named id (fun id e => e.toBeneficiary id) s.events

theorem paidFor_append (id : ℕ) (s : State τ) (batch : List Event) :
    paidFor id { s with events := s.events ++ batch } =
      paidFor id s + named id (fun id e => e.toBeneficiary id) batch :=
  named_append _ _ _ _

theorem Claims.claimed {beneficiary : Address} (h : Claims tok self now beneficiary s s')
    (hk : s.schedule.get? id = some p) :
    ∃ q paid, s'.schedule.get? id = some q ∧ paidFor id s' = paidFor id s + paid ∧
      Claimed now p q paid := by
  induction h with
  | refl => exact ⟨p, 0, hk, (add_zero _).symm, .nothing⟩
  | tail _ hstep ih =>
    obtain ⟨q, paid, hq, hpaid, hclaimed⟩ := ih
    cases hstep with
    | mk id' schedule tokens found owner active due moved =>
      by_cases he : id' = id
      · subst he
        obtain rfl := Option.some.inj (found.symm.trans hq)
        cases hclaimed with
        | nothing =>
          refine ⟨_, _, Store.get?_set_self _ _ _, ?_, .paid active due⟩
          simp only [paidFor] at hpaid ⊢
          rw [named_append, hpaid]
          simp [named, Event.toBeneficiary]
        | paid => exact absurd due (lt_irrefl _)
      · refine ⟨q, paid, (Store.get?_set_ne _ _ (Ne.symm he)).trans hq, ?_, hclaimed⟩
        simp only [paidFor] at hpaid ⊢
        rw [named_append, hpaid]
        simp [named, Event.toBeneficiary, he]

theorem storedAll_paidFor (terms : Terms) (time : ℕ) (funder token : Address)
    (entries : List (Address × ℤ)) :
    paidFor id (storedAll terms time funder token entries s) = paidFor id s := by
  induction entries generalizing s with
  | nil => rfl
  | cons e rest ih =>
    refine ih.trans ?_
    simp only [paidFor, stored]
    rw [named_append]
    simp [named, Event.toBeneficiary]

/-- New schedules leave the others alone. -/
theorem storedAll_get? (terms : Terms) (time : ℕ) (funder token : Address)
    (entries : List (Address × ℤ))
    (hid : ¬ (s.scheduleCounter < id ∧ id ≤ s.scheduleCounter + entries.length)) :
    (storedAll terms time funder token entries s).schedule.get? id = s.schedule.get? id := by
  induction entries generalizing s with
  | nil => rfl
  | cons e rest ih =>
    rw [List.length_cons] at hid
    have hnext : (stored terms time funder token s e.1 e.2).scheduleCounter =
        s.scheduleCounter + 1 := rfl
    refine (ih (s := stored terms time funder token s e.1 e.2) (by omega)).trans ?_
    exact Store.get?_set_ne _ _ (by omega)

/-- A creation pays no beneficiary, and writes only the ids that it gives out. -/
theorem creation_ok (h : next tok self (.call env op) s = .ok s') {funder : Address}
    (hcreator : op.creator = some funder) :
    paidFor id s' = paidFor id s ∧
      (¬ op.Numbers s id → s'.schedule.get? id = s.schedule.get? id) := by
  cases op with
  | createSchedule _ token beneficiary amount terms =>
    obtain ⟨r, hr, rfl⟩ := map_ok.mp h
    obtain ⟨-, -, tokens, -, hstored⟩ := createSchedule_ok hr
    rw [hstored]
    exact ⟨storedAll_paidFor (s := { s with tokens, reentrancyLock := false }) _ _ _ _ [(_, _)],
      storedAll_get? (s := { s with tokens, reentrancyLock := false }) _ _ _ _ [(_, _)]⟩
  | createSchedulesBatch funder token beneficiaries amounts terms =>
    obtain ⟨r, hr, rfl⟩ := map_ok.mp h
    obtain ⟨-, -, hlength, tokens, -, hstored⟩ := createSchedulesBatch_ok hr
    have hall : (beneficiaries.zip amounts).length = beneficiaries.length := by
      rw [List.length_zip, ← hlength, min_self]
    rw [hstored, publish, paidFor_append]
    refine ⟨(add_zero _).trans (storedAll_paidFor _ _ _ _ _), fun hid => ?_⟩
    rw [Op.Numbers, Op.creates, ← hall] at hid
    exact storedAll_get? (s := { s with tokens, reentrancyLock := false })
      terms env.timestamp funder token (beneficiaries.zip amounts) hid
  | _ => cases hcreator

/-- What writes one schedule touches this one, or leaves it alone. -/
theorem written_touched {id' : ℕ} {schedule : VestingSchedule} {batch : List Event} (paid : ℤ)
    (hk : s.schedule.get? id = some p) (found : s.schedule.get? id' = some schedule)
    (hbatch : named id (fun id e => e.toBeneficiary id) batch = if id' = id then paid else 0)
    (htouched : id' = id → schedule = p → Touched now op id p q paid) :
    ∃ q' paid, (s.schedule.set id' q).get? id = some q' ∧
      named id (fun id e => e.toBeneficiary id) (s.events ++ batch) = paidFor id s + paid ∧
      Touched now op id p q' paid := by
  rw [named_append, hbatch]
  by_cases he : id' = id
  · subst he
    rw [if_pos rfl]
    exact ⟨q, paid, Store.get?_set_self _ _ _, rfl,
      htouched rfl (Option.some.inj (found.symm.trans hk))⟩
  · rw [if_neg he]
    exact ⟨p, 0, (Store.get?_set_ne _ _ (Ne.symm he)).trans hk, rfl, .kept⟩

/-- An invocation that gives the id to no new schedule does one of these to the schedule. -/
theorem next_touched (h : next tok self (.call env op) s = .ok s')
    (hk : s.schedule.get? id = some p) (hid : ¬ op.Numbers s id) :
    ∃ q paid, s'.schedule.get? id = some q ∧ paidFor id s' = paidFor id s + paid ∧
      Touched env.timestamp op id p q paid := by
  have heffect := next_effect h
  cases heffect with
  | initializeContract _ admin =>
    refine ⟨p, 0, hk, ?_, .kept⟩
    rw [paidFor, named_append]
    rfl
  | creates _ _ funder token terms entries tokens batch creator =>
    obtain ⟨hpaid, hkept⟩ := creation_ok h creator
    exact ⟨p, 0, (hkept hid).trans hk, hpaid.trans (add_zero _).symm, .kept⟩
  | claims _ _ beneficiary s₁ batch claimant claims summary =>
    obtain ⟨q, paid, hq, hpaid, hclaimed⟩ := claims.claimed hk
    have hclaims : op.claims = true := Option.isSome_iff_exists.mpr ⟨_, claimant⟩
    refine ⟨q, paid, hq, ?_, .claimed q paid hclaims hclaimed⟩
    rw [paidFor_append, hpaid]
    rcases summary with rfl | ⟨amount, rfl⟩ <;> exact add_zero _
  | earlyWithdraw _ id' beneficiary schedule payout penalty tokens found owner active penalty_eq
      payout_eq =>
    refine written_touched payout hk found (by simp [named, Event.toBeneficiary]) ?_
    rintro rfl rfl
    rw [penalty_eq] at payout_eq
    exact .closed payout rfl active payout_eq
  | modifySchedule _ admin id' changes schedule start cliff finish allowed penalty retimed found
      active =>
    refine written_touched 0 hk found (ite_self _).symm ?_
    rintro rfl rfl
    exact .altered retimed rfl active
  | increaseScheduleAmount _ funder id' amount schedule tokens positive found owner active =>
    refine written_touched 0 hk found (ite_self _).symm ?_
    rintro rfl rfl
    exact .altered _ rfl active
  | revokeSchedule _ admin id' schedule vested tokens lock found active vested_eq =>
    refine written_touched 0 hk found (ite_self _).symm ?_
    rintro rfl rfl
    subst vested_eq
    exact .revoked rfl active

/-- What leaves a schedule as it is pays nothing for it. -/
theorem Touched.unpaid {paid : ℤ} (h : Touched now op id p q paid) (hsame : q = p) : paid = 0 := by
  cases h with
  | kept => rfl
  | claimed _ _ _ claims =>
    cases claims with
    | nothing => rfl
    | paid active due =>
      have hclaimed : p.vestedAt now = p.claimedAmount :=
        congrArg VestingSchedule.claimedAmount hsame
      omega
  | closed _ _ active =>
    have hclosed : false = p.active := congrArg VestingSchedule.active hsame
    rw [active] at hclosed
    cases hclosed
  | revoked => rfl
  | altered => rfl

/-- The invocation is of a kind, or it leaves the schedule as it is. -/
def Action.OnlyBy (kind : Op → Bool) (tok : Token τ) (self : Address) (id : ℕ) (s : State τ) :
    Action τ → Prop
  | .call env op => kind op = true ∨ ∀ s', next tok self (.call env op) s = .ok s' →
      s'.schedule.get? id = s.schedule.get? id
  | .transfers _ => True

theorem Action.OnlyBy.touched {kind : Op → Bool} (hkind : ∀ op, kind op = true → op.creates = 0)
    (ha : (Action.call env op).OnlyBy kind tok self id s)
    (h : next tok self (.call env op) s = .ok s') (hk : s.schedule.get? id = some p) :
    ∃ q paid, s'.schedule.get? id = some q ∧ paidFor id s' = paidFor id s + paid ∧
      (q = p ∧ paid = 0 ∨ kind op = true ∧ Touched env.timestamp op id p q paid) := by
  by_cases hid : op.Numbers s id
  · -- A new schedule under this id that is the old one.
    have hcreates : 0 < op.creates := by
      have := hid.1
      have := hid.2
      omega
    have hcreator : ∃ funder, op.creator = some funder := by
      cases op <;> first | exact ⟨_, rfl⟩ | exact absurd hcreates (lt_irrefl 0)
    obtain ⟨funder, hcreator⟩ := hcreator
    have hleaves := ha.resolve_left fun hop => absurd (hkind op hop) hcreates.ne'
    exact ⟨p, 0, (hleaves s' h).trans hk, (creation_ok h hcreator).1.trans (add_zero _).symm,
      .inl ⟨rfl, rfl⟩⟩
  · obtain ⟨q, paid, hq, hpaid, htouched⟩ := next_touched h hk hid
    refine ⟨q, paid, hq, hpaid, ?_⟩
    rcases ha with hop | hleaves
    · exact .inr ⟨hop, htouched⟩
    · have hsame : q = p := Option.some.inj (hq.symm.trans ((hleaves s' h).trans hk))
      exact .inl ⟨hsame, htouched.unpaid hsame⟩

/-- The schedule is there, and the invocation does not write it in this way nor create a
schedule under its id. -/
def Action.Beside (writes : Op → Option ℕ) (id : ℕ) (s : State τ) : Action τ → Prop
  | .call _ op => (s.schedule.get? id).isSome = true ∧ writes op ≠ some id ∧ ¬ op.Numbers s id
  | .transfers _ => True

instance (writes : Op → Option ℕ) (id : ℕ) (s : State τ) (a : Action τ) :
    Decidable (a.Beside writes id s) :=
  match a with
  | .call _ _ => inferInstanceAs (Decidable (_ ∧ _ ∧ ¬ (_ ∧ _)))
  | .transfers _ => inferInstanceAs (Decidable True)

/-- Such invocations leave the schedule as it is, unless they are of the kind. -/
theorem Action.Beside.onlyBy {writes : Op → Option ℕ} {kind : Op → Bool}
    (ha : a.Beside writes id s) (hclaims : ∀ op, op.claims = true → kind op = true)
    (hrewrites : ∀ op, op.rewrites = some id → kind op = true ∨ writes op = some id) :
    a.OnlyBy kind tok self id s := by
  cases a with
  | transfers => trivial
  | call env op =>
    obtain ⟨hsome, hwrites, hid⟩ := ha
    obtain ⟨p, hk⟩ := Option.isSome_iff_exists.mp hsome
    by_cases hop : kind op = true
    · exact .inl hop
    · have hnone : op.rewrites ≠ some id := fun h => ((hrewrites op h).elim hop hwrites)
      refine .inr fun s' h => ?_
      obtain ⟨q, paid, hq, -, htouched⟩ := next_touched h hk hid
      rw [hq, hk]
      cases htouched with
      | kept => rfl
      | claimed _ _ by_claim => exact absurd (hclaims op by_claim) hop
      | closed _ rewrites => exact absurd rewrites hnone
      | revoked rewrites => exact absurd rewrites hnone
      | altered _ alters => exact absurd (Op.rewrites_of_alters alters) hnone

/-- Every schedule is sound at a time. -/
def AllSound (now : ℕ) (s : State τ) : Prop :=
  ∀ id schedule, s.schedule.get? id = some schedule → schedule.Sound now

theorem AllSound.later (h : AllSound now s) {now' : ℕ} (hle : now ≤ now') : AllSound now' s :=
  fun id schedule hk => (h id schedule hk).later hle

theorem AllSound.storedAll (h : AllSound now s) {terms : Terms} (hvalid : terms.Valid)
    {entries : List (Address × ℤ)} (hpos : ∀ e ∈ entries, 0 < e.2) (time : ℕ)
    (funder token : Address) : AllSound now (storedAll terms time funder token entries s) := by
  induction entries generalizing s with
  | nil => exact h
  | cons e rest ih =>
    obtain ⟨hhead, htail⟩ := List.forall_mem_cons.mp hpos
    exact ih (Store.forall_set h (opened_sound hvalid hhead _ _ _ _ _)) htail

theorem Claims.allSound {beneficiary : Address} (h : Claims tok self now beneficiary s s')
    (hs : AllSound now s) : AllSound now s' := by
  induction h with
  | refl => exact hs
  | tail _ hstep ih =>
    cases hstep with
    | mk id schedule tokens found =>
      exact Store.forall_set ih (paidUpTo_sound (ih id schedule found))

theorem allSound_call (hs : AllSound env.timestamp s)
    (h : Effect tok self s (.call env op) s') : AllSound env.timestamp s' := by
  cases h with
  | initializeContract => exact hs
  | creates _ _ funder token terms entries tokens batch creator valid positive =>
    exact AllSound.storedAll (s := { s with tokens, reentrancyLock := false }) hs valid positive
      env.timestamp funder token
  | claims _ _ beneficiary s₁ batch claimant claims => exact claims.allSound hs
  | earlyWithdraw _ id _ schedule _ _ _ found =>
    exact Store.forall_set hs (closed_sound (hs id schedule found))
  | modifySchedule _ _ id _ schedule _ _ _ _ _ retimed found _ ordered bounded retimed_eq kept =>
    exact Store.forall_set hs (retimed_sound (hs id schedule found) ordered bounded retimed_eq kept)
  | increaseScheduleAmount _ _ id amount schedule _ positive found =>
    exact Store.forall_set hs (toppedUp_sound (hs id schedule found) positive)
  | revokeSchedule _ _ id schedule vested _ _ found active vested_eq =>
    have hsound := hs id schedule found
    exact Store.forall_set hs (revoked_sound hsound vested_eq (hsound.vested active))

theorem allSound_step {log : List (State τ × Action τ)} (htime : OnTime Action.time log a)
    (hs : AllSound (clock Action.time log) s) (h : next tok self a s = .ok s') :
    AllSound (clock Action.time ((s, a) :: log)) s' := by
  have hlater := hs.later (htime.clock_le s)
  have heffect := next_effect h
  cases a with
  | call env op => exact allSound_call hlater heffect
  | transfers tokens =>
    cases heffect
    exact hlater

/-- In every run whose times do not go back, every schedule is sound. -/
theorem history_allSound {tokens : τ} {log : List (State τ × Action τ)}
    (hrun : History (next tok self) (fun log _ a => OnTime Action.time log a) (deployed tokens)
      log s) : AllSound (clock Action.time log) s := by
  refine hrun.preserves (P := fun log s => AllSound (clock Action.time log) s)
    (fun _ _ hk => (by cases hk)) ?_
  intro log s a s' htime hn hs
  exact allSound_step htime hs hn

/-- A law of one schedule, and of what was paid for it since some state, that invocations of
a kind keep. -/
structure KeptBy (kind : Op → Bool) (id : ℕ) (law : ℕ → ℤ → VestingSchedule → Prop) : Prop where
  creates : ∀ op, kind op = true → op.creates = 0
  later : ∀ {now now' paid q}, now ≤ now' → law now paid q → law now' paid q
  touched : ∀ {now op q q' paid more}, kind op = true → q.Sound now →
    Touched now op id q q' more → law now paid q → law now (paid + more) q'

section Laws

variable {kind : Op → Bool} {law : ℕ → ℤ → VestingSchedule → Prop} {paid : ℤ}
  {log old : List (State τ × Action τ)} {s₀ : State τ}

theorem KeptBy.step (hkept : KeptBy kind id law) (htime : OnTime Action.time log a)
    (ha : a.OnlyBy kind tok self id s) (hn : next tok self a s = .ok s')
    (hs : AllSound (clock Action.time log) s) (hk : s.schedule.get? id = some q)
    (h : law (clock Action.time log) paid q) :
    ∃ q', s'.schedule.get? id = some q' ∧
      law (clock Action.time ((s, a) :: log)) (paid + (paidFor id s' - paidFor id s)) q' := by
  have hclock := htime.clock_le s
  have hlater := hkept.later hclock h
  have hsound := (hs id q hk).later hclock
  cases a with
  | transfers tokens =>
    cases hn
    refine ⟨q, hk, ?_⟩
    rw [show paidFor id { s with tokens } = paidFor id s from rfl, sub_self, add_zero]
    exact hlater
  | call env op =>
    obtain ⟨q', more, hk', hpaid, htouched⟩ := ha.touched hkept.creates hn hk
    refine ⟨q', hk', ?_⟩
    rw [hpaid, add_sub_cancel_left]
    rcases htouched with ⟨rfl, rfl⟩ | ⟨hop, htouched⟩
    · rw [add_zero]
      exact hlater
    · exact hkept.touched hop hsound htouched hlater

/-- The law holds after every run in which nothing else writes the schedule. -/
theorem KeptBy.history (hkept : KeptBy kind id law) (hs₀ : AllSound (clock Action.time old) s₀)
    (hk : s₀.schedule.get? id = some p) (hstart : law (clock Action.time old) 0 p)
    (hrun : History (next tok self)
      (fun log s a => OnTime Action.time (log ++ old) a ∧ a.OnlyBy kind tok self id s) s₀ log s) :
    AllSound (clock Action.time (log ++ old)) s ∧
      ∃ q, s.schedule.get? id = some q ∧
        law (clock Action.time (log ++ old)) (paidFor id s - paidFor id s₀) q := by
  refine hrun.preserves (P := fun log s => AllSound (clock Action.time (log ++ old)) s ∧
    ∃ q, s.schedule.get? id = some q ∧
      law (clock Action.time (log ++ old)) (paidFor id s - paidFor id s₀) q) ?_ ?_
  · refine ⟨hs₀, p, hk, ?_⟩
    rw [sub_self]
    exact hstart
  · rintro log s a s' ⟨htime, ha⟩ hn ⟨hs, q, hq, h⟩
    obtain ⟨q', hq', h'⟩ := hkept.step htime ha hn hs hq h
    rw [add_comm, sub_add_sub_cancel] at h'
    exact ⟨allSound_step htime hs hn, q', hq', h'⟩

end Laws

end TokenVesting
