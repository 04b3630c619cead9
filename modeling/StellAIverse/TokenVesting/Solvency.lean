import StellAIverse.TokenVesting.Schedules

/-!
# Solvency

The account has what the active schedules still have to pay: no call takes out more
than it writes off. This holds in every run, also where a new schedule is stored over
an old one, which only leaves more in the account.
-/

namespace TokenVesting

open Soroban

variable {τ : Type} {tok : Token τ} {self : Address} {s s' : State τ} {a : Action τ} {env : Env}
  {op : Op} {now id : ℕ} {p q : VestingSchedule}

/-- The account has what the active schedules still have to pay. -/
def Solvent (tok : Token τ) (holder : Address) (s : State τ) : Prop :=
  ∀ t, outstanding s.schedule t ≤ tok.balance s.tokens t holder

theorem VestingSchedule.Sound.due_nonneg (h : p.Sound now) : 0 ≤ p.due := by
  have := h.within
  unfold VestingSchedule.due
  split <;> omega

/-- A schedule has no more to pay than all of them. -/
theorem due_le_outstanding (hs : AllSound now s) (hk : s.schedule.get? id = some p) :
    p.due ≤ outstanding s.schedule p.token := by
  have hweight : s.schedule.weight
      (fun _ schedule => if schedule.token = p.token then schedule.due else 0) id = p.due := by
    rw [Store.weight_some hk, if_pos rfl]
  rw [← hweight]
  refine Store.weight_le_total id fun id' q hq => ?_
  split
  · exact (hs id' q hq).due_nonneg
  · exact le_rfl

/-- A schedule written again: the account moves at least as much as what is due. -/
theorem Solvent.rewrite (h : Solvent tok self s) {tokens : τ} (moved : ℤ)
    (hk : s.schedule.get? id = some p) (hsame : q.token = p.token) (hdue : q.due = p.due + moved)
    (hbalance : ∀ t, tok.balance s.tokens t self + (if t = p.token then moved else 0) ≤
      tok.balance tokens t self) (t : Address) :
    outstanding (s.schedule.set id q) t ≤ tok.balance tokens t self := by
  have hbefore := h t
  have hafter := hbalance t
  rw [outstanding_set hk hsame hdue]
  omega

/-- New schedules add their amounts, less what was due where they are stored. -/
theorem outstanding_storedAll {terms : Terms} (hvalid : terms.Valid)
    {entries : List (Address × ℤ)} (hpos : ∀ e ∈ entries, 0 < e.2) (time : ℕ)
    (funder token : Address) (hs : AllSound now s) (t : Address) :
    outstanding (storedAll terms time funder token entries s).schedule t ≤
      outstanding s.schedule t + if t = token then (entries.map Prod.snd).sum else 0 := by
  induction entries generalizing s with
  | nil => simp [storedAll]
  | cons e rest ih =>
    obtain ⟨hhead, htail⟩ := List.forall_mem_cons.mp hpos
    have hnext : AllSound now (stored terms time funder token s e.1 e.2) :=
      Store.forall_set hs (opened_sound hvalid hhead _ _ _ _ _)
    have hrest := ih htail hnext
    have hold : 0 ≤ s.schedule.weight
        (fun _ schedule => if schedule.token = t then schedule.due else 0)
        (s.scheduleCounter + 1) := by
      cases hk : s.schedule.get? (s.scheduleCounter + 1) with
      | none => rw [Store.weight_none hk]
      | some p =>
        rw [Store.weight_some hk]
        split
        · exact (hs _ p hk).due_nonneg
        · exact le_rfl
    have hone : outstanding (stored terms time funder token s e.1 e.2).schedule t ≤
        outstanding s.schedule t + if t = token then e.2 else 0 := by
      have hnew : (if (terms.opened time (s.scheduleCounter + 1) funder token e.1 e.2).token = t
          then (terms.opened time (s.scheduleCounter + 1) funder token e.1 e.2).due else 0) =
          if t = token then e.2 else 0 := by
        rw [opened_due]
        exact if_congr eq_comm rfl rfl
      simp only [outstanding, stored]
      rw [Store.total_set, hnew]
      omega
    rw [storedAll, List.map_cons, List.sum_cons]
    refine hrest.trans ?_
    by_cases ht : t = token
    · rw [if_pos ht] at hone ⊢
      rw [if_pos ht]
      omega
    · rw [if_neg ht] at hone ⊢
      rw [if_neg ht]
      omega

theorem storedAll_rest (terms : Terms) (time : ℕ) (funder token : Address)
    (entries : List (Address × ℤ)) :
    (storedAll terms time funder token entries s).tokens = s.tokens ∧
      (storedAll terms time funder token entries s).reentrancyLock = s.reentrancyLock := by
  induction entries generalizing s with
  | nil => exact ⟨rfl, rfl⟩
  | cons e rest ih => exact ih

theorem Claims.solvent {beneficiary : Address} (hex : tok.Exact)
    (h : Claims tok self now beneficiary s s') (hs : AllSound now s)
    (hsolvent : Solvent tok self s) :
    Solvent tok self s' := by
  suffices hboth : AllSound now s' ∧ Solvent tok self s' from hboth.2
  induction h with
  | refl => exact ⟨hs, hsolvent⟩
  | tail _ hstep ih =>
    obtain ⟨hs, hsolvent⟩ := ih
    refine ⟨Claims.allSound (.single hstep) hs, ?_⟩
    cases hstep with
    | mk id schedule tokens found owner active due paid =>
      have hsound := hs id schedule found
      have hle := (vestedAt_bounds hsound.ordered (hsound.claimed.trans hsound.within) now).2
      refine hsolvent.rewrite _ found rfl (paidUpTo_due active hle) fun t => ?_
      have hout := hex.debit paid t
      split <;> rename_i ht <;> simp only [ht, if_true, if_false] at hout ⊢ <;> omega

theorem solvent_call (hex : tok.Exact) (ho : self ∉ op.parties) (hs : AllSound env.timestamp s)
    (hsolvent : Solvent tok self s) (h : Effect tok self s (.call env op) s') :
    Solvent tok self s' := by
  cases h with
  | initializeContract => exact hsolvent
  | creates _ _ funder token terms entries tokens batch creator valid positive paid =>
    have hfunder : funder ≠ self := by
      rintro rfl
      cases op <;> cases creator <;> exact ho (by simp [Op.parties])
    intro t
    have hmore := outstanding_storedAll (s := { s with tokens, reentrancyLock := false }) valid
      positive env.timestamp funder token hs t
    have hstored : (storedAll terms env.timestamp funder token entries
        { s with tokens, reentrancyLock := false }).tokens = tokens :=
      (storedAll_rest _ _ _ _ _).1
    have hbefore := hsolvent t
    simp only [hstored] at hmore ⊢
    rw [hex.credit paid hfunder t]
    omega
  | claims _ _ beneficiary s₁ batch claimant claims =>
    have hafter : Solvent tok self s₁ := claims.solvent hex hs hsolvent
    exact hafter
  | earlyWithdraw _ id beneficiary schedule payout penalty tokens found owner active penalty_eq
      payout_eq paid =>
    have hsound := hs id schedule found
    have hle := (vestedAt_bounds hsound.ordered (hsound.claimed.trans hsound.within)
      env.timestamp).2
    have hkept := hsound.vested active
    obtain ⟨hpart, hrest⟩ := penaltyOf_bounds (sub_nonneg.mpr hle) hsound.penalty
    rw [← penalty_eq] at hpart hrest
    rw [max_eq_left (by omega)] at payout_eq
    have hdue : schedule.due = schedule.totalAmount - schedule.claimedAmount := if_pos active
    refine hsolvent.rewrite (-(payout + penalty)) found rfl ?_ fun t => ?_
    · rw [closed_due, hdue]
      omega
    · rw [hex.settle paid t self, netFlow_append]
      have hout₁ : (-if t = schedule.token then max payout 0 else 0) ≤
          netFlow t self (leg schedule.token self beneficiary payout) := leg_out_ge
      have hout₂ : (-if t = schedule.token then max penalty 0 else 0) ≤
          netFlow t self (leg schedule.token self schedule.funder penalty) := leg_out_ge
      split <;> rename_i ht <;> simp only [ht, if_true, if_false] at hout₁ hout₂ ⊢ <;> omega
  | modifySchedule _ admin id changes schedule start cliff finish allowed penalty retimed found
      active ordered bounded retimed_eq =>
    refine hsolvent.rewrite 0 found (by rw [retimed_eq]) ?_ fun t => ?_
    · rw [retimed_eq, add_zero]
      rfl
    · rw [ite_self, add_zero]
  | increaseScheduleAmount _ funder id amount schedule tokens positive found owner active paid =>
    refine hsolvent.rewrite _ found rfl (toppedUp_due active amount) fun t => ?_
    exact (hex.credit paid (notSelf ho) t).ge
  | revokeSchedule _ admin id schedule vested tokens lock found active vested_eq paid =>
    have hsound := hs id schedule found
    have hle := (vestedAt_bounds hsound.ordered (hsound.claimed.trans hsound.within)
      env.timestamp).2
    have hkept := hsound.vested active
    rw [← vested_eq] at hle hkept
    refine hsolvent.rewrite _ found rfl (revoked_due active hkept) fun t => ?_
    rw [hex.settle paid t self]
    have hout : (-if t = schedule.token then max (schedule.totalAmount - vested) 0 else 0) ≤
        netFlow t self (leg schedule.token self schedule.funder (schedule.totalAmount - vested)) :=
      leg_out_ge
    rw [max_eq_left (by omega)] at hout
    split <;> rename_i ht <;> simp only [ht, if_true, if_false] at hout ⊢ <;> omega

theorem solvent_step (hex : tok.Exact) {log : List (State τ × Action τ)}
    (htime : OnTime Action.time log a) (ho : a.Outside tok self s)
    (hs : AllSound (clock Action.time log) s) (hsolvent : Solvent tok self s)
    (h : next tok self a s = .ok s') : Solvent tok self s' := by
  have hlater := hs.later (htime.clock_le s)
  have heffect := next_effect h
  cases a with
  | call env op => exact solvent_call hex ho hlater hsolvent heffect
  | transfers tokens =>
    cases heffect
    exact fun t => (hsolvent t).trans (ho t)

variable {ok : List (State τ × Action τ) → State τ → Action τ → Prop} {s₀ : State τ}
  {log : List (State τ × Action τ)}

theorem solvent_history (hex : tok.Exact) (old : List (State τ × Action τ))
    (hs₀ : AllSound (clock Action.time old) s₀)
    (hsolvent : Solvent tok self s₀) (hrun : History (next tok self) ok s₀ log s)
    (htime : ∀ log s a, ok log s a → OnTime Action.time (log ++ old) a)
    (ho : ∀ e ∈ log, e.2.Outside tok self e.1) : Solvent tok self s := by
  have hboth : AllSound (clock Action.time (log ++ old)) s ∧
      ((∀ e ∈ log, e.2.Outside tok self e.1) → Solvent tok self s) := by
    refine hrun.preserves (P := fun log s => AllSound (clock Action.time (log ++ old)) s ∧
      ((∀ e ∈ log, e.2.Outside tok self e.1) → Solvent tok self s)) ⟨hs₀, fun _ => hsolvent⟩ ?_
    rintro log s a s' ha hn ⟨hs, hbefore⟩
    refine ⟨allSound_step (htime log s a ha) hs hn, fun ho => ?_⟩
    obtain ⟨hlast, hothers⟩ := List.forall_mem_cons.mp ho
    exact solvent_step hex (htime log s a ha) hlast hs (hbefore hothers) hn
  exact hboth.2 ho

theorem solvent_deployed (hex : tok.Exact) {tokens : τ}
    (hrun : History (next tok self) (fun log _ a => OnTime Action.time log a) (deployed tokens)
      log s)
    (ho : ∀ e ∈ log, e.2.Outside tok self e.1) : Solvent tok self s := by
  refine solvent_history hex [] (fun _ _ hk => (by cases hk)) (fun t => ?_) hrun
    (fun log s a ha => ?_) ho
  · have hnone : outstanding (deployed tokens).schedule t = 0 := by
      simp [outstanding, deployed, Store.total, Store.empty]
    rw [hnone]
    exact hex.nonneg tokens t self
  · rw [List.append_nil]
    exact ha

end TokenVesting
