import StellAIverse.Governance.Effects

/-!
# The ledger of delegations

What is delegated to an account is kept as a sum beside the records it is the sum
of. A delegation asks that the balance covers the amount, which a negative amount
always is; as long as none is delegated, delegations only ever add to somebody's
voting power.
-/

namespace Governance

open Soroban

variable {τ : Type} {tok : Token τ} {self : Address} {s s' : State τ} {a : Action τ}
  {log : List (State τ × Action τ)} {env : Ledger}

/-- The amounts of the records that name the delegatee. -/
def delegatedTo (delegatee : Address) (s : State τ) : ℤ :=
  s.delegation.total fun _ record => if record.delegatee = delegatee then record.amount else 0

/-- The sum kept for each account is that of the records. -/
def Booked (s : State τ) : Prop := ∀ d, s.delegatedPower.amount d = delegatedTo d s

theorem booked_step (h : Booked s) (heffect : Effect tok self s a s') : Booked s' := by
  cases heffect with
  | delegate env delegator delegatee amount balance new =>
    intro d
    have hd := h d
    unfold delegatedTo at hd ⊢
    rw [Store.amount_set_add, Store.total_set, Store.weight_none new, hd, add_sub_cancel_left,
      sub_zero]
  | revokeDelegation env delegator delegation found =>
    intro d
    have hd := h d
    unfold delegatedTo at hd ⊢
    rw [Store.amount_set_add, Store.total_remove, Store.weight_some found, hd]
    by_cases hdelegatee : delegation.delegatee = d
    · rw [if_pos hdelegatee, if_pos hdelegatee]
      ring
    · rw [if_neg hdelegatee, if_neg hdelegatee]
      ring
  | _ => exact h

/-- A lock is of a positive amount. -/
def Locked (s : State τ) : Prop := ∀ who lock, s.veLock.get? who = some lock → 0 < lock.amount

theorem locked_step (h : Locked s) (heffect : Effect tok self s a s') : Locked s' := by
  cases heffect with
  | lockTokens env account amount lockDuration opened positive =>
    exact Store.forall_set h positive
  | withdrawTokens env account lock found =>
    intro who lock' hfound
    simp only [Store.get?_remove] at hfound
    split at hfound
    · cases hfound
    · exact h who lock' hfound
  | _ => exact h

theorem calculateVeBalance_nonneg (h : Locked s) {account : Address} {veBalance : ℤ}
    (hve : calculateVeBalance env account s = .ok veBalance) : 0 ≤ veBalance := by
  unfold calculateVeBalance at hve
  split at hve
  · cases hve
    exact le_refl _
  · rename_i lock hfound
    split at hve
    · cases hve
      exact le_refl _
    · obtain ⟨-, hve⟩ := U64.sub_bind.mp hve
      obtain ⟨-, hve⟩ := U64.sub_bind.mp hve
      split at hve
      · cases hve
        exact le_refl _
      · obtain ⟨-, hve⟩ := I128.mul_bind.mp hve
        obtain ⟨-, -, rfl⟩ := I128.div_ok.mp hve
        have hamount := h account lock hfound
        exact Int.tdiv_nonneg (mul_nonneg hamount.le (Int.natCast_nonneg _)) (Int.natCast_nonneg _)

theorem getVotingPower_ok {account : Address} {power : ℤ}
    (h : getVotingPower tok env account s = .ok power) :
    ∃ token veBalance, s.votingToken = some token ∧
      calculateVeBalance env account s = .ok veBalance ∧
      power = tok.balance s.tokens token account + veBalance + getDelegatedPower account s := by
  unfold getVotingPower at h
  obtain ⟨balance, hbalance, h⟩ := bind_ok.mp h
  obtain ⟨token, htoken, rfl⟩ := getTokenBalance_ok.mp hbalance
  obtain ⟨veBalance, hve, h⟩ := bind_ok.mp h
  obtain ⟨-, h⟩ := safeAdd_bind.mp h
  obtain ⟨-, rfl⟩ := I128.checked_ok.mp h
  exact ⟨token, veBalance, htoken, hve, rfl⟩

def Delegates (delegator delegatee : Address) (amount : ℤ) (e : State τ × Action τ) : Prop :=
  ∃ env, e.2 = .call env (.delegate delegator delegatee amount)

def Revokes (delegator : Address) (e : State τ × Action τ) : Prop :=
  ∃ env, e.2 = .call env (.revokeDelegation delegator)

/-- Each record is that of a delegation that was not revoked since. -/
def Traced (log : List (State τ × Action τ)) (s : State τ) : Prop :=
  ∀ who record, s.delegation.get? who = some record →
    Since (Delegates who record.delegatee record.amount) (Revokes who) log

theorem traced_step (h : Traced log s) (heffect : Effect tok self s a s') :
    Traced ((s, a) :: log) s' := by
  have hkept (hquiet : ∀ who, ¬ Revokes who (s, a)) (who : Address) (record : Delegation)
      (hfound : s.delegation.get? who = some record) :
      Since (Delegates who record.delegatee record.amount) (Revokes who) ((s, a) :: log) :=
    (h who record hfound).later (hquiet who)
  cases heffect with
  | delegate env delegator delegatee amount balance new =>
    refine Store.forall_set (hkept ?_) (.now ⟨env, rfl⟩)
    rintro who ⟨env', ⟨⟩⟩
  | revokeDelegation env delegator delegation found =>
    intro who record hfound
    simp only [Store.get?_remove] at hfound
    split at hfound
    · cases hfound
    · rename_i hother
      refine (h who record hfound).later ?_
      rintro ⟨env', heq⟩
      cases heq
      exact hother rfl
  | _ =>
    refine hkept ?_
    rintro who ⟨env', ⟨⟩⟩

/-- No negative amount is delegated. -/
def Action.DelegatesNonneg : Action τ → Prop
  | .call _ (.delegate _ _ amount) => 0 ≤ amount
  | _ => True

def NonnegRecords (s : State τ) : Prop :=
  ∀ who record, s.delegation.get? who = some record → 0 ≤ record.amount

theorem nonnegRecords_step (h : NonnegRecords s) (hnonneg : a.DelegatesNonneg)
    (heffect : Effect tok self s a s') : NonnegRecords s' := by
  cases heffect with
  | delegate env delegator delegatee amount balance new => exact Store.forall_set h hnonneg
  | revokeDelegation env delegator delegation found =>
    intro who record hfound
    simp only [Store.get?_remove] at hfound
    split at hfound
    · cases hfound
    · exact h who record hfound
  | _ => exact h

theorem delegatedTo_nonneg (h : NonnegRecords s) (d : Address) : 0 ≤ delegatedTo d s := by
  apply Store.total_nonneg
  intro who record hfound
  have hamount := h who record hfound
  split
  · exact hamount
  · exact le_refl _

theorem history_booked {ok : List (State τ × Action τ) → State τ → Action τ → Prop} {start : τ}
    (hrun : History (next tok self) ok (deployed start) log s) : Booked s :=
  hrun.preserves (P := fun _ s => Booked s) (fun _ => rfl)
    fun _ _ _ _ _ hn h => booked_step h (next_effect hn)

theorem history_traced {ok : List (State τ × Action τ) → State τ → Action τ → Prop} {start : τ}
    (hrun : History (next tok self) ok (deployed start) log s) : Locked s ∧ Traced log s := by
  refine hrun.preserves (P := fun log s => Locked s ∧ Traced log s) ⟨?_, ?_⟩ ?_
  · exact fun _ _ hfound => (by cases hfound)
  · exact fun _ _ hfound => (by cases hfound)
  · rintro log s a s' - hn ⟨hlocked, htraced⟩
    have heffect := next_effect hn
    exact ⟨locked_step hlocked heffect, traced_step htraced heffect⟩

/-- In every run that delegates no negative amount, the power delegated to an account is the sum
of the records that name it, none of them negative, so that voting power is at least the balance.
A revocation takes away what the delegation it ends had added. -/
theorem delegation_ledger {start : τ}
    (hrun : History (next tok self) (fun _ _ a => a.DelegatesNonneg) (deployed start) log s) :
    (∀ d, getDelegatedPower d s = delegatedTo d s) ∧
    (∀ who record, s.delegation.get? who = some record → 0 ≤ record.amount) ∧
    (∀ d, 0 ≤ getDelegatedPower d s) ∧
    (∀ env account power, getVotingPower tok env account s = .ok power →
      ∃ balance, getTokenBalance tok account s = .ok balance ∧ balance ≤ power) ∧
    (∀ env delegator delegatee amount s',
      next tok self (.call env (.delegate delegator delegatee amount)) s = .ok s' →
      ∀ d, getDelegatedPower d s' = getDelegatedPower d s + if delegatee = d then amount else 0) ∧
    (∀ env delegator s', next tok self (.call env (.revokeDelegation delegator)) s = .ok s' →
      ∃ delegatee amount, Since (Delegates delegator delegatee amount) (Revokes delegator) log ∧
        ∀ d, getDelegatedPower d s' =
          getDelegatedPower d s - if delegatee = d then amount else 0) := by
  have hbooked := history_booked hrun
  obtain ⟨hlocked, htraced⟩ := history_traced hrun
  have hrecords : NonnegRecords s := by
    refine hrun.preserves (P := fun _ s => NonnegRecords s) (fun _ _ hfound => (by cases hfound)) ?_
    exact fun log s a s' hnonneg hn h => nonnegRecords_step h hnonneg (next_effect hn)
  have hpower : ∀ d, 0 ≤ getDelegatedPower d s := fun d =>
    (delegatedTo_nonneg hrecords d).trans_eq (hbooked d).symm
  refine ⟨hbooked, hrecords, hpower, ?_, ?_, ?_⟩
  · intro env account power h
    obtain ⟨token, veBalance, htoken, hve, rfl⟩ := getVotingPower_ok h
    have hve := calculateVeBalance_nonneg hlocked hve
    have hdelegated := hpower account
    refine ⟨_, getTokenBalance_ok.mpr ⟨token, htoken, rfl⟩, ?_⟩
    linarith
  · intro env delegator delegatee amount s' h d
    cases next_effect h with
    | delegate =>
      unfold getDelegatedPower
      rw [Store.amount_set_add, add_sub_cancel_left]
  · intro env delegator s' h
    cases next_effect h with
    | revokeDelegation _ _ record found =>
      refine ⟨record.delegatee, record.amount, htraced delegator record found, fun d => ?_⟩
      unfold getDelegatedPower
      rw [Store.amount_set_add]
      by_cases hd : record.delegatee = d
      · rw [if_pos hd, if_pos hd]
        ring
      · rw [if_neg hd, if_neg hd]
        ring

namespace Sample

def contract : Address := ⟨0⟩

def admin : Address := ⟨1⟩

def vote : Address := ⟨2⟩

def alice : Address := ⟨3⟩

def bob : Address := ⟨4⟩

def carol : Address := ⟨5⟩

/-- Everybody authorises, and a ledger closes every second. -/
def ledger (n : ℕ) : Ledger := ⟨⟨n, fun _ => true⟩, n⟩

/-- A supply of 100. -/
def start : State Balances := deployed (Balances.issue [(vote, alice, 60), (vote, bob, 40)])

/-- Voting starts after one ledger and lasts ten, a fifth of the supply has to vote and
51 percent have to approve. -/
def opening : Op := .initializeContract admin vote ⟨1, 10, 100, 2000, 5100, 10, 100⟩

def draft : Draft := ⟨"raise the fee", [], [], [], []⟩

/-- Invocations, each at its ledger. -/
def calls (ops : List (ℕ × Op)) : List (Action Balances) := ops.map fun e => .call (ledger e.1) e.2

end Sample

section Runs

open Sample

/-- Two delegations to one account, and the first one is revoked. -/
def delegations : List (ℕ × Op) := [
  (0, opening),
  (1, .delegate alice carol 25),
  (2, .delegate bob carol 40),
  (3, .revokeDelegation alice)]

theorem delegation_ledger_delegations :
    ∃ log s, History (next asset contract) (fun _ _ a => a.DelegatesNonneg) start log s ∧
      getDelegatedPower carol s = 40 ∧ delegatedTo carol s = 40 := by
  have h : After (fun h => getDelegatedPower carol h.2 = 40)
      (record (next asset contract) (fun _ _ _ => True) (calls delegations) ([], start)) := by
    decide +kernel
  obtain ⟨⟨log, s⟩, hrec, hpower⟩ := h.exists_ok
  have hamounts : ∀ a ∈ calls delegations, a.DelegatesNonneg := by
    simp [calls, delegations, opening, Action.DelegatesNonneg]
  have hrun : History (next asset contract) (fun _ _ a => a.DelegatesNonneg) start log s :=
    record_history _ (fun a ha _ _ _ => hamounts a ha) .nil hrec
  exact ⟨log, s, hrun, hpower, ((delegation_ledger hrun).1 carol).symm.trans hpower⟩

/-- Carol has nothing and takes the power of others away. -/
def negative : List (ℕ × Op) := [
  (0, opening),
  (1, .delegate carol alice (-50))]

theorem negative_delegation :
    ¬ ∀ (log : List (State Balances × Action Balances)) (s : State Balances),
      History (next asset contract) (fun _ _ _ => True) start log s →
      (∀ d, 0 ≤ getDelegatedPower d s) ∧
      ∀ env account power, getVotingPower asset env account s = .ok power →
        ∃ balance, getTokenBalance asset account s = .ok balance ∧ balance ≤ power := by
  have h : After (fun h => getDelegatedPower alice h.2 = -50)
      (record (next asset contract) (fun _ _ _ => True) (calls negative) ([], start)) := by
    decide +kernel
  obtain ⟨⟨log, s⟩, hrec, hpower⟩ := h.exists_ok
  have hrun : History (next asset contract) (fun _ _ _ => True) start log s :=
    record_history _ (fun _ _ _ _ _ => trivial) .nil hrec
  intro hall
  have hle := (hall log s hrun).1 alice
  rw [hpower] at hle
  exact absurd hle (by decide)

end Runs

end Governance
