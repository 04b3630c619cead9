import StellAIverse.InsuranceProtocol.Effects
import StellAIverse.Soroban.History

/-!
# Shares of a pool

Shares are minted and burned in the pool and in the record of an underwriter
together, so a pool has as many as its underwriters hold.
-/

namespace InsuranceProtocol

open Soroban

variable {τ : Type} {tok : Token τ} {self : Address} {s s' : State τ} {a : Action τ}
  {entry : Option Entry} {poolId : Symbol} {address : Address} {pool pool' : InsurancePool}

/-- Shares as the pool counts them. -/
def sharesOf (s : State τ) (id : Symbol) : ℤ := s.pool.weight (fun _ pool => pool.totalShares) id

/-- Shares of the pool that its underwriters hold. -/
def sharesHeld (s : State τ) (id : Symbol) : ℤ :=
  s.underwriter.total fun key uw => if key.1 = id then uw.shares else 0

structure ShareLedger (s : State τ) : Prop where
  total : ∀ id, sharesOf s id = sharesHeld s id
  nonneg : ∀ key uw, s.underwriter.get? key = some uw → 0 ≤ uw.shares

theorem weight_shares (s : State τ) (poolId id : Symbol) (address : Address) :
    s.underwriter.weight (fun key uw => if key.1 = id then uw.shares else 0) (poolId, address) =
      if poolId = id then (loadUnderwriter s poolId address).shares else 0 := by
  unfold loadUnderwriter Store.weight
  cases s.underwriter.get? (poolId, address) <;> simp

theorem ShareLedger.held_nonneg (h : ShareLedger s) (poolId : Symbol) (address : Address) :
    0 ≤ (loadUnderwriter s poolId address).shares := by
  unfold loadUnderwriter
  cases hk : s.underwriter.get? (poolId, address) with
  | none => exact le_rfl
  | some uw => exact h.nonneg _ uw hk

/-- Nobody holds more than there are. -/
theorem ShareLedger.held_le (h : ShareLedger s) (hfound : s.pool.get? poolId = some pool)
    (address : Address) : (loadUnderwriter s poolId address).shares ≤ pool.totalShares := by
  have hle := Store.weight_le_total (poolId, address) (s := s.underwriter)
    (w := fun key uw => if key.1 = poolId then uw.shares else 0) (by
      intro key uw hk
      have := h.nonneg key uw hk
      split <;> omega)
  rw [weight_shares, if_pos rfl] at hle
  have htotal := h.total poolId
  unfold sharesOf at htotal
  rw [Store.weight_some hfound] at htotal
  rw [htotal]
  exact hle

theorem sharesFor_nonneg {amount shares : ℤ} (hpositive : 0 < amount)
    (h : sharesFor pool amount = .ok shares) : 0 ≤ shares := by
  unfold sharesFor at h
  split at h
  · cases h
    exact hpositive.le
  · rename_i hbacked
    obtain ⟨-, h⟩ := I128.checked_bind.mp h
    obtain ⟨-, -, rfl⟩ := I128.div_ok.mp h
    rw [not_or, not_le, not_le] at hbacked
    exact Int.tdiv_nonneg (mul_nonneg hpositive.le hbacked.1.le) hbacked.2.le

/-- No shares are minted or burned. -/
theorem ShareLedger.keep (h : ShareLedger s) (hpool : ∀ id, sharesOf s' id = sharesOf s id)
    (hunderwriter : s'.underwriter = s.underwriter) : ShareLedger s' where
  total id := by
    rw [hpool id, h.total id]
    unfold sharesHeld
    rw [hunderwriter]
  nonneg := by
    rw [hunderwriter]
    exact h.nonneg

theorem sharesOf_write {d : ℤ} (hfound : s.pool.get? poolId = some pool)
    (hset : s'.pool = s.pool.set poolId pool') (hshares : pool'.totalShares = pool.totalShares + d)
    (id : Symbol) : sharesOf s' id = sharesOf s id + if poolId = id then d else 0 := by
  unfold sharesOf
  rw [hset]
  apply Store.weight_set_add
  rw [Store.weight_some hfound, hshares]

theorem sharesOf_keep (hfound : s.pool.get? poolId = some pool)
    (hset : s'.pool = s.pool.set poolId pool') (hshares : pool'.totalShares = pool.totalShares)
    (id : Symbol) : sharesOf s' id = sharesOf s id := by
  rw [sharesOf_write (d := 0) hfound hset (by rw [hshares, add_zero]), ite_self, add_zero]

/-- Pool and underwriter gain or lose the same number. -/
theorem ShareLedger.change (h : ShareLedger s) {d : ℤ} {uw : Underwriter}
    (hfound : s.pool.get? poolId = some pool) (hset : s'.pool = s.pool.set poolId pool')
    (hshares : pool'.totalShares = pool.totalShares + d)
    (hwrite : s'.underwriter = s.underwriter.set (poolId, address) uw)
    (hheld : uw.shares = (loadUnderwriter s poolId address).shares + d) (hnonneg : 0 ≤ uw.shares) :
    ShareLedger s' where
  total id := by
    rw [sharesOf_write hfound hset hshares id, h.total id]
    unfold sharesHeld
    rw [hwrite, Store.total_set_add (d := if poolId = id then d else 0)]
    rw [weight_shares, hheld]
    split <;> simp
  nonneg := by
    rw [hwrite]
    exact Store.forall_set h.nonneg hnonneg

theorem shares_step (h : ShareLedger s) (heffect : Effect tok self s a entry s') :
    ShareLedger s' := by
  cases heffect with
  | createPool env admin poolId coverageType reserveRatioBps poolIds poolCounter known new ratio =>
    refine h.keep (fun id => ?_) rfl
    unfold sharesOf
    rw [Store.weight_set_add (d := 0), ite_self, add_zero]
    rw [Store.weight_none new]
    rfl
  | deposited env underwriter poolId amount pool shares reserveAmount token tokens positive found
      minted =>
    have hminted := sharesFor_nonneg positive minted
    have hheld := h.held_nonneg poolId underwriter
    exact h.change found rfl rfl rfl rfl (add_nonneg hheld hminted)
  | withdrawn env underwriter poolId shares pool assets reserveAmount token tokens positive found
      holds =>
    exact h.change (d := -shares) found rfl (sub_eq_add_neg _ _) rfl (sub_eq_add_neg _ _)
      (sub_nonneg.mpr holds)
  | purchased env buyer poolId tier coverageAmount pool coverageLimit deductible premium
      reserveAmount policyIds holderPolicies token tokens found =>
    exact h.keep (sharesOf_keep found rfl rfl) rfl
  | cancelled env buyer policyId policy pool refund reserveAmount tokens stored holds active due
      found => exact h.keep (sharesOf_keep found rfl rfl) rfl
  | paid env admin queueId item claim pool policy requiredReserve reserveAmount token tokens listed
      waiting stored approved found => exact h.keep (sharesOf_keep found rfl rfl) rfl
  | reserveRatio env admin poolId newRatioBps pool reserveAmount found =>
    exact h.keep (sharesOf_keep found rfl rfl) rfl
  | _ => exact h.keep (fun _ => rfl) rfl

theorem shareLedger_deployed (tokens : τ) : ShareLedger (deployed tokens) where
  total _ := rfl
  nonneg _ _ hk := by cases hk

theorem history_shares {ok : List (State τ × Action τ) → State τ → Action τ → Prop} {tokens : τ}
    {log : List (State τ × Action τ)} (hrun : History (next tok self) ok (deployed tokens) log s) :
    ShareLedger s := by
  refine hrun.preserves (P := fun _ s => ShareLedger s) (shareLedger_deployed tokens) ?_
  intro log s a s' _ hnext h
  exact shares_step h (next_effect hnext)

end InsuranceProtocol
