import StellAIverse.Bridge.Lifecycle

/-!
# The quorum behind a validation

A transaction counts its approvals. The check for a second approval by the same
validator reads a key that is never written, so the count is one of distinct
validators only where nobody approves twice; and an approval given under another
validator set counts as well.
-/

namespace Bridge

open Soroban

variable {s s' : State} {a : Action} {id : ℕ} {tx tx' : BridgeTransaction}
  {txs : Store ℕ BridgeTransaction} {log : List (State × Action)}

/-- Who approves the transaction in a call. -/
def Action.approver (id : ℕ) (a : Action) : Option Address :=
  match a.op with
  | .approveTransaction validator id' _ _ => if id' = id then some validator else none
  | _ => none

/-- Who approved the transaction, the latest first, as often as it was done. -/
def approvers (id : ℕ) (log : List (State × Action)) : List Address :=
  log.filterMap fun e => e.2.approver id

theorem approvers_same (h : a.approver id = none) : approvers id ((s, a) :: log) = approvers id log :=
  List.filterMap_cons_none h

theorem approvers_more {validator : Address} (h : a.approver id = some validator) :
    approvers id ((s, a) :: log) = validator :: approvers id log :=
  List.filterMap_cons_some h

/-- The count of the stored transaction. -/
def approvals (txs : Store ℕ BridgeTransaction) (id : ℕ) : ℕ :=
  match txs.get? id with
  | some tx => tx.validatorApprovals
  | none => 0

theorem approvals_of_get (h : txs.get? id = some tx) : approvals txs id = tx.validatorApprovals := by
  simp [approvals, h]

theorem approvals_set (txs : Store ℕ BridgeTransaction) (id id' : ℕ) (tx : BridgeTransaction) :
    approvals (txs.set id tx) id' = if id' = id then tx.validatorApprovals else approvals txs id' := by
  unfold approvals
  rw [Store.get?_set]
  by_cases he : id' = id
  · rw [if_pos he, if_pos he]
  · rw [if_neg he, if_neg he]

theorem approvals_set_same (h : approvals txs id = tx'.validatorApprovals) (id' : ℕ) :
    approvals (txs.set id tx') id' = approvals txs id' := by
  rw [approvals_set]
  split
  · rename_i he
    rw [he, h]
  · rfl

theorem approvals_kept (hfound : txs.get? id = some tx)
    (h : tx'.validatorApprovals = tx.validatorApprovals) (id' : ℕ) :
    approvals (txs.set id tx') id' = approvals txs id' :=
  approvals_set_same ((approvals_of_get hfound).trans h.symm) id'

/-- A call other than an approval leaves every count as it is. -/
theorem approvals_effect (h : s.Ordered) (heffect : Effect s a s') (hnone : a.approver id = none) :
    approvals s'.tx id = approvals s.tx id := by
  obtain ⟨config, hconfig, h⟩ := h
  have hfresh : approvals s.tx (config.txCounter + 1) = 0 := by
    simp [approvals, h.fresh]
  cases heffect with
  | settings | initializeContract | registerWrappedAsset | deactivateWrappedAsset
  | createLiquidityPool | addLiquidity | removeLiquidity | resolveOther => rfl
  | lockAssets env sender chain code amount destAddress hash config₁ asset fee emergency found =>
    obtain rfl : config = config₁ := Option.some.inj (hconfig.symm.trans found)
    exact approvals_set_same hfresh id
  | mintAssets env sender chain code amount hash merkleRoot config₁ asset emergency found =>
    obtain rfl : config = config₁ := Option.some.inj (hconfig.symm.trans found)
    exact approvals_set_same hfresh id
  | approveTransaction env validator id' chain signature tx vs vsig emergency found =>
    have hother : id ≠ id' := by
      rintro rfl
      simp [Action.approver] at hnone
    rw [approvals_set, if_neg hother]
  | completeTransaction env admin id' hash tx asset found =>
    exact approvals_kept found (by rfl) id
  | releaseAssets env admin id' tx asset found => exact approvals_kept found (by rfl) id
  | fileDispute env disputer id' reason tx config₁ found =>
    exact approvals_kept found (by rfl) id
  | resolveCancel env admin id' dispute tx found unresolved about =>
    exact approvals_kept about (by rfl) id
  | cancelOutbound env caller id' tx asset found =>
    exact approvals_kept found (by rfl) id
  | cancelInbound env caller id' tx found => exact approvals_kept found (by rfl) id

/-- Nobody approves a transaction again, and the approval that reaches the threshold is given
under a validator set to which all who approved before belong. -/
def Action.SoundApproval (log : List (State × Action)) (s : State) (a : Action) : Prop :=
  match a.op with
  | .approveTransaction validator id chain _ => validator ∉ approvers id log ∧
    ∀ tx ∈ s.tx.get? id, ∀ vs ∈ s.validatorSet.get? chain,
      vs.requiredApprovals ≤ tx.validatorApprovals + 1 →
        ∀ earlier ∈ approvers id log, earlier ∈ vs.validators
  | _ => True

instance (log : List (State × Action)) (s : State) : (a : Action) → Decidable (a.SoundApproval log s)
  | ⟨_, .approveTransaction ..⟩ => inferInstanceAs (Decidable (_ ∧ ∀ tx ∈ _, ∀ vs ∈ _, _ → ∀ v ∈ _, _))
  | ⟨_, .initializeContract ..⟩ | ⟨_, .updateConfig ..⟩ | ⟨_, .transferAdmin ..⟩
  | ⟨_, .addChain ..⟩ | ⟨_, .removeChain ..⟩ | ⟨_, .registerValidatorSet ..⟩
  | ⟨_, .updateValidatorThreshold ..⟩ | ⟨_, .addValidator ..⟩ | ⟨_, .removeValidator ..⟩
  | ⟨_, .registerWrappedAsset ..⟩ | ⟨_, .deactivateWrappedAsset ..⟩ | ⟨_, .setFeeTier ..⟩
  | ⟨_, .lockAssets ..⟩ | ⟨_, .completeTransaction ..⟩ | ⟨_, .mintAssets ..⟩
  | ⟨_, .releaseAssets ..⟩ | ⟨_, .createLiquidityPool ..⟩ | ⟨_, .addLiquidity ..⟩
  | ⟨_, .removeLiquidity ..⟩ | ⟨_, .pauseBridge ..⟩ | ⟨_, .unpauseBridge ..⟩
  | ⟨_, .fileDispute ..⟩ | ⟨_, .resolveDispute ..⟩ | ⟨_, .cancelTransaction ..⟩ => .isTrue trivial

/-- The count is one of distinct approvers. -/
def Counted (log : List (State × Action)) (s : State) : Prop :=
  ∀ id, (approvers id log).Nodup ∧ (approvers id log).length = approvals s.tx id

theorem counted_effect (h : s.Ordered) (hcounted : Counted log s) (ha : a.SoundApproval log s)
    (heffect : Effect s a s') : Counted ((s, a) :: log) s' := by
  intro id
  obtain ⟨hnodup, hlength⟩ := hcounted id
  cases hwho : a.approver id with
  | none =>
    rw [approvers_same hwho, approvals_effect h heffect hwho]
    exact ⟨hnodup, hlength⟩
  | some who =>
    rw [approvers_more hwho]
    cases heffect with
    | settings env op _ _ _ _ _ _ quiet => cases op <;> first | cases hwho | cases quiet
    | approveTransaction env validator id' chain signature tx vs vsig emergency found =>
      obtain ⟨rfl, rfl⟩ : id' = id ∧ validator = who := by
        simpa [Action.approver] using hwho
      rw [approvals_of_get found] at hlength
      rw [approvals_set, if_pos rfl, List.length_cons, hlength]
      exact ⟨List.nodup_cons.mpr ⟨ha.1, hnodup⟩, rfl⟩
    | _ => cases hwho

theorem run_counted {admin : Address}
    (hrun : History next (fun log s a => a.SoundApproval log s) (initialized admin) log s) :
    Keyed s ∧ s.Ordered ∧ Counted log s := by
  refine run_preserves (P := fun log s => s.Ordered ∧ Counted log s) hrun
    ⟨Ordered.start admin, fun _ => ⟨List.nodup_nil, rfl⟩⟩ ?_
  rintro log s a s' ha - heffect ⟨hordered, hcounted⟩
  exact ⟨ordered_effect hordered heffect, counted_effect hordered hcounted ha heffect⟩

/-- Only an approval that reaches the threshold makes a transaction validated. -/
theorem validated_effect (heffect : Effect s a s')
    (hbefore : ∀ tx, s.tx.get? id = some tx → tx.status ≠ .validated)
    (hafter : s'.tx.get? id = some tx') (hvalidated : tx'.status = .validated) :
    ∃ validator chain signature tx vs, a.op = .approveTransaction validator id chain signature ∧
      s.tx.get? id = some tx ∧ s.validatorSet.get? chain = some vs ∧ validator ∈ vs.validators ∧
      vs.requiredApprovals ≤ tx.validatorApprovals + 1 := by
  -- A write of another status, at this number or another one.
  have hwritten : ∀ {id' tx₁}, (s.tx.set id' tx₁).get? id = some tx' → tx₁.status ≠ .validated →
      False := by
    intro id' tx₁ hk hs
    rw [Store.get?_set] at hk
    split at hk
    · cases hk
      exact hs hvalidated
    · exact hbefore tx' hk hvalidated
  cases heffect with
  | settings | initializeContract | registerWrappedAsset | deactivateWrappedAsset
  | createLiquidityPool | addLiquidity | removeLiquidity | resolveOther =>
    exact absurd hvalidated (hbefore tx' hafter)
  | lockAssets | mintAssets | completeTransaction | releaseAssets | fileDispute | resolveCancel
  | cancelOutbound | cancelInbound => exact (hwritten hafter (by simp)).elim
  | approveTransaction env validator id' chain signature tx vs vsig emergency found pending
      validators member =>
    dsimp only at hafter
    split at hafter
    · rename_i hreached
      rw [Store.get?_set] at hafter
      split at hafter
      · rename_i he
        subst he
        exact ⟨validator, chain, signature, tx, vs, rfl, found, validators, member, hreached⟩
      · exact absurd hvalidated (hbefore tx' hafter)
    · exact (hwritten hafter (by simp [pending])).elim

/-- In every run in which nobody approves a transaction twice and the approval that reaches the
threshold finds all earlier approvers in its validator set: when a transaction becomes
validated, it is by an approval, and as many different members of the validator set of that
approval as the set requires have approved it. -/
theorem validated_by_quorum {admin : Address}
    (hrun : History next (fun log s a => a.SoundApproval log s) (initialized admin) log s)
    (ha : a.SoundApproval log s) (hn : next a s = .ok s')
    (hbefore : ∀ tx, s.tx.get? id = some tx → tx.status ≠ .validated)
    (hafter : s'.tx.get? id = some tx') (hvalidated : tx'.status = .validated) :
    ∃ validator chain signature vs, a.op = .approveTransaction validator id chain signature ∧
      s.validatorSet.get? chain = some vs ∧
      ∃ who : List Address, who.Nodup ∧ vs.requiredApprovals ≤ who.length ∧
        ∀ v ∈ who, v ∈ vs.validators ∧ v ∈ approvers id ((s, a) :: log) := by
  obtain ⟨hkeyed, -, hcounted⟩ := run_counted hrun
  have heffect := next_effect hkeyed hn
  obtain ⟨validator, chain, signature, tx, vs, hop, hfound, hvs, hmember, hreached⟩ :=
    validated_effect heffect hbefore hafter hvalidated
  have hwho : a.approver id = some validator := by
    simp [Action.approver, hop]
  obtain ⟨hnodup, hlength⟩ := hcounted id
  rw [approvals_of_get hfound] at hlength
  unfold Action.SoundApproval at ha
  rw [hop] at ha
  obtain ⟨hnew, hmembers⟩ := ha
  refine ⟨validator, chain, signature, vs, hop, hvs, validator :: approvers id log,
    List.nodup_cons.mpr ⟨hnew, hnodup⟩, ?_, fun v hv => ?_⟩
  · rw [List.length_cons, hlength]
    exact hreached
  · rw [approvers_more hwho]
    refine ⟨?_, hv⟩
    rcases List.mem_cons.mp hv with rfl | hearlier
    · exact hmember
    · exact hmembers tx hfound vs hvs hreached v hearlier

section Runs

open Sample

/-- A transaction waits for its second approval. -/
def oneApproval : List Op := opening ++ [
  .lockAssets alice .solana "USDC" 10000000 "dest" "first",
  .approveTransaction one 1 .solana "sig"]

theorem validated_by_quorum_two :
    ∃ s log s', History next (fun log s a => a.SoundApproval log s) (initialized admin) log s ∧
      next ⟨env, .approveTransaction two 1 .solana "sig"⟩ s = .ok s' ∧
      (∃ tx ∈ s'.tx.get? 1, tx.status = .validated) ∧
      ∃ who : List Address, who.Nodup ∧ 2 ≤ who.length ∧
        ∀ v ∈ who, v ∈ approvers 1 ((s, ⟨env, .approveTransaction two 1 .solana "sig"⟩) :: log) := by
  have h : After (fun h => (∃ tx ∈ h.2.tx.get? 1, tx.status = .pending) ∧
        Action.SoundApproval h.1 h.2 ⟨env, .approveTransaction two 1 .solana "sig"⟩ ∧
        (∃ vs ∈ h.2.validatorSet.get? .solana, vs.requiredApprovals = 2) ∧
        After (fun s' => ∃ tx ∈ s'.tx.get? 1, tx.status = .validated)
          (next ⟨env, .approveTransaction two 1 .solana "sig"⟩ h.2))
      (record next (fun log s a => a.SoundApproval log s) (calls oneApproval)
        ([], initialized admin)) := by
    decide +kernel
  obtain ⟨⟨log, s⟩, hrec, ⟨tx, hfound, hpending⟩, ha, ⟨vs, hvs, hrequired⟩, hafter⟩ := h.exists_ok
  obtain ⟨s', hn, tx', hfound', hvalidated⟩ := hafter.exists_ok
  have hrun := record_run hrec
  have hbefore : ∀ tx, s.tx.get? 1 = some tx → tx.status ≠ .validated := by
    intro tx₁ hk
    obtain rfl : tx = tx₁ := Option.some.inj (hfound.symm.trans hk)
    simp [hpending]
  obtain ⟨validator, chain, signature, vs', hop, hvs', who, hnodup, hlength, hwho⟩ :=
    validated_by_quorum hrun ha hn hbefore hfound' hvalidated
  cases hop
  obtain rfl : vs = vs' := Option.some.inj (hvs.symm.trans hvs')
  rw [hrequired] at hlength
  exact ⟨s, log, s', hrun, hn, ⟨tx', hfound', hvalidated⟩, who, hnodup, hlength,
    fun v hv => (hwho v hv).2⟩

/-- The second of two required approvals is given by the validator who gave the first. -/
theorem validated_by_one :
    ∃ s log s' vs, History next (fun _ _ _ => True) (initialized admin) log s ∧
      (∃ tx ∈ s.tx.get? 1, tx.status = .pending) ∧
      next ⟨env, .approveTransaction one 1 .solana "sig"⟩ s = .ok s' ∧
      (∃ tx ∈ s'.tx.get? 1, tx.status = .validated) ∧ s.validatorSet.get? .solana = some vs ∧
      ¬ ∃ who : List Address, who.Nodup ∧ vs.requiredApprovals ≤ who.length ∧
        ∀ v ∈ who, v ∈ vs.validators ∧
          v ∈ approvers 1 ((s, ⟨env, .approveTransaction one 1 .solana "sig"⟩) :: log) := by
  have h : After (fun h => (∃ tx ∈ h.2.tx.get? 1, tx.status = .pending) ∧
        (∃ vs ∈ h.2.validatorSet.get? .solana, vs.requiredApprovals = 2) ∧
        approvers 1 h.1 = [one] ∧
        After (fun s' => ∃ tx ∈ s'.tx.get? 1, tx.status = .validated)
          (next ⟨env, .approveTransaction one 1 .solana "sig"⟩ h.2))
      (record next (fun _ _ _ => True) (calls oneApproval) ([], initialized admin)) := by
    decide +kernel
  obtain ⟨⟨log, s⟩, hrec, hpending, ⟨vs, hvs, hrequired⟩, hone, hafter⟩ := h.exists_ok
  obtain ⟨s', hn, hvalidated⟩ := hafter.exists_ok
  refine ⟨s, log, s', vs, record_history _ (fun _ _ _ _ _ => trivial) .nil hrec, hpending, hn,
    hvalidated, hvs, ?_⟩
  rintro ⟨who, hnodup, hlength, hwho⟩
  have hsub : who ⊆ [one] := by
    intro v hv
    have happroved := (hwho v hv).2
    rw [approvers_more rfl, hone] at happroved
    simpa using happroved
  have hle := (List.subperm_of_subset hnodup hsub).length_le
  rw [hrequired] at hlength
  simp only [List.length_singleton] at hle
  omega

end Runs

end Bridge
