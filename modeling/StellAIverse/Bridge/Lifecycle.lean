import StellAIverse.Bridge.Effects

/-!
# Replay protection and the life of a transaction

Transactions are numbered without gaps and found under their hashes. A dispute that
is not resolved stands against a disputed transaction, and no two stand against the
same one; so the status moves along one small diagram, whoever acts.
-/

namespace Bridge

open Soroban

variable {s s' : State} {a : Action} {id : ℕ} {tx tx' : BridgeTransaction}
  {config config' : BridgeConfig} {txs txs' : Store ℕ BridgeTransaction} {hashes : Store String ℕ}
  {disputes : Store ℕ BridgeDispute}

/-- How transactions, hashes and disputes fit together. -/
structure Ordered (config : BridgeConfig) (txs : Store ℕ BridgeTransaction)
    (hashes : Store String ℕ) (disputes : Store ℕ BridgeDispute) : Prop where
  numbered : ∀ id, (txs.get? id).isSome = true ↔ 1 ≤ id ∧ id ≤ config.txCounter
  hashed : ∀ id tx, txs.get? id = some tx → hashes.get? tx.sourceTxHash = some id
  used : ∀ hash id, hashes.get? hash = some id →
    ∃ tx, txs.get? id = some tx ∧ tx.sourceTxHash = hash
  filed : ∀ id d, disputes.get? id = some d →
    id ≤ config.disputeCounter ∧ (txs.get? d.txId).isSome = true
  standing : ∀ id d tx, disputes.get? id = some d → d.resolved = false →
    txs.get? d.txId = some tx → tx.status = .disputed
  single : ∀ id id' d d', disputes.get? id = some d → disputes.get? id' = some d' →
    d.resolved = false → d'.resolved = false → d.txId = d'.txId → id = id'

namespace Ordered

theorem start (admin : Address) : ∃ config, (initialized admin).config = some config ∧
    Ordered config (initialized admin).tx (initialized admin).txHash (initialized admin).dispute := by
  refine ⟨_, rfl, fun id => ?_, fun _ _ hk => ?_, fun _ _ hk => ?_, fun _ _ hk => ?_,
    fun _ _ _ hk => ?_, fun _ _ _ _ hk => ?_⟩
  · change false = true ↔ 1 ≤ id ∧ id ≤ 0
    simp
    omega
  all_goals cases hk

theorem fresh (h : Ordered config txs hashes disputes) : txs.get? (config.txCounter + 1) = none := by
  by_contra hne
  have hsome := (h.numbered (config.txCounter + 1)).mp (Option.isSome_iff_ne_none.mpr hne)
  omega

/-- Only the counters of the configuration matter. -/
theorem reconfigured (h : Ordered config txs hashes disputes)
    (htx : config'.txCounter = config.txCounter)
    (hdispute : config'.disputeCounter = config.disputeCounter) :
    Ordered config' txs hashes disputes := by
  refine ⟨fun id => ?_, h.hashed, h.used, fun id d hk => ?_, h.standing, h.single⟩
  · rw [htx]
    exact h.numbered id
  · rw [hdispute]
    exact h.filed id d hk

/-- Without transactions the counters may start anew. -/
theorem restarted (h : Ordered config txs hashes disputes) (hunused : config.txCounter = 0)
    (htx : config'.txCounter = 0) : Ordered config' txs hashes disputes := by
  have hnone : ∀ id, ¬ (txs.get? id).isSome = true := by
    intro id hsome
    have hid := (h.numbered id).mp hsome
    omega
  refine ⟨fun id => ?_, h.hashed, h.used, fun id d hk => ?_, h.standing, h.single⟩
  · rw [htx, ← hunused]
    exact h.numbered id
  · exact absurd (h.filed id d hk).2 (hnone d.txId)

/-- The next number is given to a transaction with a new hash. -/
theorem opened (h : Ordered config txs hashes disputes)
    (hunused : hashes.get? tx.sourceTxHash = none)
    (htx : config'.txCounter = config.txCounter + 1)
    (hdispute : config'.disputeCounter = config.disputeCounter) :
    Ordered config' (txs.set (config.txCounter + 1) tx)
      (hashes.set tx.sourceTxHash (config.txCounter + 1)) disputes := by
  have hfresh := h.fresh
  have hold : ∀ id, (txs.get? id).isSome = true → id ≠ config.txCounter + 1 := by
    rintro id hsome rfl
    rw [hfresh] at hsome
    cases hsome
  refine ⟨fun id => ?_, fun id tx' hk => ?_, fun hash id hk => ?_, fun id d hk => ?_,
    fun id d tx' hk hopen htx' => ?_, h.single⟩
  · rw [Store.get?_set, htx]
    split
    · simp
      omega
    · rw [h.numbered]
      omega
  · rw [Store.get?_set] at hk
    split at hk
    · rename_i he
      cases hk
      rw [he, Store.get?_set_self]
    · rw [Store.get?_set_ne _ _ fun he => ?_]
      · exact h.hashed id tx' hk
      · have hhash := h.hashed id tx' hk
        rw [he, hunused] at hhash
        cases hhash
  · rw [Store.get?_set] at hk
    split at hk
    · rename_i he
      cases hk
      exact ⟨tx, Store.get?_set_self _ _ _, he.symm⟩
    · obtain ⟨tx', htx', hhash⟩ := h.used hash id hk
      rw [Store.get?_set_ne _ _ (hold id (by rw [htx']; rfl))]
      exact ⟨tx', htx', hhash⟩
  · obtain ⟨hid, hsome⟩ := h.filed id d hk
    rw [Store.get?_set_ne _ _ (hold _ hsome), hdispute]
    exact ⟨hid, hsome⟩
  · rw [Store.get?_set_ne _ _ (hold _ (h.filed id d hk).2)] at htx'
    exact h.standing id d tx' hk hopen htx'

/-- A transaction against which no dispute stands may take any status. -/
theorem moved_of_resolved (h : Ordered config txs hashes disputes) (hfound : txs.get? id = some tx)
    (hhash : tx'.sourceTxHash = tx.sourceTxHash)
    (hresolved : ∀ id' d, disputes.get? id' = some d → d.txId = id → d.resolved = true) :
    Ordered config (txs.set id tx') hashes disputes := by
  have hsome : ∀ id', ((txs.set id tx').get? id').isSome = (txs.get? id').isSome := by
    intro id'
    rw [Store.get?_set]
    split
    · rename_i he
      rw [he, hfound]
      rfl
    · rfl
  refine ⟨fun id' => ?_, Store.forall_set h.hashed ?_, fun hash id' hk => ?_, fun id' d hk => ?_,
    fun id' d tx'' hk hopen htx => ?_, h.single⟩
  · rw [hsome]
    exact h.numbered id'
  · rw [hhash]
    exact h.hashed id tx hfound
  · obtain ⟨tx'', htx'', hhash''⟩ := h.used hash id' hk
    rw [Store.get?_set]
    split
    · rename_i he
      subst he
      obtain rfl : tx = tx'' := Option.some.inj (hfound.symm.trans htx'')
      exact ⟨tx', rfl, hhash.trans hhash''⟩
    · exact ⟨tx'', htx'', hhash''⟩
  · rw [hsome]
    exact h.filed id' d hk
  · rw [Store.get?_set] at htx
    split at htx
    · rename_i he
      cases hopen.symm.trans (hresolved id' d hk he)
    · exact h.standing id' d tx'' hk hopen htx

theorem moved (h : Ordered config txs hashes disputes) (hfound : txs.get? id = some tx)
    (hhash : tx'.sourceTxHash = tx.sourceTxHash) (hundisputed : tx.status ≠ .disputed) :
    Ordered config (txs.set id tx') hashes disputes := by
  refine h.moved_of_resolved hfound hhash fun id' d hk he => ?_
  by_contra hopen
  exact hundisputed (h.standing id' d tx hk (by simpa using hopen) (he ▸ hfound))

/-- A dispute is filed against a transaction that was not disputed. -/
theorem disputed (h : Ordered config txs hashes disputes) (hfound : txs.get? id = some tx)
    (hundisputed : tx.status ≠ .disputed) {d : BridgeDispute} (hd : d.txId = id)
    (htx : config'.txCounter = config.txCounter)
    (hdispute : config'.disputeCounter = config.disputeCounter + 1) :
    Ordered config' (txs.set id { tx with status := .disputed }) hashes
      (disputes.set (config.disputeCounter + 1) d) := by
  have hmoved : Ordered config (txs.set id { tx with status := .disputed }) hashes disputes :=
    h.moved hfound rfl hundisputed
  -- No dispute stands against the transaction yet.
  have hnone : ∀ id' d', disputes.get? id' = some d' → d'.resolved = false → d'.txId ≠ id := by
    intro id' d' hk hopen he
    exact hundisputed (h.standing id' d' tx hk hopen (he ▸ hfound))
  refine ⟨fun id' => ?_, hmoved.hashed, hmoved.used, fun id' d' hk => ?_,
    fun id' d' tx' hk hopen htx' => ?_, fun id₁ id₂ d₁ d₂ hk₁ hk₂ hopen₁ hopen₂ he => ?_⟩
  · rw [htx]
    exact hmoved.numbered id'
  · rw [Store.get?_set] at hk
    split at hk
    · cases hk
      rw [hdispute, hd, Store.get?_set_self]
      exact ⟨by omega, rfl⟩
    · obtain ⟨hid, hsome⟩ := hmoved.filed id' d' hk
      exact ⟨by omega, hsome⟩
  · rw [Store.get?_set] at hk
    split at hk
    · cases hk
      rw [hd, Store.get?_set_self] at htx'
      cases htx'
      rfl
    · exact hmoved.standing id' d' tx' hk hopen htx'
  · rw [Store.get?_set] at hk₁ hk₂
    split at hk₁ <;> split at hk₂
    · omega
    · cases hk₁
      exact absurd (he.symm.trans hd) (hnone id₂ d₂ hk₂ hopen₂)
    · cases hk₂
      exact absurd (he.trans hd) (hnone id₁ d₁ hk₁ hopen₁)
    · exact h.single id₁ id₂ d₁ d₂ hk₁ hk₂ hopen₁ hopen₂ he

/-- A dispute no longer stands. -/
theorem resolved (h : Ordered config txs hashes disputes) {d d' : BridgeDispute}
    (hfound : disputes.get? id = some d) (hresolved : d'.resolved = true) (hd : d'.txId = d.txId) :
    Ordered config txs hashes (disputes.set id d') := by
  refine ⟨h.numbered, h.hashed, h.used, Store.forall_set h.filed ?_,
    fun id' d₁ tx hk hopen => ?_, fun id₁ id₂ d₁ d₂ hk₁ hk₂ hopen₁ hopen₂ => ?_⟩
  · rw [hd]
    exact h.filed id d hfound
  · rw [Store.get?_set] at hk
    split at hk
    · cases hk
      cases hopen.symm.trans hresolved
    · exact h.standing id' d₁ tx hk hopen
  · rw [Store.get?_set] at hk₁ hk₂
    split at hk₁ <;> split at hk₂
    · cases hk₁
      cases hopen₁.symm.trans hresolved
    · cases hk₁
      cases hopen₁.symm.trans hresolved
    · cases hk₂
      cases hopen₂.symm.trans hresolved
    · exact h.single id₁ id₂ d₁ d₂ hk₁ hk₂ hopen₁ hopen₂

end Ordered

/-- The records of a state are in order. -/
def State.Ordered (s : State) : Prop :=
  ∃ config, s.config = some config ∧ Bridge.Ordered config s.tx s.txHash s.dispute

theorem ordered_effect (h : s.Ordered) (heffect : Effect s a s') : s'.Ordered := by
  obtain ⟨config, hconfig, h⟩ := h
  cases heffect with
  | settings env op config₁ config' validatorSet feeTier emergency chains quiet found reconfigured =>
    obtain rfl : config = config₁ := Option.some.inj (hconfig.symm.trans found)
    exact ⟨config', rfl, h.reconfigured reconfigured.txCounter reconfigured.disputeCounter⟩
  | initializeContract env admin config₁ found unused =>
    obtain rfl : config = config₁ := Option.some.inj (hconfig.symm.trans found)
    exact ⟨_, rfl, h.restarted unused rfl⟩
  | registerWrappedAsset | deactivateWrappedAsset | addLiquidity | removeLiquidity =>
    exact ⟨config, hconfig, h⟩
  | lockAssets env sender chain code amount destAddress hash config₁ asset fee emergency found unused =>
    obtain rfl : config = config₁ := Option.some.inj (hconfig.symm.trans found)
    exact ⟨_, rfl, h.opened unused rfl rfl⟩
  | mintAssets env sender chain code amount hash merkleRoot config₁ asset emergency found unused =>
    obtain rfl : config = config₁ := Option.some.inj (hconfig.symm.trans found)
    exact ⟨_, rfl, h.opened unused rfl rfl⟩
  | approveTransaction env validator id chain signature tx vs vsig emergency found pending =>
    exact ⟨config, hconfig, h.moved found rfl (by simp [pending])⟩
  | completeTransaction env admin id hash tx asset found validated =>
    exact ⟨config, hconfig, h.moved found rfl (by simp [validated])⟩
  | releaseAssets env admin id tx asset found validated =>
    exact ⟨config, hconfig, h.moved found rfl (by simp [validated])⟩
  | createLiquidityPool env admin code chain config₁ found =>
    obtain rfl : config = config₁ := Option.some.inj (hconfig.symm.trans found)
    exact ⟨_, rfl, h.reconfigured rfl rfl⟩
  | fileDispute env disputer id reason tx config₁ found undecided configured =>
    obtain rfl : config = config₁ := Option.some.inj (hconfig.symm.trans configured)
    refine ⟨_, rfl, h.disputed found ?_ rfl rfl rfl⟩
    rcases undecided with hs | hs <;> simp [hs]
  | resolveCancel env admin id dispute tx found unresolved about =>
    refine ⟨config, hconfig, Ordered.moved_of_resolved ?_ about rfl fun id' d hk he => ?_⟩
    · exact h.resolved found rfl rfl
    · rw [Store.get?_set] at hk
      split at hk
      · cases hk
        rfl
      · rename_i hne
        by_contra hopen
        exact hne (h.single id' id d dispute hk found (by simpa using hopen) unresolved he)
  | resolveOther env admin id resolution dispute found =>
    exact ⟨config, hconfig, h.resolved found rfl rfl⟩
  | cancelOutbound env caller id tx asset found pending =>
    exact ⟨config, hconfig, h.moved found rfl (by simp [pending])⟩
  | cancelInbound env caller id tx found pending =>
    exact ⟨config, hconfig, h.moved found rfl (by simp [pending])⟩

/-- The diagram of statuses. -/
inductive Moves : BridgeStatus → BridgeStatus → Prop
  | validate : Moves .pending .validated
  | cancel : Moves .pending .cancelled
  | dispute : Moves .pending .disputed
  | complete : Moves .validated .completed
  | contest : Moves .validated .disputed
  | dismiss : Moves .disputed .cancelled

/-- Every stored transaction keeps its status or moves along the diagram. -/
def Advances (txs txs' : Store ℕ BridgeTransaction) : Prop :=
  ∀ id tx, txs.get? id = some tx →
    ∃ tx', txs'.get? id = some tx' ∧ (tx'.status = tx.status ∨ Moves tx.status tx'.status)

theorem Advances.refl (txs : Store ℕ BridgeTransaction) : Advances txs txs :=
  fun _ tx hk => ⟨tx, hk, .inl rfl⟩

theorem advances_set (hfound : txs.get? id = some tx)
    (hmoves : tx'.status = tx.status ∨ Moves tx.status tx'.status) :
    Advances txs (txs.set id tx') := by
  intro id₁ tx₁ hk
  rw [Store.get?_set]
  split
  · rename_i he
    subst he
    obtain rfl : tx = tx₁ := Option.some.inj (hfound.symm.trans hk)
    exact ⟨tx', rfl, hmoves⟩
  · exact ⟨tx₁, hk, .inl rfl⟩

theorem advances_opened (hfresh : txs.get? id = none) : Advances txs (txs.set id tx') := by
  intro id₁ tx₁ hk
  rw [Store.get?_set_ne]
  · exact ⟨tx₁, hk, .inl rfl⟩
  · rintro rfl
    cases hfresh.symm.trans hk

theorem advances_effect (h : s.Ordered) (heffect : Effect s a s') : Advances s.tx s'.tx := by
  obtain ⟨config, hconfig, h⟩ := h
  cases heffect with
  | settings | initializeContract | registerWrappedAsset | deactivateWrappedAsset
  | createLiquidityPool | addLiquidity | removeLiquidity | resolveOther => exact .refl _
  | lockAssets env sender chain code amount destAddress hash config₁ asset fee emergency found =>
    obtain rfl : config = config₁ := Option.some.inj (hconfig.symm.trans found)
    exact advances_opened h.fresh
  | mintAssets env sender chain code amount hash merkleRoot config₁ asset emergency found =>
    obtain rfl : config = config₁ := Option.some.inj (hconfig.symm.trans found)
    exact advances_opened h.fresh
  | approveTransaction env validator id chain signature tx vs vsig emergency found pending =>
    refine advances_set found ?_
    split
    · rw [pending]
      exact .inr .validate
    · exact .inl rfl
  | completeTransaction env admin id hash tx asset found validated =>
    exact advances_set found (.inr (validated ▸ .complete))
  | releaseAssets env admin id tx asset found validated =>
    exact advances_set found (.inr (validated ▸ .complete))
  | fileDispute env disputer id reason tx config₁ found undecided =>
    refine advances_set found (.inr ?_)
    rcases undecided with hs | hs
    · exact hs ▸ .dispute
    · exact hs ▸ .contest
  | resolveCancel env admin id dispute tx found unresolved about =>
    exact advances_set about (.inr (h.standing id dispute tx found unresolved about ▸ .dismiss))
  | cancelOutbound env caller id tx asset found pending =>
    exact advances_set found (.inr (pending ▸ .cancel))
  | cancelInbound env caller id tx found pending =>
    exact advances_set found (.inr (pending ▸ .cancel))

/-- The call completes or releases the transaction. -/
def Action.completes (id : ℕ) (a : Action) : Bool :=
  match a.op with
  | .completeTransaction _ id' _ | .releaseAssets _ id' => id' = id
  | _ => false

def completions (id : ℕ) (log : List (State × Action)) : ℕ :=
  (log.filter fun e => e.2.completes id).length

/-- One if the transaction is completed. -/
def completed (txs : Store ℕ BridgeTransaction) (id : ℕ) : ℕ :=
  match txs.get? id with
  | some tx => if tx.status = .completed then 1 else 0
  | none => 0

theorem completed_set (txs : Store ℕ BridgeTransaction) (id id' : ℕ) (tx : BridgeTransaction) :
    completed (txs.set id tx) id' =
      if id' = id then if tx.status = .completed then 1 else 0 else completed txs id' := by
  unfold completed
  rw [Store.get?_set]
  by_cases he : id' = id
  · rw [if_pos he, if_pos he]
  · rw [if_neg he, if_neg he]

theorem completed_of_status (hfound : txs.get? id = some tx) (hs : tx.status ≠ .completed) :
    completed txs id = 0 := by
  simp [completed, hfound, hs]

/-- A write that completes nothing. -/
theorem completed_set_same {id' : ℕ} (hbefore : completed txs id = 0) (hs : tx'.status ≠ .completed) :
    completed (txs.set id tx') id' = completed txs id' := by
  rw [completed_set, if_neg hs]
  split
  · rename_i he
    rw [he, hbefore]
  · rfl

/-- A call that completes nothing. -/
theorem completions_same {log : List (State × Action)} (hnot : a.completes id = false) :
    completions id ((s, a) :: log) = completions id log := by
  simp [completions, hnot]

theorem completions_more {log : List (State × Action)} (h : a.completes id = true) :
    completions id ((s, a) :: log) = completions id log + 1 := by
  simp [completions, h]

/-- A validated transaction is completed. -/
theorem completions_complete {log : List (State × Action)} {id' : ℕ}
    (hcount : completions id log = completed txs id) (hcompletes : a.completes id = decide (id' = id))
    (hfound : txs.get? id' = some tx) (hvalidated : tx.status = .validated)
    (hstatus : tx'.status = .completed) :
    completions id ((s, a) :: log) = completed (txs.set id' tx') id := by
  rw [completed_set, if_pos hstatus]
  split
  · rename_i he
    subst he
    rw [completions_more (by simpa using hcompletes), hcount,
      completed_of_status hfound (by simp [hvalidated])]
  · rename_i hne
    rw [completions_same (by simpa [Ne.symm hne] using hcompletes), hcount]

/-- A transaction that was not completed gets another status than that. -/
theorem completions_other {log : List (State × Action)} {id' : ℕ}
    (hcount : completions id log = completed txs id) (hnot : a.completes id = false)
    (hfound : txs.get? id' = some tx) (hbefore : tx.status ≠ .completed)
    (hafter : tx'.status ≠ .completed) :
    completions id ((s, a) :: log) = completed (txs.set id' tx') id := by
  rw [completions_same hnot, hcount]
  exact (completed_set_same (completed_of_status hfound hbefore) hafter).symm

theorem completions_effect {log : List (State × Action)} (h : s.Ordered)
    (hcount : ∀ id, completions id log = completed s.tx id) (heffect : Effect s a s') (id : ℕ) :
    completions id ((s, a) :: log) = completed s'.tx id := by
  obtain ⟨config, hconfig, h⟩ := h
  have hfresh : completed s.tx (config.txCounter + 1) = 0 := by
    simp [completed, h.fresh]
  cases heffect with
  | settings env op _ _ _ _ _ _ quiet =>
    have hnot : Action.completes id ⟨env, op⟩ = false := by
      cases op <;> first | rfl | cases quiet
    rw [completions_same hnot]
    exact hcount id
  | initializeContract | registerWrappedAsset | deactivateWrappedAsset | createLiquidityPool
  | addLiquidity | removeLiquidity | resolveOther =>
    rw [completions_same rfl]
    exact hcount id
  | lockAssets env sender chain code amount destAddress hash config₁ asset fee emergency found =>
    obtain rfl : config = config₁ := Option.some.inj (hconfig.symm.trans found)
    rw [completions_same rfl, hcount id]
    exact (completed_set_same hfresh (by simp)).symm
  | mintAssets env sender chain code amount hash merkleRoot config₁ asset emergency found =>
    obtain rfl : config = config₁ := Option.some.inj (hconfig.symm.trans found)
    rw [completions_same rfl, hcount id]
    exact (completed_set_same hfresh (by simp)).symm
  | approveTransaction env validator id' chain signature tx vs vsig emergency found pending =>
    refine completions_other (hcount id) rfl found (by simp [pending]) ?_
    dsimp only
    split <;> simp [pending]
  | completeTransaction env admin id' hash tx asset found validated =>
    exact completions_complete (hcount id) rfl found validated rfl
  | releaseAssets env admin id' tx asset found validated =>
    exact completions_complete (hcount id) rfl found validated rfl
  | fileDispute env disputer id' reason tx config₁ found undecided =>
    refine completions_other (hcount id) rfl found ?_ (by simp)
    rcases undecided with hs | hs <;> simp [hs]
  | resolveCancel env admin id' dispute tx found unresolved about =>
    have hstatus := h.standing id' dispute tx found unresolved about
    exact completions_other (hcount id) rfl about (by simp [hstatus]) (by simp)
  | cancelOutbound env caller id' tx asset found pending =>
    exact completions_other (hcount id) rfl found (by simp [pending]) (by simp)
  | cancelInbound env caller id' tx found pending =>
    exact completions_other (hcount id) rfl found (by simp [pending]) (by simp)

/-- Records in order, and as many completions as the statuses say. -/
theorem run_ordered {ok : List (State × Action) → State → Action → Prop} {admin : Address}
    {log : List (State × Action)} (hrun : History next ok (initialized admin) log s) :
    Keyed s ∧ s.Ordered ∧ ∀ id, completions id log = completed s.tx id := by
  refine run_preserves (P := fun log s => s.Ordered ∧ ∀ id, completions id log = completed s.tx id)
    hrun ⟨Ordered.start admin, fun _ => rfl⟩ ?_
  rintro log s a s' - - heffect ⟨hordered, hcount⟩
  exact ⟨ordered_effect hordered heffect, completions_effect hordered hcount heffect⟩

theorem Moves.not_final {status status' : BridgeStatus} (h : Moves status status') :
    status ≠ .completed ∧ status ≠ .cancelled := by
  cases h <;> exact ⟨by nofun, by nofun⟩

/-- A final status stays for the rest of every run. -/
theorem final_stays {status : BridgeStatus} (hkeyed : Keyed s) (hordered : s.Ordered)
    (hfinal : status = .completed ∨ status = .cancelled)
    (hsteps : Steps next (fun _ _ => True) s s') (hfound : s.tx.get? id = some tx)
    (hstatus : tx.status = status) : ∃ tx', s'.tx.get? id = some tx' ∧ tx'.status = status := by
  have hstays : Keyed s' ∧ s'.Ordered ∧ ∃ tx', s'.tx.get? id = some tx' ∧ tx'.status = status := by
    refine Steps.preserves (P := fun s => Keyed s ∧ s.Ordered ∧
      ∃ tx', s.tx.get? id = some tx' ∧ tx'.status = status) ?_ hsteps
      ⟨hkeyed, hordered, tx, hfound, hstatus⟩
    rintro s a s' - hn ⟨hkeyed, hordered, tx, hfound, hstatus⟩
    have heffect := next_effect hkeyed hn
    refine ⟨keyed_effect hkeyed heffect, ordered_effect hordered heffect, ?_⟩
    obtain ⟨tx', hfound', hsame | hmoves⟩ := advances_effect hordered heffect id tx hfound
    · exact ⟨tx', hfound', hsame.trans hstatus⟩
    · obtain ⟨hcompleted, hcancelled⟩ := hmoves.not_final
      rw [hstatus] at hcompleted hcancelled
      exact (hfinal.elim hcompleted hcancelled).elim
  exact hstays.2.2

/-- In every run: transactions are numbered from one to the counter, no two have the same
hash, every used hash leads to its transaction, a status moves along the diagram only, so
that completed and cancelled are final, and each transaction is completed or released once
at most. -/
theorem life_cycle {admin : Address} {log : List (State × Action)}
    (hrun : History next (fun _ _ _ => True) (initialized admin) log s) :
    (∃ config, s.config = some config ∧
      ∀ id, (s.tx.get? id).isSome = true ↔ 1 ≤ id ∧ id ≤ config.txCounter) ∧
    (∀ id id' tx tx', s.tx.get? id = some tx → s.tx.get? id' = some tx' →
      tx.sourceTxHash = tx'.sourceTxHash → id = id') ∧
    (∀ id tx, s.tx.get? id = some tx → s.txHash.get? tx.sourceTxHash = some id) ∧
    (∀ hash id, s.txHash.get? hash = some id →
      ∃ tx, s.tx.get? id = some tx ∧ tx.sourceTxHash = hash) ∧
    (∀ a s', next a s = .ok s' → ∀ id tx, s.tx.get? id = some tx →
      ∃ tx', s'.tx.get? id = some tx' ∧ (tx'.status = tx.status ∨ Moves tx.status tx'.status)) ∧
    (∀ s', Steps next (fun _ _ => True) s s' → ∀ id tx, s.tx.get? id = some tx →
      tx.status = .completed ∨ tx.status = .cancelled →
      ∃ tx', s'.tx.get? id = some tx' ∧ tx'.status = tx.status) ∧
    (∀ id, completions id log ≤ 1) := by
  obtain ⟨hkeyed, hordered, hcount⟩ := run_ordered hrun
  obtain ⟨config, hconfig, h⟩ := hordered
  refine ⟨⟨config, hconfig, h.numbered⟩, fun id id' tx tx' hk hk' he => ?_, h.hashed, h.used,
    fun a s' hn => advances_effect ⟨config, hconfig, h⟩ (next_effect hkeyed hn),
    fun s' hsteps id tx hfound hfinal =>
      final_stays hkeyed ⟨config, hconfig, h⟩ hfinal hsteps hfound rfl, fun id => ?_⟩
  · have hhash := h.hashed id tx hk
    rw [he, h.hashed id' tx' hk'] at hhash
    exact (Option.some.inj hhash).symm
  · rw [hcount id]
    unfold completed
    split
    · split <;> omega
    · omega

namespace Sample

def admin : Address := ⟨0⟩

def issuer : Address := ⟨1⟩

def alice : Address := ⟨2⟩

def bob : Address := ⟨3⟩

def one : Address := ⟨4⟩

def two : Address := ⟨5⟩

def three : Address := ⟨6⟩

/-- Everyone signs. -/
def env : Env := ⟨0, fun _ => true⟩

/-- A chain with three validators, two of whom suffice, and an asset. -/
def opening : List Op := [
  .addChain admin .solana,
  .registerValidatorSet admin .solana [one, two, three] 2,
  .registerWrappedAsset admin "USDC" issuer .solana]

def calls (ops : List Op) : List Action := ops.map fun op => ⟨env, op⟩

end Sample

section Runs

open Sample

/-- One transaction is completed, one disputed and cancelled, one cancelled. -/
def threeTransactions : List Op := opening ++ [
  .lockAssets alice .solana "USDC" 10000000 "dest" "first",
  .approveTransaction one 1 .solana "sig",
  .approveTransaction two 1 .solana "sig",
  .completeTransaction admin 1 "minted",
  .lockAssets bob .solana "USDC" 10000000 "dest" "second",
  .fileDispute alice 2 "not mine",
  .resolveDispute admin 1 "cancel",
  .mintAssets bob .solana "USDC" 5000000 "third" "root",
  .cancelTransaction bob 3]

theorem life_cycle_three :
    ∃ s log, History next (fun _ _ _ => True) (initialized admin) log s ∧
      (∃ tx ∈ s.tx.get? 1, tx.status = .completed) ∧ (∃ tx ∈ s.tx.get? 2, tx.status = .cancelled) ∧
      (∃ tx ∈ s.tx.get? 3, tx.status = .cancelled) ∧ s.txHash.get? "second" = some 2 ∧
      completions 1 log = 1 ∧ completions 1 log ≤ 1 := by
  have h : After (fun h => (∃ tx ∈ h.2.tx.get? 1, tx.status = .completed) ∧
        (∃ tx ∈ h.2.tx.get? 2, tx.status = .cancelled) ∧
        (∃ tx ∈ h.2.tx.get? 3, tx.status = .cancelled) ∧ h.2.txHash.get? "second" = some 2 ∧
        completions 1 h.1 = 1)
      (record next (fun _ _ _ => True) (calls threeTransactions) ([], initialized admin)) := by
    decide +kernel
  obtain ⟨⟨log, s⟩, hrec, hfirst, hsecond, hthird, hhash, hcount⟩ := h.exists_ok
  have hrun : History next (fun _ _ _ => True) (initialized admin) log s :=
    record_history _ (fun _ _ _ _ _ => trivial) .nil hrec
  obtain ⟨-, -, -, -, -, -, honce⟩ := life_cycle hrun
  exact ⟨s, log, hrun, hfirst, hsecond, hthird, hhash, hcount, honce 1⟩

end Runs

end Bridge
