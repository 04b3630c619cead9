import StellAIverse.Bridge.Lifecycle

/-!
# Disputes

A dispute stands against a disputed transaction; the converse is what keeps a
transaction from being stranded. It holds while every resolution is a cancellation:
with any other text the dispute is closed and the transaction stays disputed, which
no call accepts.
-/

namespace Bridge

open Soroban

variable {s s' : State} {a : Action} {id : ℕ} {tx tx' : BridgeTransaction}
  {txs : Store ℕ BridgeTransaction} {disputes : Store ℕ BridgeDispute}

/-- A dispute about the transaction is not resolved yet. -/
def Contested (disputes : Store ℕ BridgeDispute) (id : ℕ) : Prop :=
  ∃ id' d, disputes.get? id' = some d ∧ d.txId = id ∧ d.resolved = false

/-- Against every disputed transaction a dispute stands. -/
def AllContested (txs : Store ℕ BridgeTransaction) (disputes : Store ℕ BridgeDispute) : Prop :=
  ∀ id tx, txs.get? id = some tx → tx.status = .disputed → Contested disputes id

theorem AllContested.moved (h : AllContested txs disputes) (hs : tx'.status ≠ .disputed) :
    AllContested (txs.set id tx') disputes :=
  Store.forall_set h fun hdisputed => absurd hdisputed hs

/-- Filing under a new number keeps the disputes that stand. -/
theorem Contested.filed (h : Contested disputes id) {n : ℕ} {d : BridgeDispute}
    (hfresh : disputes.get? n = none) : Contested (disputes.set n d) id := by
  obtain ⟨id', d', hk, hd', hopen⟩ := h
  refine ⟨id', d', ?_, hd', hopen⟩
  rw [Store.get?_set_ne]
  · exact hk
  · rintro rfl
    cases hfresh.symm.trans hk

/-- Resolving a dispute keeps those about other transactions. -/
theorem Contested.resolved (h : Contested disputes id) {n : ℕ} {d d' : BridgeDispute}
    (hfound : disputes.get? n = some d) (hother : d.txId ≠ id) : Contested (disputes.set n d') id := by
  obtain ⟨id', d₁, hk, hd₁, hopen⟩ := h
  refine ⟨id', d₁, ?_, hd₁, hopen⟩
  rw [Store.get?_set_ne]
  · exact hk
  · rintro rfl
    obtain rfl : d = d₁ := Option.some.inj (hfound.symm.trans hk)
    exact hother hd₁

/-- A dispute is resolved by cancelling the transaction. -/
def Action.Cancels (a : Action) : Prop :=
  match a.op with
  | .resolveDispute _ _ resolution => resolution = "cancel"
  | _ => True

instance : (a : Action) → Decidable a.Cancels
  | ⟨_, .resolveDispute _ _ resolution⟩ => inferInstanceAs (Decidable (resolution = "cancel"))
  | ⟨_, .initializeContract ..⟩ | ⟨_, .updateConfig ..⟩ | ⟨_, .transferAdmin ..⟩
  | ⟨_, .addChain ..⟩ | ⟨_, .removeChain ..⟩ | ⟨_, .registerValidatorSet ..⟩
  | ⟨_, .updateValidatorThreshold ..⟩ | ⟨_, .addValidator ..⟩ | ⟨_, .removeValidator ..⟩
  | ⟨_, .registerWrappedAsset ..⟩ | ⟨_, .deactivateWrappedAsset ..⟩ | ⟨_, .setFeeTier ..⟩
  | ⟨_, .lockAssets ..⟩ | ⟨_, .approveTransaction ..⟩ | ⟨_, .completeTransaction ..⟩
  | ⟨_, .mintAssets ..⟩ | ⟨_, .releaseAssets ..⟩ | ⟨_, .createLiquidityPool ..⟩
  | ⟨_, .addLiquidity ..⟩ | ⟨_, .removeLiquidity ..⟩ | ⟨_, .pauseBridge ..⟩
  | ⟨_, .unpauseBridge ..⟩ | ⟨_, .fileDispute ..⟩ | ⟨_, .cancelTransaction ..⟩ => .isTrue trivial

theorem Ordered.dispute_fresh {config : BridgeConfig} {hashes : Store String ℕ}
    (h : Ordered config txs hashes disputes) : disputes.get? (config.disputeCounter + 1) = none := by
  by_contra hne
  obtain ⟨d, hk⟩ := Option.ne_none_iff_exists'.mp hne
  have hid := (h.filed _ d hk).1
  omega

theorem contested_effect (hordered : s.Ordered) (h : AllContested s.tx s.dispute) (ha : a.Cancels)
    (heffect : Effect s a s') : AllContested s'.tx s'.dispute := by
  obtain ⟨config, hconfig, hordered⟩ := hordered
  cases heffect with
  | settings | initializeContract | registerWrappedAsset | deactivateWrappedAsset
  | createLiquidityPool | addLiquidity | removeLiquidity => exact h
  | lockAssets | mintAssets | completeTransaction | releaseAssets | cancelOutbound | cancelInbound =>
    exact h.moved (by nofun)
  | approveTransaction env validator id chain signature tx vs vsig emergency found pending =>
    refine h.moved ?_
    dsimp only
    split <;> simp [pending]
  | fileDispute env disputer id reason tx config₁ found undecided configured =>
    obtain rfl : config = config₁ := Option.some.inj (hconfig.symm.trans configured)
    intro id' tx' hk hdisputed
    rw [Store.get?_set] at hk
    split at hk
    · rename_i he
      exact ⟨_, _, Store.get?_set_self _ _ _, he.symm, rfl⟩
    · exact (h id' tx' hk hdisputed).filed hordered.dispute_fresh
  | resolveCancel env admin id dispute tx found unresolved about =>
    intro id' tx' hk hdisputed
    rw [Store.get?_set] at hk
    split at hk
    · cases hk
      cases hdisputed
    · rename_i hne
      exact (h id' tx' hk hdisputed).resolved found (Ne.symm hne)
  | resolveOther env admin id resolution dispute found unresolved other =>
    -- The transaction of a dispute is stored, so a cancellation finds it.
    have hsome := (hordered.filed id dispute found).2
    rw [other ha] at hsome
    cases hsome

theorem run_contested {admin : Address} {log : List (State × Action)}
    (hrun : History next (fun _ _ a => a.Cancels) (initialized admin) log s) :
    Keyed s ∧ s.Ordered ∧ AllContested s.tx s.dispute := by
  refine run_preserves (P := fun _ s => s.Ordered ∧ AllContested s.tx s.dispute) hrun
    ⟨Ordered.start admin, fun _ _ hk => by cases hk⟩ ?_
  rintro log s a s' ha - heffect ⟨hordered, hcontested⟩
  exact ⟨ordered_effect hordered heffect, contested_effect hordered hcontested ha heffect⟩

/-- After a resolution no dispute stands against the transaction, which is cancelled or, with
another text, left as it is. -/
theorem resolve_effect (hordered : s.Ordered) {env : Env} {admin : Address} {resolution : String}
    (heffect : Effect s ⟨env, .resolveDispute admin id resolution⟩ s') :
    ∃ d tx tx', s.dispute.get? id = some d ∧ s.tx.get? d.txId = some tx ∧ tx.status = .disputed ∧
      s'.tx.get? d.txId = some tx' ∧ ¬ Contested s'.dispute d.txId ∧
      (resolution = "cancel" → tx'.status = .cancelled) ∧
      (resolution ≠ "cancel" → tx'.status = .disputed) := by
  obtain ⟨config, hconfig, h⟩ := hordered
  have hnone : ∀ {d d' : BridgeDispute}, s.dispute.get? id = some d → d.resolved = false →
      d'.resolved = true → ¬ Contested (s.dispute.set id d') d.txId := by
    rintro d d' hfound hopen hresolved ⟨id', d₁, hk, hd₁, hopen₁⟩
    rw [Store.get?_set] at hk
    split at hk
    · cases hk
      cases hopen₁.symm.trans hresolved
    · rename_i hne
      exact hne (h.single id' id d₁ d hk hfound hopen₁ hopen hd₁)
  cases heffect with
  | settings _ _ _ _ _ _ _ _ quiet => cases quiet
  | resolveCancel _ _ _ dispute tx found unresolved about =>
    exact ⟨dispute, tx, _, found, about, h.standing id dispute tx found unresolved about,
      Store.get?_set_self _ _ _, hnone found unresolved rfl, fun _ => rfl, fun hne => absurd rfl hne⟩
  | resolveOther _ _ _ _ dispute found unresolved other =>
    obtain ⟨tx, about⟩ := Option.isSome_iff_exists.mp (h.filed id dispute found).2
    have hdisputed := h.standing id dispute tx found unresolved about
    refine ⟨dispute, tx, tx, found, about, hdisputed, about, hnone found unresolved rfl,
      fun hcancel => ?_, fun _ => hdisputed⟩
    cases (other hcancel).symm.trans about

/-- In every run in which every dispute is resolved by cancelling, the disputed transactions
are those against which a dispute stands. The next resolution cancels its transaction if it
says so; with any other text it leaves the transaction disputed with no dispute standing. -/
theorem disputes_settled {admin : Address} {log : List (State × Action)}
    (hrun : History next (fun _ _ a => a.Cancels) (initialized admin) log s) :
    (∀ id tx, s.tx.get? id = some tx →
      (tx.status = .disputed ↔
        ∃ id' d, s.dispute.get? id' = some d ∧ d.txId = id ∧ d.resolved = false)) ∧
    (∀ env admin id resolution s', next ⟨env, .resolveDispute admin id resolution⟩ s = .ok s' →
      ∃ d tx', s.dispute.get? id = some d ∧ s'.tx.get? d.txId = some tx' ∧
        ¬ Contested s'.dispute d.txId ∧ (resolution = "cancel" → tx'.status = .cancelled) ∧
        (resolution ≠ "cancel" → tx'.status = .disputed)) := by
  obtain ⟨hkeyed, hordered, hcontested⟩ := run_contested hrun
  obtain ⟨config, hconfig, h⟩ := hordered
  refine ⟨fun id tx hfound => ⟨hcontested id tx hfound, ?_⟩, fun env admin id resolution s' hn => ?_⟩
  · rintro ⟨id', d, hk, rfl, hopen⟩
    exact h.standing id' d tx hk hopen hfound
  · obtain ⟨d, tx, tx', hk, -, -, hafter, hnone, hcancel, hother⟩ :=
      resolve_effect ⟨config, hconfig, h⟩ (next_effect hkeyed hn)
    exact ⟨d, tx', hk, hafter, hnone, hcancel, hother⟩

section Runs

open Sample

/-- Two transactions are disputed, and one of the disputes is resolved. -/
def twoDisputes : List Op := opening ++ [
  .lockAssets alice .solana "USDC" 10000000 "dest" "first",
  .lockAssets bob .solana "USDC" 10000000 "dest" "second",
  .approveTransaction one 2 .solana "sig",
  .fileDispute bob 1 "not confirmed",
  .fileDispute alice 2 "not confirmed",
  .resolveDispute admin 1 "cancel"]

theorem disputes_settled_two :
    ∃ s log, History next (fun _ _ a => a.Cancels) (initialized admin) log s ∧
      (∃ tx ∈ s.tx.get? 1, tx.status = .cancelled) ∧
      ∃ tx, s.tx.get? 2 = some tx ∧ tx.status = .disputed ∧
        ∃ id' d, s.dispute.get? id' = some d ∧ d.txId = 2 ∧ d.resolved = false := by
  have h : After (fun h => (∃ tx ∈ h.2.tx.get? 1, tx.status = .cancelled) ∧
        ∃ tx ∈ h.2.tx.get? 2, tx.status = .disputed)
      (record next (fun _ _ a => a.Cancels) (calls twoDisputes) ([], initialized admin)) := by
    decide +kernel
  obtain ⟨⟨log, s⟩, hrec, hfirst, tx, hfound, hdisputed⟩ := h.exists_ok
  have hrun := record_run hrec
  exact ⟨s, log, hrun, hfirst, tx, hfound, hdisputed,
    ((disputes_settled hrun).1 2 tx hfound).mp hdisputed⟩

/-- A transaction is disputed. -/
def aDispute : List Op := opening ++ [
  .lockAssets alice .solana "USDC" 10000000 "dest" "first",
  .fileDispute bob 1 "Issue with source tx"]

/-- Resolved with the text of the tests, the dispute is closed and the transaction stays
disputed. -/
theorem transaction_stranded :
    ∃ s log tx, History next (fun _ _ _ => True) (initialized admin) log s ∧
      s.tx.get? 1 = some tx ∧
      ¬ (tx.status = .disputed ↔
        ∃ id' d, s.dispute.get? id' = some d ∧ d.txId = 1 ∧ d.resolved = false) := by
  have h : After (fun h => (∃ d ∈ h.2.dispute.get? 1, d.txId = 1) ∧
        After (fun _ => True) (next ⟨env, .resolveDispute admin 1 "resolved"⟩ h.2))
      (record next (fun _ _ _ => True) (calls aDispute) ([], initialized admin)) := by
    decide +kernel
  obtain ⟨⟨log, s⟩, hrec, ⟨d, hd, hone⟩, hafter⟩ := h.exists_ok
  obtain ⟨s', hn, -⟩ := hafter.exists_ok
  have hrun : History next (fun _ _ _ => True) (initialized admin) log s :=
    record_history _ (fun _ _ _ _ _ => trivial) .nil hrec
  obtain ⟨hkeyed, hordered, -⟩ := run_ordered hrun
  obtain ⟨d', tx, tx', hd', -, -, hfound, hnone, -, hother⟩ :=
    resolve_effect hordered (next_effect hkeyed hn)
  obtain rfl : d = d' := Option.some.inj (hd.symm.trans hd')
  rw [hone] at hfound hnone
  exact ⟨s', _, tx', .cons hrun trivial hn, hfound,
    fun hiff => hnone (hiff.mp (hother (by decide)))⟩

end Runs

end Bridge
