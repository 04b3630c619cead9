import StellAIverse.Escrow.Delegation

/-!
# What an admin can take

An admin sets the threshold and the time lock, and a submission counts as an approval: whoever can
become one can pay out any escrow alone.
-/

namespace Escrow

open Soroban
open AccessControl (hasRole Reaches)

variable {τ : Type} {tok : Token τ} {self ac : Address} {env : Ledger} {op : Op} {s s' : State τ}
  {j j' : Joint τ} {config : EscrowConfig} {x : Address} {A : Set Address} {now : ℕ}

/-- The threshold lies between one and the number of signers, executions are logged, and balances
fit. -/
structure Configured (s : State τ) : Prop where
  settings : ∀ config ∈ s.config, 1 ≤ config.requiredApprovals ∧
    config.requiredApprovals ≤ config.signerCount
  logged : s.config.isSome = true → s.globalExecutions.isSome = true
  ranged : ∀ e, I128.InRange (s.escrowBalance.amount e)

theorem Configured.same (h : Configured s) (hconfig : s'.config = s.config)
    (hlog : s.globalExecutions.isSome = true → s'.globalExecutions.isSome = true)
    (hranged : ∀ e, I128.InRange (s'.escrowBalance.amount e)) : Configured s' := by
  refine ⟨?_, fun hsome => hlog (h.logged ?_), hranged⟩
  · rw [hconfig]
    exact h.settings
  · rwa [hconfig] at hsome

/-- A balance written over an earlier one. -/
theorem Configured.ranged_set (h : Configured s) {escrowId : ℕ} {balance : ℤ}
    (hbalance : I128.InRange balance) (e : ℕ) :
    I128.InRange ((s.escrowBalance.set escrowId balance).amount e) := by
  rw [Store.amount_set]
  split
  · exact hbalance
  · exact h.ranged e

/-- Settings written over earlier ones. -/
theorem Configured.write (h : Configured s) {config' : EscrowConfig}
    (hold : s.config = some config) (hconfig : s'.config = some config')
    (hlog : s'.globalExecutions = s.globalExecutions)
    (hsame : s'.escrowBalance = s.escrowBalance) (hvalid : 1 ≤ config'.requiredApprovals ∧
      config'.requiredApprovals ≤ config'.signerCount) : Configured s' := by
  refine ⟨?_, fun _ => ?_, ?_⟩
  · rw [hconfig]
    rintro _ ⟨⟩
    exact hvalid
  · rw [hlog]
    exact h.logged (by rw [hold]; rfl)
  · rw [hsame]
    exact h.ranged

theorem withSigner_required (config : EscrowConfig) (h : 1 ≤ config.requiredApprovals) :
    1 ≤ config.withSigner.requiredApprovals ∧
      config.withSigner.requiredApprovals ≤ config.withSigner.signerCount := by
  unfold EscrowConfig.withSigner
  dsimp only
  split <;> omega

theorem configured_step (h : Configured s) (hn : invoke tok self env op s = .ok s') :
    Configured s' := by
  have heffect : Effect tok self s (.call env op) s' := next_effect hn
  cases op with
  | initializeContract admin signers required settings =>
    obtain ⟨-, hn⟩ := failIf_bind.mp hn
    obtain ⟨-, hn⟩ := requireAuth_bind.mp hn
    obtain ⟨u, hvalid, hn⟩ := bind_ok.mp hn
    obtain ⟨hcount, -⟩ := failIf_bind.mp hvalid
    obtain ⟨-, hn⟩ := failIf_bind.mp hn
    obtain ⟨-, hn⟩ := failIf_bind.mp hn
    cases hn
    refine ⟨?_, fun _ => rfl, h.ranged⟩
    rintro _ ⟨⟩
    dsimp only
    omega
  | addSigner caller signer =>
    cases heffect with
    | addSigner _ _ _ config list found =>
      exact h.write found rfl rfl rfl (withSigner_required config (h.settings config found).1)
    | configure _ _ _ _ _ configures => cases configures
  | removeSigner caller signer =>
    obtain ⟨config, hconfig, hn⟩ := okOr_bind.mp hn
    obtain ⟨-, hn⟩ := failIf_bind.mp (requireAdmin_bind hn)
    obtain ⟨hmore, hn⟩ := failIf_bind.mp hn
    obtain ⟨list, -, hn⟩ := expect_bind.mp hn
    obtain ⟨i, -, hn⟩ := expect_bind.mp hn
    cases hn
    exact h.write hconfig rfl rfl rfl ⟨(h.settings config hconfig).1, by dsimp only; omega⟩
  | setThreshold caller m =>
    obtain ⟨config, hconfig, hn⟩ := okOr_bind.mp hn
    obtain ⟨hm, hn⟩ := failIf_bind.mp (requireAdmin_bind hn)
    cases hn
    exact h.write hconfig rfl rfl rfl (by dsimp only; omega)
  | setTimelock caller _ _ | setRateLimit caller _ _ =>
    obtain ⟨config, hconfig, hn⟩ := okOr_bind.mp hn
    obtain ⟨-, hn⟩ := failIf_bind.mp (requireAdmin_bind hn)
    cases hn
    exact h.write hconfig rfl rfl rfl (h.settings config hconfig)
  | pause caller | unpause caller =>
    obtain ⟨config, hconfig, rfl⟩ := setPaused_ok hn
    exact h.write hconfig rfl rfl rfl (h.settings config hconfig)
  | createEscrow creator token isNative purpose =>
    cases heffect with
    | createEscrow => exact h.same rfl id (h.ranged_set I128.inRange_zero)
    | configure _ _ _ _ _ configures => cases configures
  | deposit escrowId depositor amount =>
    obtain ⟨-, hn⟩ := requireAuth_bind.mp hn
    obtain ⟨-, hn⟩ := failIf_bind.mp hn
    obtain ⟨record, -, hn⟩ := okOr_bind.mp hn
    obtain ⟨-, hn⟩ := failIf_bind.mp hn
    obtain ⟨hrange, hn⟩ := I128.add_bind.mp hn
    split at hn
    · cases hn
      exact h.same rfl id (h.ranged_set hrange)
    · obtain ⟨tokens, -, hn⟩ := bind_ok.mp hn
      cases hn
      exact h.same rfl id (h.ranged_set hrange)
  | executeTransaction txId =>
    obtain ⟨config, -, hn⟩ := okOr_bind.mp hn
    obtain ⟨-, hn⟩ := failIf_bind.mp hn
    obtain ⟨tx, -, hn⟩ := okOr_bind.mp hn
    obtain ⟨-, hn⟩ := failIf_bind.mp hn
    obtain ⟨-, hn⟩ := failIf_bind.mp hn
    obtain ⟨-, hn⟩ := failIf_bind.mp hn
    obtain ⟨_, -, hn⟩ := bind_ok.mp hn
    obtain ⟨_, -, hn⟩ := bind_ok.mp hn
    obtain ⟨record, -, hn⟩ := okOr_bind.mp hn
    obtain ⟨-, hn⟩ := failIf_bind.mp hn
    obtain ⟨hrange, hn⟩ := I128.sub_bind.mp hn
    obtain ⟨tokens, -, hn⟩ := bind_ok.mp hn
    obtain ⟨global, -, hn⟩ := bind_ok.mp hn
    cases hn
    exact h.same rfl (fun _ => rfl) (h.ranged_set hrange)
  | _ =>
    cases heffect with
    | configure _ _ _ _ _ configures => cases configures
    | _ => exact h.same rfl id h.ranged

theorem configured_deployed (tokens : τ) : Configured (deployed tokens) where
  settings _ h := by cases h
  logged h := by cases h
  ranged _ := I128.inRange_zero

theorem joint_configured {tokens : τ} (h : Joint.Reachable tok self ac tokens j) :
    Configured j.escrow := by
  refine (joint_runs h).1.preserves (P := Configured) ?_ (configured_deployed tokens)
  intro s a s' _ hn hconfigured
  cases a with
  | call env op => exact configured_step hconfigured hn
  | transfers tokens =>
    cases hn
    exact hconfigured.same rfl id hconfigured.ranged

/-- The coalition has an admin of the escrow, or can make one. -/
def Administers (A : Set Address) (ac : Address) (config : EscrowConfig)
    (roles : AccessControl.State) : Prop :=
  config.admin ∈ A ∨ config.accessControl = some ac ∧
    ((∃ a ∈ A, hasRole roles .admin a = true) ∨ Reaches A roles .admin)

theorem isAdmin_linked {roles : AccessControl.State} (hlink : config.accessControl = some ac)
    (hrole : hasRole roles .admin x = true) :
    isAdmin (Joint.ledger ac env roles) config x = .ok true := by
  unfold isAdmin Joint.ledger
  simp only [hlink, if_true, hrole, ite_self]

/-- Calls on the access control contract are calls on both. -/
theorem runBy_lift {roles roles' : AccessControl.State} (h : AccessControl.RunBy A roles roles') :
    Joint.RunBy tok self ac A ⟨s, roles⟩ ⟨s, roles'⟩ := by
  induction h with
  | refl => exact .refl _
  | tail _ hstep ih =>
    obtain ⟨⟨env, op⟩, hby, hn⟩ := hstep
    refine ih.tail (a := .roles env op) hby ?_
    simp only [Joint.next, hn, Except.map]

theorem exists_admin (h : Administers A ac config j.roles) (hi : AccessControl.Initialized j.roles) :
    ∃ roles, Joint.RunBy tok self ac A j ⟨j.escrow, roles⟩ ∧
      ∃ x ∈ A, ∀ env, isAdmin (Joint.ledger ac env roles) config x = .ok true := by
  rcases h with hadmin | ⟨hlink, ⟨x, hx, hrole⟩ | hreach⟩
  · exact ⟨j.roles, .refl j, config.admin, hadmin, fun _ => if_pos rfl⟩
  · exact ⟨j.roles, .refl j, x, hx, fun _ => isAdmin_linked hlink hrole⟩
  · obtain ⟨-, x, hx, -⟩ := id hreach
    obtain ⟨roles, hrun, hrole⟩ := AccessControl.exists_hasRole hi hreach x true
    exact ⟨roles, runBy_lift hrun, x, hx, fun _ => isAdmin_linked hlink hrole⟩

/-- One approval is enough, at once, and one execution a second is allowed. -/
def EscrowConfig.opened (config : EscrowConfig) : EscrowConfig :=
  { config with
    requiredApprovals := 1, timelockDelay := 0, gracePeriod := 1
    rateLimitWindow := 1, rateLimitMax := 1, paused := false }

/-- What an account is told when it calls by itself. -/
def askedBy (x : Address) (now : ℕ) : Ledger := ⟨⟨now, fun y => y = x⟩, fun _ _ => none⟩

theorem askedBy_by (hx : x ∈ A) (op : Op) :
    Joint.By A (.escrow (askedBy x now) op : Joint.Act τ) := by
  intro y hy
  rw [of_decide_eq_true hy]
  exact hx

theorem askedBy_auth {roles : AccessControl.State} :
    requireAuth (Joint.ledger ac (askedBy x now) roles).toEnv x = .ok () :=
  if_pos (decide_eq_true rfl)

theorem tail_call (now : ℕ) (op : Op) {roles : AccessControl.State} {t : State τ}
    (hrun : Joint.RunBy tok self ac A j ⟨s, roles⟩) (hx : x ∈ A)
    (hn : invoke tok self (Joint.ledger ac (askedBy x now) roles) op s = .ok t) :
    Joint.RunBy tok self ac A j ⟨t, roles⟩ := by
  have hby : Joint.By A (.escrow (askedBy x now) op : Joint.Act τ) := askedBy_by hx op
  refine hrun.tail hby ?_
  simp only [Joint.next, Escrow.next, hn, Except.map]

section Payout

variable {roles : AccessControl.State}

theorem requireAdmin_of {c : EscrowConfig} (hadmin : c.admin = config.admin)
    (hlink : c.accessControl = config.accessControl)
    (h : ∀ env, isAdmin (Joint.ledger ac env roles) config x = .ok true) :
    requireAdmin (Joint.ledger ac (askedBy x now) roles) c x = .ok () := by
  have hsame : isAdmin (Joint.ledger ac (askedBy x now) roles) c x = .ok true := by
    rw [← h (askedBy x now)]
    unfold isAdmin
    rw [hadmin, hlink]
  unfold requireAdmin
  rw [askedBy_auth, ok_bind, hsame, ok_bind]
  rfl

/-- An admin opens the settings. -/
theorem steps_opened (hx : x ∈ A) (hconfig : s.config = some config)
    (hcount : 1 ≤ config.signerCount)
    (hadmin : ∀ env, isAdmin (Joint.ledger ac env roles) config x = .ok true) :
    Joint.RunBy tok self ac A ⟨s, roles⟩ ⟨{ s with config := some config.opened }, roles⟩ := by
  have hreq : ∀ c : EscrowConfig, c.admin = config.admin →
      c.accessControl = config.accessControl →
      requireAdmin (Joint.ledger ac (askedBy x 0) roles) c x = .ok () :=
    fun c ha hl => requireAdmin_of ha hl hadmin
  let c₁ : EscrowConfig := { config with paused := false }
  let c₂ : EscrowConfig := { c₁ with requiredApprovals := 1 }
  let c₃ : EscrowConfig := { c₂ with timelockDelay := 0, gracePeriod := 1 }
  have h₁ : Joint.RunBy tok self ac A ⟨s, roles⟩ ⟨{ s with config := some c₁ }, roles⟩ := by
    refine tail_call 0 (.unpause x) (.refl _) hx ?_
    simp only [invoke, unpause, setPaused, getConfig, hconfig, okOr, ok_bind, hreq config rfl rfl]
    rfl
  have h₂ : Joint.RunBy tok self ac A ⟨s, roles⟩ ⟨{ s with config := some c₂ }, roles⟩ := by
    refine tail_call 0 (.setThreshold x 1) h₁ hx ?_
    have hvalid : ¬ (1 = 0 ∨ 1 > c₁.signerCount) := by
      change ¬ (1 = 0 ∨ 1 > config.signerCount)
      omega
    simp only [invoke, setThreshold, getConfig, okOr, ok_bind, hreq c₁ rfl rfl, failIf, if_neg hvalid]
    rfl
  have h₃ : Joint.RunBy tok self ac A ⟨s, roles⟩ ⟨{ s with config := some c₃ }, roles⟩ := by
    refine tail_call 0 (.setTimelock x 0 1) h₂ hx ?_
    have hvalid : ¬ (1 = zeroDelay ∨ 0 > U64.max - 1) := by decide
    simp only [invoke, setTimelock, getConfig, okOr, ok_bind, hreq c₂ rfl rfl, failIf, if_neg hvalid]
    rfl
  refine tail_call 0 (.setRateLimit x 1 1) h₃ hx ?_
  have hvalid : ¬ (1 = zeroDelay ∨ 1 = 0) := by decide
  simp only [invoke, setRateLimit, getConfig, okOr, ok_bind, hreq c₃ rfl rfl, failIf, if_neg hvalid]
  rfl

/-- The payment as the admin submits it. -/
def payment (s : State τ) (x : Address) (escrowId : ℕ) (recipient : Address) (amount : ℤ)
    (now : ℕ) : EscrowTransaction :=
  ⟨s.nextTxId.getD 1, escrowId, recipient, amount, x, [x], now, false, false, 0⟩

variable {record : EscrowRecord} {escrowId : ℕ} {recipient : Address} {amount : ℤ}

theorem submit_ok (hconfig : s.config = some config.opened)
    (hadmin : ∀ env, isAdmin (Joint.ledger ac env roles) config x = .ok true)
    (hrecord : s.escrow.get? escrowId = some record) (hpos : 0 < amount)
    (hcovered : amount ≤ s.escrowBalance.amount escrowId)
    (hids : s.nextTxId.getD 1 + 1 < 2 ^ 64) :
    submitTransaction (Joint.ledger ac (askedBy x now) roles) x escrowId recipient amount s =
      .ok (s.nextTxId.getD 1, { s with
        transaction := s.transaction.set (s.nextTxId.getD 1)
          (payment s x escrowId recipient amount now)
        nextTxId := some (s.nextTxId.getD 1 + 1) }) := by
  have hallowed : requireSignerOrAdmin (Joint.ledger ac (askedBy x now) roles) config.opened s x =
      .ok () := by
    have hreq : requireAdmin (Joint.ledger ac (askedBy x now) roles) config.opened x = .ok () :=
      requireAdmin_of rfl rfl hadmin
    unfold requireSignerOrAdmin
    rw [askedBy_auth, ok_bind]
    split
    · rfl
    · obtain ⟨-, hadmin⟩ := requireAdmin_ok hreq
      rw [hadmin, ok_bind]
      rfl
  have hmin : ¬ amount < minAmount := not_lt.mpr hpos
  have hbalance : ¬ escrowBalanceRaw s escrowId < amount := not_lt.mpr hcovered
  simp only [submitTransaction, getConfig, hconfig, okOr, ok_bind, hallowed, failIf, if_neg hmin,
    if_neg hbalance, escrowRecord, hrecord, U64.add_of_lt hids]
  rfl

theorem countInWindow_zero {timestamps : List ℕ} {cutoff : ℕ} (h : ∀ t ∈ timestamps, t < cutoff) :
    countInWindow timestamps cutoff = 0 := by
  unfold countInWindow
  rw [List.countP_eq_zero]
  intro t ht
  simpa using h t ht

theorem checkTimelock_opened {tx : EscrowTransaction} (hqueued : tx.queuedAt = env.timestamp)
    (htime : env.timestamp + 1 < 2 ^ 64) : checkTimelock env config.opened tx = .ok () := by
  have hdelay : config.opened.timelockDelay = 0 := rfl
  have hgrace : config.opened.gracePeriod = 1 := rfl
  have hunlock : U64.checkedAdd env.timestamp 0 = some env.timestamp := if_pos (by omega)
  have huntil : U64.checkedAdd env.timestamp 1 = some (env.timestamp + 1) := if_pos htime
  simp [checkTimelock, hdelay, hgrace, hqueued, hunlock, huntil, okOr, failIf]

theorem checkRateLimits_opened {global : List ℕ} (hlog : s.globalExecutions = some global)
    (hglobal : ∀ t ∈ global, t + 1 < env.timestamp)
    (hown : ∀ t ∈ recipientLog s recipient, t + 1 < env.timestamp) :
    checkRateLimits env config.opened s recipient = .ok () := by
  have hwindow : config.opened.rateLimitWindow = 1 := rfl
  have hmax : config.opened.rateLimitMax = 1 := rfl
  have hzero : ∀ timestamps : List ℕ, (∀ t ∈ timestamps, t + 1 < env.timestamp) →
      countInWindow timestamps (env.timestamp - 1) = 0 :=
    fun timestamps h => countInWindow_zero fun t ht => by have := h t ht; omega
  simp [checkRateLimits, hwindow, hmax, unwrap, expect, hlog, failIf, hzero global hglobal,
    hzero _ hown]

theorem execute_ok {txId : ℕ} {tx : EscrowTransaction} {global : List ℕ} {tokens : τ}
    (hconfig : s.config = some config.opened) (htx : s.transaction.get? txId = some tx)
    (hpending : tx.executed = false ∧ tx.cancelled = false)
    (hqueued : tx.queuedAt = env.timestamp) (happroved : tx.approvers ≠ [])
    (hlog : s.globalExecutions = some global) (hglobal : ∀ t ∈ global, t + 1 < env.timestamp)
    (hown : ∀ t ∈ recipientLog s tx.recipient, t + 1 < env.timestamp)
    (htime : env.timestamp + 1 < 2 ^ 64) (hrecord : s.escrow.get? tx.escrowId = some record)
    (hcovered : tx.amount ≤ s.escrowBalance.amount tx.escrowId)
    (hrange : I128.InRange (s.escrowBalance.amount tx.escrowId - tx.amount))
    (hpaid : payOut tok self record s.tokens tx.recipient tx.amount = .ok tokens) :
    executeTransaction tok self env txId s =
      .ok (logExecution env.timestamp (env.timestamp - 1) tx.recipient global { s with
        escrowBalance := s.escrowBalance.set tx.escrowId
          (s.escrowBalance.amount tx.escrowId - tx.amount)
        tokens
        transaction := s.transaction.set txId
          { tx with executed := true, executedAt := env.timestamp } }) := by
  have hquorum : ¬ tx.approvers.length < config.opened.requiredApprovals :=
    not_lt.mpr (List.length_pos_iff.mpr happroved)
  have hpaused : config.opened.paused = false := rfl
  have hbalance : ¬ escrowBalanceRaw s tx.escrowId < tx.amount := not_lt.mpr hcovered
  have hsub : I128.sub (escrowBalanceRaw s tx.escrowId) tx.amount =
      .ok (s.escrowBalance.amount tx.escrowId - tx.amount) := if_pos hrange
  simp only [executeTransaction, getConfig, hconfig, okOr, ok_bind, failIf, hpaused, getTransaction,
    htx, hpending, if_neg hquorum, checkTimelock_opened hqueued htime,
    checkRateLimits_opened hlog hglobal hown, escrowRecord, hrecord, if_neg hbalance, hsub, hpaid,
    unwrap, expect, hlog, Bool.false_eq_true, if_false]
  rfl

end Payout

/-- A coalition that has an admin of the escrow, or can make one, pays any covered amount of any
escrow to anybody, alone and at once: nobody else is asked, whatever the threshold and the time
lock were. It only has to wait until the last execution is out of a window of one second. -/
theorem coalition_takes (A : Set Address) (escrowId : ℕ) (recipient : Address) (amount : ℤ)
    (now : ℕ) {tokens after : τ} {j : Joint τ} {config : EscrowConfig} {record : EscrowRecord}
    (hreached : Joint.Reachable tok self ac tokens j)
    (hconfig : j.escrow.config = some config) (hflag : j.roles.initialized.isSome = true)
    (hadmin : Administers A ac config j.roles)
    (hrecord : j.escrow.escrow.get? escrowId = some record) (hpos : 0 < amount)
    (hcovered : amount ≤ j.escrow.escrowBalance.amount escrowId)
    (hpaid : payOut tok self record j.escrow.tokens recipient amount = .ok after)
    (hids : j.escrow.nextTxId.getD 1 + 1 < 2 ^ 64) (htime : now + 1 < 2 ^ 64)
    (hglobal : ∀ global ∈ j.escrow.globalExecutions, ∀ t ∈ global, t + 1 < now)
    (hown : ∀ t ∈ recipientLog j.escrow recipient, t + 1 < now) :
    ∃ j', Joint.RunBy tok self ac A j j' ∧ j'.escrow.tokens = after ∧
      j'.escrow.escrowBalance.amount escrowId =
        j.escrow.escrowBalance.amount escrowId - amount ∧
      ∃ tx, j'.escrow.transaction.get? (j.escrow.nextTxId.getD 1) = some tx ∧
        tx.executed = true ∧ tx.recipient = recipient ∧ tx.amount = amount := by
  have hconfigured := joint_configured hreached
  have hi := AccessControl.initialized_of_run (joint_runs hreached).2 hflag
  obtain ⟨global, hlog⟩ := Option.isSome_iff_exists.mp (hconfigured.logged (by rw [hconfig]; rfl))
  have hcount : 1 ≤ config.signerCount :=
    le_trans (hconfigured.settings config hconfig).1 (hconfigured.settings config hconfig).2
  have hrange : I128.InRange (j.escrow.escrowBalance.amount escrowId - amount) :=
    (hconfigured.ranged escrowId).of_le (by omega) (by omega)
  obtain ⟨roles, hbecome, x, hx, hisAdmin⟩ :
      ∃ roles, Joint.RunBy tok self ac A j ⟨j.escrow, roles⟩ ∧
        ∃ x ∈ A, ∀ env, isAdmin (Joint.ledger ac env roles) config x = .ok true :=
    exists_admin hadmin hi
  have hopen := hbecome.trans (steps_opened hx hconfig hcount hisAdmin)
  have hsubmit := tail_call now (.submitTransaction x escrowId recipient amount) hopen hx
    (map_ok.mpr ⟨_, submit_ok rfl hisAdmin hrecord hpos hcovered hids, rfl⟩)
  have hexecute := tail_call now (.executeTransaction (j.escrow.nextTxId.getD 1)) hsubmit hx
    (execute_ok rfl (Store.get?_set_self _ _ _) ⟨rfl, rfl⟩ rfl (List.cons_ne_nil _ _) hlog
      (hglobal global hlog) hown htime hrecord hcovered hrange hpaid)
  exact ⟨_, hexecute, rfl, (Store.amount_set ..).trans (if_pos rfl), _, Store.get?_set_self ..,
    rfl, rfl, rfl⟩

open Sample in
/-- Erin only holds a role that administers the Admin role, and takes everything. -/
theorem coalition_takes_above :
    ∃ j, Joint.Reachable asset contract accessContract (Balances.issue [(usdc, dave, 10 ^ 6)]) j ∧
      hasRole j.roles .admin ⟨8⟩ = false ∧ isSigner j.escrow ⟨8⟩ = false ∧
      ∃ j', Joint.RunBy asset contract accessContract {⟨8⟩} j j' ∧
        j.escrow.escrowBalance.amount 1 = 1000 ∧ j'.escrow.escrowBalance.amount 1 = 0 := by
  let calls : List (Joint.Act Balances) := delegated ++ [
    .roles (AccessControl.signedBy admin) (.grantRole .governance ⟨8⟩ admin),
    .roles (AccessControl.signedBy admin) (.setRoleAdmin .admin .governance admin)]
  have h : After (fun j : Joint Balances =>
      (∃ config ∈ j.escrow.config, config.accessControl = some accessContract) ∧
      j.roles.initialized.isSome = true ∧ j.roles.roleAdmin.get? .admin = some .governance ∧
      hasRole j.roles .governance ⟨8⟩ = true ∧ hasRole j.roles .admin ⟨8⟩ = false ∧
      isSigner j.escrow ⟨8⟩ = false ∧ (∃ record ∈ j.escrow.escrow.get? 1, record.isNative = true) ∧
      j.escrow.escrowBalance.amount 1 = 1000 ∧ j.escrow.nextTxId = some 2 ∧
      j.escrow.globalExecutions = some [] ∧ recipientLog j.escrow ⟨8⟩ = [])
      (execute (Joint.next asset contract accessContract) calls
        (Joint.deployed (Balances.issue [(usdc, dave, 10 ^ 6)]))) := by
    decide +kernel
  obtain ⟨j, hj, ⟨config, hconfig, hlink⟩, hflag, hchain, hholds, hnot, hsigner, ⟨record, hrecord,
    hnative⟩, hbalance, hids, hlog, hown⟩ := h.exists_ok
  have hreached : Joint.Reachable asset contract accessContract _ j :=
    execute_steps _ (fun _ _ _ => trivial) hj
  have habove : j.roles.hierarchy.admin .admin = .governance := by
    simp [AccessControl.State.hierarchy, hchain]
  have hreach : Reaches {⟨8⟩} j.roles .admin :=
    ⟨0, ⟨8⟩, rfl, by rw [habove]; exact hholds⟩
  obtain ⟨j', hrun, -, hleft, -⟩ := coalition_takes {⟨8⟩} 1 ⟨8⟩ 1000 2 hreached hconfig hflag
    (.inr ⟨hlink, .inr hreach⟩) hrecord (by decide) (by rw [hbalance]) (if_pos hnative)
    (by rw [hids]; decide) (by decide) (by simp [hlog]) (by simp [hown])
  exact ⟨j, hreached, hnot, hsigner, j', hrun, hbalance, by rw [hleft, hbalance]; rfl⟩

end Escrow
