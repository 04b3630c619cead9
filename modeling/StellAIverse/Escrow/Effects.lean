import StellAIverse.Escrow.Contract

/-!
# What each call does

Every completed invocation is one of the effects below, with the guards it
passed.
-/

namespace Escrow

open Soroban

variable {τ : Type}

theorem tryIndexOf_some {vec : List Address} {item : Address} {i : ℕ}
    (h : tryIndexOf vec item = some i) : vec.eraseIdx i = vec.erase item := by
  unfold tryIndexOf at h
  induction vec generalizing i with
  | nil => cases h
  | cons a rest ih =>
    rw [List.findIdx?_cons] at h
    by_cases ha : a = item
    · simp only [ha, decide_true, if_true, Option.some.injEq] at h
      subst h ha
      simp
    · simp only [ha, decide_false, Bool.false_eq_true, if_false] at h
      cases hrest : rest.findIdx? (· = item) with
      | none =>
        rw [hrest] at h
        cases h
      | some j =>
        rw [hrest] at h
        cases h
        rw [List.eraseIdx_cons_succ, ih hrest, List.erase_cons_tail (by simpa using ha)]

theorem not_contains {vec : List Address} {item : Address} (h : ¬ contains vec item = true) :
    item ∉ vec := by
  intro hmem
  apply h
  unfold contains tryIndexOf
  rw [List.findIdx?_isSome, List.any_eq_true]
  exact ⟨item, hmem, decide_eq_true rfl⟩

theorem requireAdmin_bind {env : Ledger} {config : EscrowConfig} {who : Address} {β : Type}
    {f : Unit → Result β} {r : β} (h : (requireAdmin env config who >>= f) = .ok r) :
    f () = .ok r := by
  obtain ⟨⟨⟩, -, h⟩ := bind_ok.mp h
  exact h

theorem requireSigner_bind {env : Ledger} {s : State τ} {who : Address} {β : Type}
    {f : Unit → Result β} {r : β} (h : (requireSigner env s who >>= f) = .ok r) :
    isSigner s who = true ∧ f () = .ok r := by
  obtain ⟨⟨⟩, hsigner, h⟩ := bind_ok.mp h
  unfold requireSigner at hsigner
  obtain ⟨-, hsigner⟩ := requireAuth_bind.mp hsigner
  unfold failIf at hsigner
  split at hsigner
  · cases hsigner
  · rename_i hflag
    exact ⟨by simpa using hflag, h⟩

/-- The submitter is a signer, or accepted as an admin. -/
theorem requireSignerOrAdmin_bind {env : Ledger} {config : EscrowConfig} {s : State τ}
    {who : Address} {β : Type} {f : Unit → Result β} {r : β}
    (h : (requireSignerOrAdmin env config s who >>= f) = .ok r) :
    (isSigner s who = true ∨ isAdmin env config who = .ok true) ∧ f () = .ok r := by
  obtain ⟨⟨⟩, hallowed, h⟩ := bind_ok.mp h
  unfold requireSignerOrAdmin at hallowed
  obtain ⟨-, hallowed⟩ := requireAuth_bind.mp hallowed
  split at hallowed
  · rename_i hsigner
    exact ⟨.inl hsigner, h⟩
  · obtain ⟨admin, hadmin, hallowed⟩ := bind_ok.mp hallowed
    cases admin with
    | false => cases hallowed
    | true => exact ⟨.inr hadmin, h⟩

theorem checkRateLimits_bind {env : Ledger} {config : EscrowConfig} {s : State τ}
    {recipient : Address} {β : Type} {f : Unit → Result β} {r : β}
    (h : (checkRateLimits env config s recipient >>= f) = .ok r) :
    (∃ global, s.globalExecutions = some global ∧
      countInWindow global (env.timestamp - config.rateLimitWindow) < config.rateLimitMax) ∧
    countInWindow (recipientLog s recipient) (env.timestamp - config.rateLimitWindow) <
      config.rateLimitMax ∧ f () = .ok r := by
  obtain ⟨⟨⟩, hlimits, h⟩ := bind_ok.mp h
  unfold checkRateLimits at hlimits
  obtain ⟨global, hglobal, hlimits⟩ := expect_bind.mp hlimits
  obtain ⟨hall, hlimits⟩ := failIf_bind.mp hlimits
  unfold failIf at hlimits
  split at hlimits
  · cases hlimits
  · rename_i hown
    exact ⟨⟨global, hglobal, not_le.mp hall⟩, not_le.mp hown, h⟩

/-- Invocations that change settings only. -/
def Op.configures : Op → Bool
  | .setThreshold _ _ => true
  | .setTimelock _ _ _ => true
  | .setRateLimit _ _ _ => true
  | .pause _ => true
  | .unpause _ => true
  | _ => false

inductive Effect (tok : Token τ) (self : Address) (s : State τ) : Action τ → State τ → Prop
  | transfers (tokens : τ) : Effect tok self s (.transfers tokens) { s with tokens }
  | initializeContract (env : Ledger) (admin : Address) (signers : List Address)
      (requiredApprovals : ℕ) (settings : Settings) (config : EscrowConfig)
      (fresh : s.config = none) :
      Effect tok self s
        (.call env (.initializeContract admin signers requiredApprovals settings))
        { s with
          signer := signers.foldl (fun flags signer => flags.set signer true) s.signer
          signerList := some signers, globalExecutions := some [], nextEscrowId := some 1
          nextTxId := some 1, config := some config }
  | configure (env : Ledger) (op : Op) (config config' : EscrowConfig)
      (found : s.config = some config) (configures : op.configures = true) :
      Effect tok self s (.call env op) { s with config := some config' }
  | addSigner (env : Ledger) (caller signer : Address) (config : EscrowConfig)
      (list : List Address) (found : s.config = some config) :
      Effect tok self s (.call env (.addSigner caller signer))
        { s with
          signer := s.signer.set signer true, signerList := some (list ++ [signer])
          config := some config.withSigner }
  | removeSigner (env : Ledger) (caller signer : Address) (config : EscrowConfig)
      (list : List Address) (found : s.config = some config) :
      Effect tok self s (.call env (.removeSigner caller signer))
        { s with
          signer := s.signer.remove signer, signerList := some (list.erase signer)
          config := some { config with signerCount := config.signerCount - 1 } }
  | createEscrow (env : Ledger) (creator token : Address) (isNative : Bool) (purpose : String)
      (config : EscrowConfig) (found : s.config = some config) :
      Effect tok self s (.call env (.createEscrow creator token isNative purpose))
        { s with
          escrow := s.escrow.set (s.nextEscrowId.getD 1)
            ⟨s.nextEscrowId.getD 1, token, isNative, creator, purpose, env.timestamp, true⟩
          escrowBalance := s.escrowBalance.set (s.nextEscrowId.getD 1) 0
          nextEscrowId := some (s.nextEscrowId.getD 1 + 1) }
  | deposit (env : Ledger) (escrowId : ℕ) (depositor : Address) (amount : ℤ)
      (record : EscrowRecord) (tokens : τ) (positive : 0 < amount)
      (found : s.escrow.get? escrowId = some record)
      (paid : if record.isNative = true then tokens = s.tokens
        else tok.transfer s.tokens record.token depositor self amount = some tokens) :
      Effect tok self s (.call env (.deposit escrowId depositor amount))
        { s with
          escrowBalance := s.escrowBalance.set escrowId (s.escrowBalance.amount escrowId + amount)
          tokens }
  | submitTransaction (env : Ledger) (submitter : Address) (escrowId : ℕ) (recipient : Address)
      (amount : ℤ) (config : EscrowConfig) (record : EscrowRecord)
      (initialized : s.config = some config)
      (allowed : isSigner s submitter = true ∨ isAdmin env config submitter = .ok true)
      (positive : 0 < amount) (found : s.escrow.get? escrowId = some record) :
      Effect tok self s (.call env (.submitTransaction submitter escrowId recipient amount))
        { s with
          transaction := s.transaction.set (s.nextTxId.getD 1)
            ⟨s.nextTxId.getD 1, escrowId, recipient, amount, submitter, [submitter], env.timestamp,
              false, false, 0⟩
          nextTxId := some (s.nextTxId.getD 1 + 1) }
  | approveTransaction (env : Ledger) (signer : Address) (txId : ℕ) (tx : EscrowTransaction)
      (registered : isSigner s signer = true) (found : s.transaction.get? txId = some tx)
      (pending : tx.executed = false ∧ tx.cancelled = false) (new : signer ∉ tx.approvers) :
      Effect tok self s (.call env (.approveTransaction signer txId))
        { s with
          transaction := s.transaction.set txId
            { tx with approvers := tx.approvers ++ [signer] } }
  | revokeApproval (env : Ledger) (signer : Address) (txId : ℕ) (tx : EscrowTransaction)
      (found : s.transaction.get? txId = some tx)
      (pending : tx.executed = false ∧ tx.cancelled = false) :
      Effect tok self s (.call env (.revokeApproval signer txId))
        { s with
          transaction := s.transaction.set txId
            { tx with approvers := tx.approvers.erase signer } }
  | executeTransaction (env : Ledger) (txId : ℕ) (config : EscrowConfig) (tx : EscrowTransaction)
      (record : EscrowRecord) (tokens : τ) (global : List ℕ)
      (initialized : s.config = some config) (found : s.transaction.get? txId = some tx)
      (pending : tx.executed = false ∧ tx.cancelled = false)
      (approved : config.requiredApprovals ≤ tx.approvers.length)
      (logged : s.globalExecutions = some global)
      (underGlobal : countInWindow global (env.timestamp - config.rateLimitWindow) <
        config.rateLimitMax)
      (underRecipient : countInWindow (recipientLog s tx.recipient)
        (env.timestamp - config.rateLimitWindow) < config.rateLimitMax)
      (source : s.escrow.get? tx.escrowId = some record)
      (covered : tx.amount ≤ s.escrowBalance.amount tx.escrowId)
      (paid : if record.isNative = true then tokens = s.tokens
        else tok.transfer s.tokens record.token self tx.recipient tx.amount = some tokens) :
      Effect tok self s (.call env (.executeTransaction txId))
        (logExecution env.timestamp (env.timestamp - config.rateLimitWindow) tx.recipient global
          { s with
            escrowBalance := s.escrowBalance.set tx.escrowId
              (s.escrowBalance.amount tx.escrowId - tx.amount)
            tokens
            transaction := s.transaction.set txId
              { tx with executed := true, executedAt := env.timestamp } })
  | cancelTransaction (env : Ledger) (caller : Address) (txId : ℕ) (tx : EscrowTransaction)
      (found : s.transaction.get? txId = some tx)
      (pending : tx.executed = false ∧ tx.cancelled = false) :
      Effect tok self s (.call env (.cancelTransaction caller txId))
        { s with transaction := s.transaction.set txId { tx with cancelled := true } }
  | closeEscrow (env : Ledger) (caller : Address) (escrowId : ℕ) (record : EscrowRecord)
      (found : s.escrow.get? escrowId = some record) :
      Effect tok self s (.call env (.closeEscrow caller escrowId))
        { s with escrow := s.escrow.set escrowId { record with active := false } }

section Effects

variable {tok : Token τ} {self : Address} {env : Ledger} {s s' : State τ}

theorem initializeContract_effect {admin : Address} {signers : List Address} {required : ℕ}
    {settings : Settings} (h : initializeContract env admin signers required settings s = .ok s') :
    Effect tok self s (.call env (.initializeContract admin signers required settings)) s' := by
  unfold initializeContract at h
  obtain ⟨hfresh, h⟩ := failIf_bind.mp h
  obtain ⟨-, h⟩ := requireAuth_bind.mp h
  obtain ⟨⟨⟩, -, h⟩ := bind_ok.mp h
  obtain ⟨-, h⟩ := failIf_bind.mp h
  obtain ⟨-, h⟩ := failIf_bind.mp h
  cases h
  exact .initializeContract env admin signers required settings _ (by simpa using hfresh)

theorem addSigner_effect {caller signer : Address} (h : addSigner env caller signer s = .ok s') :
    Effect tok self s (.call env (.addSigner caller signer)) s' := by
  unfold addSigner at h
  obtain ⟨config, hconfig, h⟩ := okOr_bind.mp h
  have h := requireAdmin_bind h
  obtain ⟨-, h⟩ := failIf_bind.mp h
  obtain ⟨-, h⟩ := failIf_bind.mp h
  obtain ⟨list, -, h⟩ := expect_bind.mp h
  cases h
  exact .addSigner env caller signer config list hconfig

theorem removeSigner_effect {caller signer : Address}
    (h : removeSigner env caller signer s = .ok s') :
    Effect tok self s (.call env (.removeSigner caller signer)) s' := by
  unfold removeSigner at h
  obtain ⟨config, hconfig, h⟩ := okOr_bind.mp h
  have h := requireAdmin_bind h
  obtain ⟨-, h⟩ := failIf_bind.mp h
  obtain ⟨-, h⟩ := failIf_bind.mp h
  obtain ⟨list, -, h⟩ := expect_bind.mp h
  obtain ⟨i, hi, h⟩ := expect_bind.mp h
  cases h
  rw [tryIndexOf_some hi]
  exact .removeSigner env caller signer config list hconfig

theorem setThreshold_effect {caller : Address} {m : ℕ}
    (h : setThreshold env caller m s = .ok s') :
    Effect tok self s (.call env (.setThreshold caller m)) s' := by
  unfold setThreshold at h
  obtain ⟨config, hconfig, h⟩ := okOr_bind.mp h
  obtain ⟨-, h⟩ := failIf_bind.mp (requireAdmin_bind h)
  cases h
  exact .configure env _ config _ hconfig rfl

theorem setTimelock_effect {caller : Address} {delay gracePeriod : ℕ}
    (h : setTimelock env caller delay gracePeriod s = .ok s') :
    Effect tok self s (.call env (.setTimelock caller delay gracePeriod)) s' := by
  unfold setTimelock at h
  obtain ⟨config, hconfig, h⟩ := okOr_bind.mp h
  obtain ⟨-, h⟩ := failIf_bind.mp (requireAdmin_bind h)
  cases h
  exact .configure env _ config _ hconfig rfl

theorem setRateLimit_effect {caller : Address} {window max : ℕ}
    (h : setRateLimit env caller window max s = .ok s') :
    Effect tok self s (.call env (.setRateLimit caller window max)) s' := by
  unfold setRateLimit at h
  obtain ⟨config, hconfig, h⟩ := okOr_bind.mp h
  obtain ⟨-, h⟩ := failIf_bind.mp (requireAdmin_bind h)
  cases h
  exact .configure env _ config _ hconfig rfl

theorem setPaused_ok {paused : Bool} {caller : Address}
    (h : setPaused paused env caller s = .ok s') :
    ∃ config, s.config = some config ∧ s' = { s with config := some { config with paused } } := by
  unfold setPaused at h
  obtain ⟨config, hconfig, h⟩ := okOr_bind.mp h
  have h := requireAdmin_bind h
  cases h
  exact ⟨config, hconfig, rfl⟩

theorem createEscrow_effect {creator token : Address} {isNative : Bool} {purpose : String}
    {id : ℕ} (h : createEscrow env creator token isNative purpose s = .ok (id, s')) :
    Effect tok self s (.call env (.createEscrow creator token isNative purpose)) s' := by
  unfold createEscrow at h
  obtain ⟨config, hconfig, h⟩ := okOr_bind.mp h
  obtain ⟨-, h⟩ := failIf_bind.mp h
  obtain ⟨-, h⟩ := requireAuth_bind.mp h
  obtain ⟨-, h⟩ := U64.add_bind.mp h
  cases h
  exact .createEscrow env creator token isNative purpose config hconfig

theorem deposit_effect {escrowId : ℕ} {depositor : Address} {amount : ℤ}
    (h : deposit tok self env escrowId depositor amount s = .ok s') :
    Effect tok self s (.call env (.deposit escrowId depositor amount)) s' := by
  unfold deposit at h
  obtain ⟨-, h⟩ := requireAuth_bind.mp h
  obtain ⟨hmin, h⟩ := failIf_bind.mp h
  obtain ⟨record, hrecord, h⟩ := okOr_bind.mp h
  obtain ⟨-, h⟩ := failIf_bind.mp h
  obtain ⟨-, h⟩ := I128.add_bind.mp h
  have hpos : 0 < amount := by
    unfold minAmount at hmin
    omega
  split at h
  · rename_i hnative
    cases h
    exact .deposit env escrowId depositor amount record _ hpos hrecord (by rw [if_pos hnative])
  · rename_i htoken
    obtain ⟨tokens, hpaid, h⟩ := (Token.pay_bind _).mp h
    cases h
    refine .deposit env escrowId depositor amount record _ hpos hrecord ?_
    rw [if_neg htoken]
    exact hpaid

theorem submitTransaction_effect {submitter recipient : Address} {escrowId id : ℕ} {amount : ℤ}
    (h : submitTransaction env submitter escrowId recipient amount s = .ok (id, s')) :
    Effect tok self s (.call env (.submitTransaction submitter escrowId recipient amount)) s' := by
  unfold submitTransaction at h
  obtain ⟨config, hconfig, h⟩ := okOr_bind.mp h
  obtain ⟨-, h⟩ := failIf_bind.mp h
  obtain ⟨hallowed, h⟩ := requireSignerOrAdmin_bind h
  obtain ⟨hmin, h⟩ := failIf_bind.mp h
  obtain ⟨record, hrecord, h⟩ := okOr_bind.mp h
  obtain ⟨-, h⟩ := failIf_bind.mp h
  obtain ⟨-, h⟩ := U64.add_bind.mp h
  cases h
  have hpos : 0 < amount := by
    unfold minAmount at hmin
    omega
  exact .submitTransaction env submitter escrowId recipient amount config record hconfig hallowed
    hpos hrecord

theorem approveTransaction_effect {signer : Address} {txId : ℕ}
    (h : approveTransaction env signer txId s = .ok s') :
    Effect tok self s (.call env (.approveTransaction signer txId)) s' := by
  unfold approveTransaction at h
  obtain ⟨-, -, h⟩ := okOr_bind.mp h
  obtain ⟨hsigner, h⟩ := requireSigner_bind h
  obtain ⟨tx, hfound, h⟩ := okOr_bind.mp h
  obtain ⟨hexecuted, h⟩ := failIf_bind.mp h
  obtain ⟨hcancelled, h⟩ := failIf_bind.mp h
  obtain ⟨hnew, h⟩ := failIf_bind.mp h
  cases h
  exact .approveTransaction env signer txId tx hsigner hfound
    ⟨by simpa using hexecuted, by simpa using hcancelled⟩ (not_contains hnew)

theorem revokeApproval_effect {signer : Address} {txId : ℕ}
    (h : revokeApproval env signer txId s = .ok s') :
    Effect tok self s (.call env (.revokeApproval signer txId)) s' := by
  unfold revokeApproval at h
  obtain ⟨-, -, h⟩ := okOr_bind.mp h
  obtain ⟨-, h⟩ := requireSigner_bind h
  obtain ⟨tx, hfound, h⟩ := okOr_bind.mp h
  obtain ⟨hpending, h⟩ := failIf_bind.mp h
  obtain ⟨i, hi, h⟩ := okOr_bind.mp h
  cases h
  rw [tryIndexOf_some hi]
  exact .revokeApproval env signer txId tx hfound (by simpa using hpending)

theorem executeTransaction_effect {txId : ℕ}
    (h : executeTransaction tok self env txId s = .ok s') :
    Effect tok self s (.call env (.executeTransaction txId)) s' := by
  unfold executeTransaction at h
  obtain ⟨config, hconfig, h⟩ := okOr_bind.mp h
  obtain ⟨-, h⟩ := failIf_bind.mp h
  obtain ⟨tx, hfound, h⟩ := okOr_bind.mp h
  obtain ⟨hexecuted, h⟩ := failIf_bind.mp h
  obtain ⟨hcancelled, h⟩ := failIf_bind.mp h
  obtain ⟨happroved, h⟩ := failIf_bind.mp h
  obtain ⟨⟨⟩, -, h⟩ := bind_ok.mp h
  obtain ⟨⟨global, hlogged, hglobal⟩, hrecipient, h⟩ := checkRateLimits_bind h
  obtain ⟨record, hrecord, h⟩ := okOr_bind.mp h
  obtain ⟨hcovered, h⟩ := failIf_bind.mp h
  obtain ⟨-, h⟩ := I128.sub_bind.mp h
  obtain ⟨tokens, hpaid, h⟩ := bind_ok.mp h
  obtain ⟨global', hlogged', h⟩ := expect_bind.mp h
  obtain rfl : global = global' := Option.some.inj (hlogged.symm.trans hlogged')
  cases h
  refine .executeTransaction env txId config tx record tokens global hconfig hfound
    ⟨by simpa using hexecuted, by simpa using hcancelled⟩ (not_lt.mp happroved) hlogged hglobal
    hrecipient hrecord (not_lt.mp hcovered) ?_
  unfold payOut at hpaid
  split at hpaid
  · rename_i hnative
    cases hpaid
    rw [if_pos hnative]
  · rename_i htoken
    rw [if_neg htoken]
    exact (Token.pay_ok _).mp hpaid

theorem cancelTransaction_effect {caller : Address} {txId : ℕ}
    (h : cancelTransaction env caller txId s = .ok s') :
    Effect tok self s (.call env (.cancelTransaction caller txId)) s' := by
  unfold cancelTransaction at h
  obtain ⟨-, h⟩ := requireAuth_bind.mp h
  obtain ⟨config, -, h⟩ := okOr_bind.mp h
  obtain ⟨tx, hfound, h⟩ := okOr_bind.mp h
  obtain ⟨hexecuted, h⟩ := failIf_bind.mp h
  obtain ⟨hcancelled, h⟩ := failIf_bind.mp h
  obtain ⟨admin, -, h⟩ := bind_ok.mp h
  obtain ⟨-, h⟩ := failIf_bind.mp h
  cases h
  exact .cancelTransaction env caller txId tx hfound
    ⟨by simpa using hexecuted, by simpa using hcancelled⟩

theorem closeEscrow_effect {caller : Address} {escrowId : ℕ}
    (h : closeEscrow env caller escrowId s = .ok s') :
    Effect tok self s (.call env (.closeEscrow caller escrowId)) s' := by
  unfold closeEscrow at h
  obtain ⟨config, -, h⟩ := okOr_bind.mp h
  have h := requireAdmin_bind h
  obtain ⟨record, hrecord, h⟩ := okOr_bind.mp h
  cases h
  exact .closeEscrow env caller escrowId record hrecord

theorem next_effect {a : Action τ} (h : next tok self a s = .ok s') : Effect tok self s a s' := by
  cases a with
  | transfers tokens =>
    cases h
    exact .transfers tokens
  | call env op =>
    cases op with
    | initializeContract admin signers required settings => exact initializeContract_effect h
    | addSigner caller signer => exact addSigner_effect h
    | removeSigner caller signer => exact removeSigner_effect h
    | setThreshold caller m => exact setThreshold_effect h
    | setTimelock caller delay gracePeriod => exact setTimelock_effect h
    | setRateLimit caller window max => exact setRateLimit_effect h
    | pause caller =>
      obtain ⟨config, hconfig, rfl⟩ := setPaused_ok h
      exact .configure env _ config _ hconfig rfl
    | unpause caller =>
      obtain ⟨config, hconfig, rfl⟩ := setPaused_ok h
      exact .configure env _ config _ hconfig rfl
    | createEscrow creator token isNative purpose =>
      obtain ⟨⟨id, s₁⟩, hcall, rfl⟩ := map_ok.mp h
      exact createEscrow_effect hcall
    | deposit escrowId depositor amount => exact deposit_effect h
    | submitTransaction submitter escrowId recipient amount =>
      obtain ⟨⟨id, s₁⟩, hcall, rfl⟩ := map_ok.mp h
      exact submitTransaction_effect hcall
    | approveTransaction signer txId => exact approveTransaction_effect h
    | revokeApproval signer txId => exact revokeApproval_effect h
    | executeTransaction txId => exact executeTransaction_effect h
    | cancelTransaction caller txId => exact cancelTransaction_effect h
    | closeEscrow caller escrowId => exact closeEscrow_effect h

end Effects

end Escrow
