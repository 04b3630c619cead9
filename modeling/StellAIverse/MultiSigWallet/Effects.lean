import StellAIverse.MultiSigWallet.Contract

/-!
# What each call does

Every completed invocation is one of the effects below, with the guards it
passed.
-/

namespace MultiSigWallet

open Soroban

variable {τ : Type}

theorem removeAddress_eq (needle : Address) (addresses : List Address) :
    removeAddress needle addresses = (decide (needle ∈ addresses), addresses.erase needle) := by
  induction addresses with
  | nil => rfl
  | cons address rest ih =>
    unfold removeAddress
    by_cases h : address = needle
    · simp [h]
    · rw [if_neg h, ih]
      simp [h, Ne.symm h]

theorem not_vecContainsAddress {addresses : List Address} {needle : Address}
    (h : ¬ vecContainsAddress addresses needle = true) : needle ∉ addresses := by
  intro hmem
  apply h
  unfold vecContainsAddress
  rw [List.any_eq_true]
  exact ⟨needle, hmem, decide_eq_true rfl⟩

section Checks

variable {s : State τ} {who : Address} {txId : ℕ} {β : Type} {r : β}

theorem assertAdmin_bind {f : Unit → Result β} (h : (assertAdmin s who >>= f) = .ok r) :
    f () = .ok r := by
  obtain ⟨⟨⟩, -, h⟩ := bind_ok.mp h
  exact h

theorem assertSigner_bind {f : Unit → Result β} (h : (assertSigner s who >>= f) = .ok r) :
    isSignerInner s who = true ∧ f () = .ok r := by
  obtain ⟨hsigner, h⟩ := panicIf_bind.mp h
  exact ⟨by simpa using hsigner, h⟩

theorem loadTransaction_bind {f : WalletTransaction → Result β} :
    (loadTransaction s txId >>= f) = .ok r ↔
      txId ≠ 0 ∧ ∃ tx, s.transaction.get? txId = some tx ∧ f tx = .ok r := by
  unfold loadTransaction
  simp only [bind_assoc, panicIf_bind, expect_bind]

/-- What is stored as the confirmations of a transaction. -/
def confirmedBy (s : State τ) (txId : ℕ) : List Address := (s.confirmations.get? txId).getD []

theorem confirmations_bind {f : List Address → Result β}
    (h : (confirmations s txId >>= f) = .ok r) : f (confirmedBy s txId) = .ok r := by
  obtain ⟨confirmed, hconfirmed, h⟩ := bind_ok.mp h
  obtain ⟨-, -, -, hsome⟩ := loadTransaction_bind.mp hconfirmed
  cases hsome
  exact h

end Checks

/-- What has been spent after a transaction, which is within the limit unless the
recipient is exempt. -/
def Spends (env : Env) (config : WalletConfig) (tx : WalletTransaction) (s : State τ)
    (dailySpent : Store (Address × ℕ) ℤ) : Prop :=
  if isWhitelistedInner s tx.recipient = true then dailySpent = s.dailySpent
  else
    s.dailySpent.amount (tx.token, env.timestamp / daySeconds) + tx.amount ≤ config.dailyLimit ∧
    dailySpent = s.dailySpent.set (tx.token, env.timestamp / daySeconds)
      (s.dailySpent.amount (tx.token, env.timestamp / daySeconds) + tx.amount)

theorem applyDailyLimit_ok {env : Env} {config : WalletConfig} {tx : WalletTransaction}
    {s s' : State τ} (hconfig : s.config = some config) (h : applyDailyLimit env tx s = .ok s') :
    ∃ dailySpent, Spends env config tx s dailySpent ∧ s' = { s with dailySpent } := by
  unfold applyDailyLimit at h
  unfold Spends
  split at h
  · rename_i hexempt
    cases h
    exact ⟨s.dailySpent, by rw [if_pos hexempt], rfl⟩
  · rename_i hlimited
    obtain ⟨config', hconfig', h⟩ := expect_bind.mp h
    obtain rfl : config = config' := Option.some.inj (hconfig.symm.trans hconfig')
    obtain ⟨-, h⟩ := I128.checked_bind.mp h
    obtain ⟨hlimit, h⟩ := panicIf_bind.mp h
    cases h
    refine ⟨_, ?_, rfl⟩
    rw [if_neg hlimited]
    exact ⟨not_lt.mp hlimit, rfl⟩

inductive Effect (tok : Token τ) (self : Address) (s : State τ) : Action τ → State τ → Prop
  | transfers (tokens : τ) : Effect tok self s (.transfers tokens) { s with tokens }
  | initializeContract (env : Env) (admin : Address) (signers : List Address) (required : ℕ)
      (dailyLimit : ℤ) (fresh : s.config = none) (few : signers.length ≤ maxSigners)
      (quorum : 1 ≤ required ∧ required ≤ signers.length) (distinct : signers.Nodup) :
      Effect tok self s (.call env (.initializeContract admin signers required dailyLimit))
        { s with
          signer := signers.foldl (fun flags signer => flags.set signer true) s.signer
          signerList := some signers, executionHistory := some [], reentrancyLock := false
          config := some ⟨admin, required, signers.length, dailyLimit, 1, 1, 1⟩ }
  | deposit (env : Env) (depositor token : Address) (amount : ℤ) (tokens : τ) :
      Effect tok self s (.call env (.deposit depositor token amount))
        { s with tokens, reentrancyLock := false }
  | submitTransaction (env : Env) (signer token recipient : Address) (amount : ℤ) (memo : String)
      (config : WalletConfig) (registered : isSignerInner s signer = true)
      (initialized : s.config = some config) :
      Effect tok self s (.call env (.submitTransaction signer token recipient amount memo))
        { s with
          transaction := s.transaction.set config.nextTxId
            ⟨config.nextTxId, config.nextNonce, token, recipient, amount, signer, false,
              env.timestamp, 0, memo⟩
          confirmations := s.confirmations.set config.nextTxId [signer]
          config := some { config with
            nextTxId := config.nextTxId + 1, nextNonce := config.nextNonce + 1 } }
  | confirmTransaction (env : Env) (signer : Address) (txId : ℕ) (tx : WalletTransaction)
      (registered : isSignerInner s signer = true) (found : s.transaction.get? txId = some tx)
      (new : signer ∉ confirmedBy s txId) :
      Effect tok self s (.call env (.confirmTransaction signer txId))
        { s with confirmations := s.confirmations.set txId (confirmedBy s txId ++ [signer]) }
  | revokeConfirmation (env : Env) (signer : Address) (txId : ℕ) (tx : WalletTransaction)
      (found : s.transaction.get? txId = some tx) :
      Effect tok self s (.call env (.revokeConfirmation signer txId))
        { s with confirmations := s.confirmations.set txId ((confirmedBy s txId).erase signer) }
  | executeTransaction (env : Env) (signer : Address) (txId : ℕ) (config : WalletConfig)
      (tx : WalletTransaction) (dailySpent : Store (Address × ℕ) ℤ) (tokens : τ)
      (initialized : s.config = some config) (found : s.transaction.get? txId = some tx)
      (pending : tx.executed = false) (turn : tx.nonce = config.nextExecutableNonce)
      (confirmed : config.requiredConfirmations ≤ activeConfirmationCount s (confirmedBy s txId))
      (spends : Spends env config tx s dailySpent)
      (paid : tok.transfer s.tokens tx.token self tx.recipient tx.amount = some tokens) :
      Effect tok self s (.call env (.executeTransaction signer txId))
        { s with
          transaction := s.transaction.set txId
            { tx with executed := true, executedAt := env.timestamp }
          config := some { config with nextExecutableNonce := config.nextExecutableNonce + 1 }
          executionHistory := some (historyIds s ++ [txId]), dailySpent, tokens
          reentrancyLock := false }
  | addSigner (env : Env) (admin newSigner : Address) (config : WalletConfig)
      (initialized : s.config = some config) (new : isSignerInner s newSigner = false)
      (room : (signerList s).length < maxSigners) :
      Effect tok self s (.call env (.addSigner admin newSigner))
        { s with
          signer := s.signer.set newSigner true
          signerList := some (signerList s ++ [newSigner])
          config := some { config with signerCount := (signerList s ++ [newSigner]).length } }
  | removeSigner (env : Env) (admin signer : Address) (config : WalletConfig)
      (initialized : s.config = some config) (registered : isSignerInner s signer = true)
      (quorum : config.requiredConfirmations ≤ ((signerList s).erase signer).length) :
      Effect tok self s (.call env (.removeSigner admin signer))
        { s with
          signer := s.signer.set signer false
          signerList := some ((signerList s).erase signer)
          config := some { config with signerCount := ((signerList s).erase signer).length } }
  | changeRequirement (env : Env) (admin : Address) (required : ℕ) (config : WalletConfig)
      (initialized : s.config = some config)
      (quorum : 1 ≤ required ∧ required ≤ config.signerCount) :
      Effect tok self s (.call env (.changeRequirement admin required))
        { s with config := some { config with requiredConfirmations := required } }
  | setDailyLimit (env : Env) (admin : Address) (dailyLimit : ℤ) (config : WalletConfig)
      (initialized : s.config = some config) :
      Effect tok self s (.call env (.setDailyLimit admin dailyLimit))
        { s with config := some { config with dailyLimit } }
  | setWhitelist (env : Env) (admin recipient : Address) (allowed : Bool) :
      Effect tok self s (.call env (.setWhitelist admin recipient allowed))
        { s with whitelist := s.whitelist.set recipient allowed }

section Effects

variable {tok : Token τ} {self : Address} {env : Env} {s s' : State τ}

theorem initializeContract_effect {admin : Address} {signers : List Address} {required : ℕ}
    {dailyLimit : ℤ}
    (h : initializeContract env admin signers required dailyLimit s = .ok s') :
    Effect tok self s (.call env (.initializeContract admin signers required dailyLimit)) s' := by
  unfold initializeContract at h
  obtain ⟨hfresh, h⟩ := panicIf_bind.mp h
  obtain ⟨-, h⟩ := requireAuth_bind.mp h
  obtain ⟨-, h⟩ := panicIf_bind.mp h
  obtain ⟨⟨⟩, hvalid, h⟩ := bind_ok.mp h
  unfold validateSignerSet at hvalid
  obtain ⟨-, hvalid⟩ := panicIf_bind.mp hvalid
  obtain ⟨hfew, hvalid⟩ := panicIf_bind.mp hvalid
  obtain ⟨hquorum, hvalid⟩ := panicIf_bind.mp hvalid
  have hdistinct := panicIf_ok hvalid
  cases h
  exact .initializeContract env admin signers required dailyLimit (by simpa using hfresh)
    (not_lt.mp hfew) (by omega) (not_not.mp hdistinct)

theorem transferToken_ok {token source target : Address} {amount : ℤ}
    (h : transferToken tok s token source target amount = .ok s') :
    ∃ tokens, tok.transfer s.tokens token source target amount = some tokens ∧
      s' = { s with tokens, reentrancyLock := false } := by
  unfold transferToken at h
  obtain ⟨-, h⟩ := panicIf_bind.mp h
  obtain ⟨tokens, hpaid, h⟩ := (Token.pay_bind _).mp h
  cases h
  exact ⟨tokens, hpaid, rfl⟩

theorem deposit_effect {depositor token : Address} {amount : ℤ}
    (h : deposit tok self env depositor token amount s = .ok s') :
    Effect tok self s (.call env (.deposit depositor token amount)) s' := by
  unfold deposit at h
  obtain ⟨-, h⟩ := requireAuth_bind.mp h
  obtain ⟨-, h⟩ := panicIf_bind.mp h
  obtain ⟨tokens, -, rfl⟩ := transferToken_ok h
  exact .deposit env depositor token amount tokens

theorem submitTransaction_effect {signer token recipient : Address} {amount : ℤ} {memo : String}
    {id : ℕ} (h : submitTransaction env signer token recipient amount memo s = .ok (id, s')) :
    Effect tok self s (.call env (.submitTransaction signer token recipient amount memo)) s' := by
  unfold submitTransaction at h
  obtain ⟨-, h⟩ := requireAuth_bind.mp h
  obtain ⟨hsigner, h⟩ := assertSigner_bind h
  obtain ⟨-, h⟩ := panicIf_bind.mp h
  obtain ⟨-, h⟩ := panicIf_bind.mp h
  obtain ⟨config, hconfig, h⟩ := expect_bind.mp h
  obtain ⟨-, h⟩ := U64.checked_bind.mp h
  obtain ⟨-, h⟩ := U64.checked_bind.mp h
  cases h
  exact .submitTransaction env signer token recipient amount memo config hsigner hconfig

theorem confirmTransaction_effect {signer : Address} {txId count : ℕ}
    (h : confirmTransaction env signer txId s = .ok (count, s')) :
    Effect tok self s (.call env (.confirmTransaction signer txId)) s' := by
  unfold confirmTransaction at h
  obtain ⟨-, h⟩ := requireAuth_bind.mp h
  obtain ⟨hsigner, h⟩ := assertSigner_bind h
  obtain ⟨-, tx, hfound, h⟩ := loadTransaction_bind.mp h
  obtain ⟨-, h⟩ := panicIf_bind.mp h
  obtain ⟨hnew, h⟩ := panicIf_bind.mp (confirmations_bind h)
  cases h
  exact .confirmTransaction env signer txId tx hsigner hfound (not_vecContainsAddress hnew)

theorem revokeConfirmation_effect {signer : Address} {txId count : ℕ}
    (h : revokeConfirmation env signer txId s = .ok (count, s')) :
    Effect tok self s (.call env (.revokeConfirmation signer txId)) s' := by
  unfold revokeConfirmation at h
  obtain ⟨-, h⟩ := requireAuth_bind.mp h
  obtain ⟨-, h⟩ := assertSigner_bind h
  obtain ⟨-, tx, hfound, h⟩ := loadTransaction_bind.mp h
  obtain ⟨-, h⟩ := panicIf_bind.mp h
  obtain ⟨-, h⟩ := panicIf_bind.mp (confirmations_bind h)
  cases h
  rw [removeAddress_eq]
  exact .revokeConfirmation env signer txId tx hfound

theorem executeTransaction_effect {signer : Address} {txId : ℕ} {receipt : ExecutionReceipt}
    (h : executeTransaction tok self env signer txId s = .ok (receipt, s')) :
    Effect tok self s (.call env (.executeTransaction signer txId)) s' := by
  unfold executeTransaction at h
  obtain ⟨-, h⟩ := requireAuth_bind.mp h
  obtain ⟨-, h⟩ := assertSigner_bind h
  obtain ⟨config, hconfig, h⟩ := expect_bind.mp h
  obtain ⟨-, tx, hfound, h⟩ := loadTransaction_bind.mp h
  obtain ⟨hpending, h⟩ := panicIf_bind.mp h
  obtain ⟨hturn, h⟩ := panicIf_bind.mp h
  obtain ⟨hconfirmed, h⟩ := panicIf_bind.mp (confirmations_bind h)
  obtain ⟨s₁, hlimit, h⟩ := bind_ok.mp h
  obtain ⟨-, h⟩ := U64.checked_bind.mp h
  obtain ⟨s₂, hpay, h⟩ := bind_ok.mp h
  obtain ⟨dailySpent, hspends, rfl⟩ := applyDailyLimit_ok hconfig hlimit
  obtain ⟨tokens, hpaid, rfl⟩ := transferToken_ok hpay
  cases h
  exact .executeTransaction env signer txId config tx dailySpent tokens hconfig hfound
    (by simpa using hpending) (not_not.mp hturn) (not_lt.mp hconfirmed) hspends hpaid

theorem addSigner_effect {admin newSigner : Address}
    (h : addSigner env admin newSigner s = .ok s') :
    Effect tok self s (.call env (.addSigner admin newSigner)) s' := by
  unfold addSigner at h
  obtain ⟨-, h⟩ := requireAuth_bind.mp h
  obtain ⟨hnew, h⟩ := panicIf_bind.mp (assertAdmin_bind h)
  obtain ⟨hroom, h⟩ := panicIf_bind.mp h
  obtain ⟨config, hconfig, h⟩ := expect_bind.mp h
  cases h
  exact .addSigner env admin newSigner config hconfig (by simpa using hnew) (not_le.mp hroom)

theorem removeSigner_effect {admin signer : Address}
    (h : removeSigner env admin signer s = .ok s') :
    Effect tok self s (.call env (.removeSigner admin signer)) s' := by
  unfold removeSigner at h
  rw [removeAddress_eq] at h
  obtain ⟨-, h⟩ := requireAuth_bind.mp h
  obtain ⟨hsigner, h⟩ := panicIf_bind.mp (assertAdmin_bind h)
  obtain ⟨-, h⟩ := panicIf_bind.mp h
  obtain ⟨config, hconfig, h⟩ := expect_bind.mp h
  obtain ⟨hquorum, h⟩ := panicIf_bind.mp h
  cases h
  exact .removeSigner env admin signer config hconfig (by simpa using hsigner) (not_lt.mp hquorum)

theorem changeRequirement_effect {admin : Address} {required : ℕ}
    (h : changeRequirement env admin required s = .ok s') :
    Effect tok self s (.call env (.changeRequirement admin required)) s' := by
  unfold changeRequirement at h
  obtain ⟨-, h⟩ := requireAuth_bind.mp h
  obtain ⟨config, hconfig, h⟩ := expect_bind.mp (assertAdmin_bind h)
  obtain ⟨hquorum, h⟩ := panicIf_bind.mp h
  cases h
  exact .changeRequirement env admin required config hconfig (by omega)

theorem setDailyLimit_effect {admin : Address} {dailyLimit : ℤ}
    (h : setDailyLimit env admin dailyLimit s = .ok s') :
    Effect tok self s (.call env (.setDailyLimit admin dailyLimit)) s' := by
  unfold setDailyLimit at h
  obtain ⟨-, h⟩ := requireAuth_bind.mp h
  obtain ⟨-, h⟩ := panicIf_bind.mp (assertAdmin_bind h)
  obtain ⟨config, hconfig, h⟩ := expect_bind.mp h
  cases h
  exact .setDailyLimit env admin dailyLimit config hconfig

theorem setWhitelist_effect {admin recipient : Address} {allowed : Bool}
    (h : setWhitelist env admin recipient allowed s = .ok s') :
    Effect tok self s (.call env (.setWhitelist admin recipient allowed)) s' := by
  unfold setWhitelist at h
  obtain ⟨-, h⟩ := requireAuth_bind.mp h
  have h := assertAdmin_bind h
  cases h
  exact .setWhitelist env admin recipient allowed

theorem next_effect {a : Action τ} (h : next tok self a s = .ok s') : Effect tok self s a s' := by
  cases a with
  | transfers tokens =>
    cases h
    exact .transfers tokens
  | call env op =>
    cases op with
    | initializeContract admin signers required dailyLimit => exact initializeContract_effect h
    | deposit depositor token amount => exact deposit_effect h
    | submitTransaction signer token recipient amount memo =>
      obtain ⟨⟨id, s₁⟩, hcall, rfl⟩ := map_ok.mp h
      exact submitTransaction_effect hcall
    | confirmTransaction signer txId =>
      obtain ⟨⟨count, s₁⟩, hcall, rfl⟩ := map_ok.mp h
      exact confirmTransaction_effect hcall
    | revokeConfirmation signer txId =>
      obtain ⟨⟨count, s₁⟩, hcall, rfl⟩ := map_ok.mp h
      exact revokeConfirmation_effect hcall
    | executeTransaction signer txId =>
      obtain ⟨⟨receipt, s₁⟩, hcall, rfl⟩ := map_ok.mp h
      exact executeTransaction_effect hcall
    | addSigner admin newSigner => exact addSigner_effect h
    | removeSigner admin signer => exact removeSigner_effect h
    | changeRequirement admin required => exact changeRequirement_effect h
    | setDailyLimit admin dailyLimit => exact setDailyLimit_effect h
    | setWhitelist admin recipient allowed => exact setWhitelist_effect h

end Effects

end MultiSigWallet
