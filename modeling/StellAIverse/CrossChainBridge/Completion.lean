import StellAIverse.CrossChainBridge.Validators

/-!
# Completing a transfer

A transfer is accepted for another chain and completed on the chain it is for.
Both calls ask the one chain that the contract was initialized with, and only
accepted transfers are stored, so the two checks exclude each other.
-/

namespace CrossChainBridge

open Soroban

variable {τ : Type} {tok : MintToken τ} {host : Host} {self : Address} {s s' : State τ}
  {a : Action τ} {log : List (State τ × Action τ)}

/-- Every stored transfer is for another chain than the contract's. -/
def Abroad (s : State τ) : Prop :=
  ∀ id transfer, s.transfer.get? id = some transfer →
    ∃ chain, s.chainId = some chain ∧ chain ≠ transfer.destinationChain

theorem abroad_step (h : Abroad s) (hfresh : Fresh s) (heffect : Effect tok self s a s') :
    Abroad s' := by
  cases heffect with
  | initializeContract env admin chainId signatureConfig feeConfig rateLimitConfig fresh =>
    -- The chain is written once, while nothing is stored.
    intro id transfer hfound
    rw [hfresh fresh] at hfound
    cases hfound
  | initiateTransfer env destinationChain recipient tokenAddress amount nonce sender token
      sourceChain limits rates rates' config fee tokens supported chain abroad =>
    exact Store.forall_set h ⟨sourceChain, chain, abroad⟩
  | completeTransfer env transferId signatures transfer token recipient status tokens found =>
    exact Store.forall_set h (h transferId transfer found)
  | _ => exact h

theorem history_abroad {ok : List (State τ × Action τ) → State τ → Action τ → Prop} {start : τ}
    (hrun : History (next tok host self) ok (deployed start) log s) : Abroad s :=
  run_preserves (P := fun _ s => Abroad s) hrun (fun _ _ hfound => (by cases hfound))
    fun _ _ _ _ hfresh _ heffect h => abroad_step h hfresh heffect

/-- The list names each validator once. -/
structure Listed (s : State τ) : Prop where
  nodup : (s.validatorList.getD []).Nodup
  stored : ∀ who ∈ s.validatorList.getD [], (s.validator.get? who).isSome = true

theorem listed_step (h : Listed s) (heffect : Effect tok self s a s') : Listed s' := by
  cases heffect with
  | initializeContract => exact ⟨List.nodup_nil, fun who hwho => (by cases hwho)⟩
  | addValidator env validatorAddress publicKey power config new bounded configured =>
    constructor
    · have hdisjoint : (s.validatorList.getD []).Disjoint [validatorAddress] := by
        intro who hwho hnew
        cases List.mem_singleton.mp hnew
        have hstored := h.stored validatorAddress hwho
        rw [new] at hstored
        cases hstored
      exact h.nodup.append (List.nodup_singleton _) hdisjoint
    · intro who hwho
      simp only [Store.get?_set]
      split
      · rfl
      · rename_i hne
        rcases List.mem_append.mp hwho with hold | hnew
        · exact h.stored who hold
        · exact absurd (List.mem_singleton.mp hnew) hne
  | removeValidator env validatorAddress validator config found active configured =>
    refine ⟨h.nodup, fun who hwho => ?_⟩
    simp only [Store.get?_set]
    split
    · rfl
    · exact h.stored who hwho
  | _ => exact ⟨h.nodup, h.stored⟩

theorem history_listed {ok : List (State τ × Action τ) → State τ → Action τ → Prop} {start : τ}
    (hrun : History (next tok host self) ok (deployed start) log s) : Listed s :=
  run_preserves (P := fun _ s => Listed s) hrun ⟨List.nodup_nil, fun who hwho => (by cases hwho)⟩
    fun _ _ _ _ _ _ heffect h => listed_step h heffect

/-- The active validators in the order of the list. -/
def activeValidators (s : State τ) : List Address := (s.validatorList.getD []).filter (isActive s)

/-- A signature of the message under the key of a validator. -/
def SignedBy (host : Host) (s : State τ) (message signature : Bytes) (who : Address) : Prop :=
  signature.length = 64 ∧ ∃ validator, s.validator.get? who = some validator ∧
    validator.publicKey.length = 32 ∧ host.ed25519Verify validator.publicKey message signature = true

/-- Validators that signed before or are not active are passed over. -/
theorem findSigner_append {message signature : Bytes} {seen : List Address} {who : Address}
    (signed : SignedBy host s message signature who) (hactive : isActive s who = true)
    (hnew : who ∉ seen) (before after : List Address)
    (hbefore : ∀ x ∈ before, x ∈ seen ∨
      (s.validator.get? x).isSome = true ∧ isActive s x = false) :
    findSigner host s message signature seen (before ++ who :: after) = .ok who := by
  induction before with
  | nil =>
    obtain ⟨-, validator, hfound, hkey, hverified⟩ := signed
    have hwho : validator.isActive = true := by simpa [isActive, hfound] using hactive
    simp [findSigner, hnew, okOr, hfound, hwho, failIf, hkey, hverified]
  | cons x before ih =>
    have hrest := ih fun y hy => hbefore y (List.mem_cons_of_mem x hy)
    rw [List.cons_append]
    unfold findSigner
    by_cases hseen : x ∈ seen
    · rw [if_pos (by simpa using hseen)]
      exact hrest
    · rcases hbefore x List.mem_cons_self with hmem | ⟨hstored, hinactive⟩
      · exact absurd hmem hseen
      · obtain ⟨validator, hfound⟩ := Option.isSome_iff_exists.mp hstored
        have hx : validator.isActive = false := by simpa [isActive, hfound] using hinactive
        rw [if_neg (by simpa using hseen), hfound]
        simp only [okOr, ok_bind, hx, if_true]
        exact hrest

theorem findSigner_next (h : Listed s) {message signature : Bytes} {seen rest : List Address}
    {who : Address} (signed : SignedBy host s message signature who)
    (hnext : activeValidators s = seen ++ who :: rest) :
    findSigner host s message signature seen (s.validatorList.getD []) = .ok who := by
  have hnodup : (seen ++ who :: rest).Nodup := hnext ▸ h.nodup.filter _
  have hnew : who ∉ seen := fun hmem =>
    List.disjoint_of_nodup_append hnodup hmem List.mem_cons_self
  obtain ⟨first, second, hlist, hseen, hsecond⟩ := List.filter_eq_append_iff.mp hnext
  obtain ⟨skipped, after, rfl, hskipped, hactive, -⟩ := List.filter_eq_cons_iff.mp hsecond
  have hstored := h.stored
  rw [hlist, ← List.append_assoc] at hstored ⊢
  refine findSigner_append signed hactive hnew _ after fun x hx => ?_
  have hx' := hstored x (List.mem_append_left _ hx)
  rcases List.mem_append.mp hx with hfirst | hskip
  · by_cases hxactive : isActive s x = true
    · exact .inl (hseen ▸ List.mem_filter.mpr ⟨hfirst, hxactive⟩)
    · exact .inr ⟨hx', by simpa using hxactive⟩
  · exact .inr ⟨hx', by simpa using hskipped x hskip⟩

/-- Signatures of the active validators in their order are all counted. -/
theorem countSigners_prefix (h : Listed s) {message : Bytes} {signatures : List Bytes}
    {signers : List Address} (hsigned : List.Forall₂ (SignedBy host s message) signatures signers)
    (seen rest : List Address) (hactive : activeValidators s = seen ++ signers ++ rest) :
    countSigners host s message signatures seen = .ok (seen.length + signatures.length) := by
  induction hsigned generalizing seen with
  | nil => rfl
  | @cons signature who signatures signers hone hmore ih =>
    have hnext : activeValidators s = seen ++ who :: (signers ++ rest) := by simp [hactive]
    have hfound := findSigner_next h hone hnext
    have hlater := ih (seen ++ [who]) (by simp [hactive])
    unfold countSigners
    simp only [failIf, hone.1, ne_eq, not_true_eq_false, if_false, ok_bind, hfound, hlater]
    simp only [List.length_append, List.length_cons, List.length_nil]
    congr 1
    omega

/-- The signatures a completion asks for: at least as many as required, of the first active
validators in the order of the list. -/
structure Quorum (host : Host) (s : State τ) (transfer : BridgeTransfer) (signatures : List Bytes) :
    Prop where
  enough : ∃ config, s.signatureConfig = some config ∧
    config.requiredSignatures ≤ signatures.length
  signed : ∃ signers, List.Forall₂ (SignedBy host s (messageOf transfer)) signatures signers ∧
    signers <+: activeValidators s

theorem Quorum.verifies (h : Listed s) {transfer : BridgeTransfer} {signatures : List Bytes}
    (hquorum : Quorum host s transfer signatures) :
    verifyTransferSignatures host transfer signatures s = .ok () := by
  obtain ⟨config, hconfig, henough⟩ := hquorum.enough
  obtain ⟨signers, hsigned, rest, hrest⟩ := hquorum.signed
  have hcount := countSigners_prefix h hsigned [] rest (by simp [hrest])
  have hfew : ¬ signatures.length < config.requiredSignatures := not_lt.mpr henough
  unfold verifyTransferSignatures
  simp only [hconfig, okOr, ok_bind, failIf, hfew, if_false, hcount, List.length_nil, zero_add]

/-- In every reachable state no transfer can be completed, whoever signs it. An unpaused
contract answers a quorum of valid signatures for a locked transfer with `InvalidChainPair`. -/
theorem transfer_never_completed {start : τ}
    (hrun : History (next tok host self) (fun _ _ _ => True) (deployed start) log s) :
    (∀ env transferId signatures s',
      next tok host self (.call env (.completeTransfer transferId signatures)) s ≠ .ok s') ∧
    ∀ env transferId transfer signatures, s.paused.getD false = false →
      s.transfer.get? transferId = some transfer → transfer.status = .locked →
      Quorum host s transfer signatures →
      next tok host self (.call env (.completeTransfer transferId signatures)) s =
        .error BridgeError.invalidChainPair := by
  have habroad := history_abroad hrun
  constructor
  · intro env transferId signatures s' hdone
    cases next_effect hdone with
    | completeTransfer _ _ _ transfer token recipient status tokens found locked here =>
      obtain ⟨chain, hchain, hne⟩ := habroad transferId transfer found
      exact hne (Option.some.inj (hchain.symm.trans here))
  · intro env transferId transfer signatures hunpaused hfound hlocked hquorum
    obtain ⟨chain, hchain, hne⟩ := habroad transferId transfer hfound
    have hverified := hquorum.verifies (history_listed hrun)
    simp [next, invoke, completeTransfer, ensureNotPaused, hunpaused, failIf, okOr, hfound, hlocked,
      hverified, hchain, hne]
    rfl

section Runs

open Sample

/-- One validator, and a transfer to another chain that waits for its signature. -/
def waiting : List (ℕ × Op) := [
  (0, opened 67 1000 5000),
  (1, .addValidator bob (key 7) 1),
  (2, .addSupportedToken usdc "USDC" 7 true true []),
  (3, .initiateTransfer .ethereum [5] usdc 100 1 alice)]

theorem waiting_signed :
    ∃ log s, History (next issuedAsset verifier contract) (fun _ _ _ => True) start log s ∧
      s.paused.getD false = false ∧ ∃ transfer, s.transfer.get? 1 = some transfer ∧
        transfer.status = .locked ∧ verifier.addressFromStringBytes transfer.recipient = some bob ∧
        Quorum verifier s transfer [key 7 ++ key 7] := by
  have h : After (fun h => h.2.paused.getD false = false ∧ h.2.validatorList.getD [] = [bob] ∧
        isActive h.2 bob = true ∧
        (∃ validator ∈ h.2.validator.get? bob, validator.publicKey = key 7) ∧
        (∃ config ∈ h.2.signatureConfig, config.requiredSignatures = 1) ∧
        ∃ transfer ∈ h.2.transfer.get? 1, transfer.status = .locked ∧ transfer.recipient = [5])
      (record (next issuedAsset verifier contract) (fun _ _ _ => True) (calls waiting) ([], start)) := by
    decide +kernel
  obtain ⟨⟨log, s⟩, hrec, hpaused, hlist, hactive, ⟨validator, hvalidator, hkey⟩,
    ⟨config, hconfig, hrequired⟩, transfer, htransfer, hlocked, hrecipient⟩ := h.exists_ok
  have hrun : History (next issuedAsset verifier contract) (fun _ _ _ => True) start log s :=
    record_history _ (fun _ _ _ _ _ => trivial) .nil hrec
  have hsigned : SignedBy verifier s (messageOf transfer) (key 7 ++ key 7) bob :=
    ⟨rfl, validator, hvalidator, by rw [hkey]; rfl, by simp [verifier, hkey]⟩
  have hfirst : [bob] <+: activeValidators s := by
    simp [activeValidators, hlist, hactive]
  refine ⟨log, s, hrun, hpaused, transfer, htransfer, hlocked, by rw [hrecipient]; rfl, ?_⟩
  exact ⟨⟨config, hconfig, hrequired.le⟩, [bob], .cons hsigned .nil, hfirst⟩

theorem transfer_never_completed_waiting :
    ∃ log s, History (next issuedAsset verifier contract) (fun _ _ _ => True) start log s ∧
      next issuedAsset verifier contract (.call (env 4) (.completeTransfer 1 [key 7 ++ key 7])) s =
        .error BridgeError.invalidChainPair := by
  obtain ⟨log, s, hrun, hpaused, transfer, hfound, hlocked, -, hquorum⟩ := waiting_signed
  exact ⟨log, s, hrun,
    (transfer_never_completed hrun).2 (env 4) 1 transfer _ hpaused hfound hlocked hquorum⟩

/-- A locked transfer with a quorum of valid signatures is not completed. -/
theorem signed_transfer_refused :
    ¬ ∀ (log : List (State Balances × Action Balances)) (s : State Balances) (transferId : ℕ)
        (transfer : BridgeTransfer) (recipient : Address) (signatures : List Bytes),
      History (next issuedAsset verifier contract) (fun _ _ _ => True) start log s →
      s.paused.getD false = false → s.transfer.get? transferId = some transfer →
      transfer.status = .locked → verifier.addressFromStringBytes transfer.recipient = some recipient →
      Quorum verifier s transfer signatures →
      ∃ env s', next issuedAsset verifier contract
        (.call env (.completeTransfer transferId signatures)) s = .ok s' := by
  intro hall
  obtain ⟨log, s, hrun, hpaused, transfer, hfound, hlocked, hrecipient, hquorum⟩ := waiting_signed
  obtain ⟨env, s', hdone⟩ :=
    hall log s 1 transfer bob _ hrun hpaused hfound hlocked hrecipient hquorum
  cases next_effect hdone with
  | completeTransfer _ _ _ transfer' token recipient status tokens found locked here =>
    obtain ⟨chain, hchain, hne⟩ := history_abroad hrun 1 transfer' found
    exact hne (Option.some.inj (hchain.symm.trans here))

end Runs

end CrossChainBridge
