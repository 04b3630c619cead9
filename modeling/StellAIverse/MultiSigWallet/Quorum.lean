import StellAIverse.MultiSigWallet.Effects
import StellAIverse.Soroban.History

/-!
# The quorum behind an execution

The flags, the list and the count of the signers agree. Confirmations outlive
membership, but an execution counts those of current signers only, and each of
them goes back to a submission or a confirmation that was not revoked since.
-/

namespace MultiSigWallet

open Soroban

variable {τ : Type} {tok : Token τ} {self : Address} {s s' : State τ} {a : Action τ}
  {log : List (State τ × Action τ)} {txId : ℕ} {who : Address}

structure Quorate (s : State τ) : Prop where
  distinct : (signerList s).Nodup
  listed : ∀ who, who ∈ signerList s ↔ isSignerInner s who = true
  fresh : s.config = none → signerList s = []
  counted : ∀ config, s.config = some config → config.signerCount = (signerList s).length
  quorum : ∀ config, s.config = some config →
    1 ≤ config.requiredConfirmations ∧ config.requiredConfirmations ≤ config.signerCount
  bounded : (signerList s).length ≤ maxSigners

/-- New settings for the same signers. -/
theorem Quorate.reconfigured (h : Quorate s) (hsigner : s'.signer = s.signer)
    (hlist : s'.signerList = s.signerList) {config config' : WalletConfig}
    (hconfig : s.config = some config) (hconfig' : s'.config = some config')
    (hcount : config'.signerCount = config.signerCount)
    (hquorum : 1 ≤ config'.requiredConfirmations ∧
      config'.requiredConfirmations ≤ config'.signerCount) : Quorate s' := by
  have hsame : signerList s' = signerList s := by
    unfold signerList
    rw [hlist]
  refine ⟨?_, fun who => ?_, fun hn => ?_, fun c hc => ?_, fun c hc => ?_, ?_⟩
  · rw [hsame]
    exact h.distinct
  · unfold isSignerInner
    rw [hsame, hsigner]
    exact h.listed who
  · cases hconfig'.symm.trans hn
  · obtain rfl : config' = c := Option.some.inj (hconfig'.symm.trans hc)
    rw [hsame, hcount]
    exact h.counted config hconfig
  · obtain rfl : config' = c := Option.some.inj (hconfig'.symm.trans hc)
    exact hquorum
  · rw [hsame]
    exact h.bounded

/-- One signer flagged, or no longer, and the list that goes with it. -/
theorem Quorate.membership (h : Quorate s) {signer : Address} {flag : Bool} {signers : List Address}
    {config : WalletConfig} (hdistinct : signers.Nodup)
    (hlisted : ∀ who, who ∈ signers ↔ if who = signer then flag = true else who ∈ signerList s)
    (hquorum : 1 ≤ config.requiredConfirmations ∧ config.requiredConfirmations ≤ signers.length)
    (hbounded : signers.length ≤ maxSigners) :
    Quorate { s with
      signer := s.signer.set signer flag, signerList := some signers
      config := some { config with signerCount := signers.length } } := by
  refine ⟨hdistinct, fun who => (hlisted who).trans ?_, fun hn => (by cases hn), fun c hc => ?_,
    fun c hc => ?_, hbounded⟩
  · have hwho := h.listed who
    unfold isSignerInner at hwho ⊢
    simp only [Store.get?_set]
    by_cases he : who = signer
    · simp [he]
    · simpa [he] using hwho
  · cases hc
    rfl
  · cases hc
    exact hquorum

theorem quorate_step (h : Quorate s) (heffect : Effect tok self s a s') : Quorate s' := by
  cases heffect with
  | initializeContract env admin signers required dailyLimit fresh few quorum distinct =>
    have hnone : ∀ who, isSignerInner s who = false := by
      intro who
      have hlisted := h.listed who
      rw [h.fresh fresh] at hlisted
      simpa using hlisted
    refine ⟨distinct, fun who => ?_, fun hn => (by cases hn), fun config hc => ?_,
      fun config hc => ?_, few⟩
    · have hwho := hnone who
      unfold isSignerInner at hwho ⊢
      simp only [Store.get?_foldl_set, signerList, Option.getD_some]
      by_cases hmem : who ∈ signers <;> simp [hmem, hwho]
    · cases hc
      rfl
    · cases hc
      exact quorum
  | submitTransaction env signer token recipient amount memo config registered initialized =>
    exact h.reconfigured rfl rfl initialized rfl rfl (h.quorum config initialized)
  | executeTransaction env signer txId config tx dailySpent tokens initialized =>
    exact h.reconfigured rfl rfl initialized rfl rfl (h.quorum config initialized)
  | changeRequirement env admin required config initialized quorum =>
    exact h.reconfigured rfl rfl initialized rfl rfl quorum
  | setDailyLimit env admin dailyLimit config initialized =>
    exact h.reconfigured rfl rfl initialized rfl rfl (h.quorum config initialized)
  | addSigner env admin newSigner config initialized new room =>
    have hout : newSigner ∉ signerList s := by
      rw [h.listed, new]
      simp
    have hcount := h.counted config initialized
    have hquorum := h.quorum config initialized
    refine h.membership ?_ (fun who => ?_) ?_ ?_
    · refine h.distinct.append (List.nodup_singleton _) fun who hw hn => ?_
      cases List.mem_singleton.mp hn
      exact hout hw
    · by_cases he : who = newSigner <;> simp [he]
    · simp only [List.length_append, List.length_singleton]
      omega
    · simp only [List.length_append, List.length_singleton]
      omega
  | removeSigner env admin signer config initialized registered quorum =>
    have hshorter := (signerList s).length_erase_le (a := signer)
    have hquorum := h.quorum config initialized
    refine h.membership (h.distinct.erase signer) (fun who => ?_) ⟨hquorum.1, quorum⟩
      (hshorter.trans h.bounded)
    rw [h.distinct.mem_erase_iff]
    by_cases he : who = signer <;> simp [he]
  | transfers | deposit | confirmTransaction | revokeConfirmation | setWhitelist =>
    exact ⟨h.distinct, h.listed, h.fresh, h.counted, h.quorum, h.bounded⟩

theorem quorate_deployed (tokens : τ) : Quorate (deployed tokens) where
  distinct := List.nodup_nil
  listed who := by simp [signerList, deployed, isSignerInner]
  fresh _ := rfl
  counted _ hc := by cases hc
  quorum _ hc := by cases hc
  bounded := Nat.zero_le _

/-- Who confirmed the transaction in an invocation, by submitting or confirming it. -/
def confirmer (txId : ℕ) (e : State τ × Action τ) : Option Address :=
  match e.2 with
  | .call _ (.submitTransaction signer _ _ _ _) =>
    if e.1.config.map (·.nextTxId) = some txId then some signer else none
  | .call _ (.confirmTransaction signer id) => if id = txId then some signer else none
  | _ => none

def Confirms (txId : ℕ) (who : Address) (e : State τ × Action τ) : Prop :=
  confirmer txId e = some who

def Revokes (txId : ℕ) (who : Address) (e : State τ × Action τ) : Prop :=
  match e.2 with
  | .call _ (.revokeConfirmation signer id) => id = txId ∧ signer = who
  | _ => False

/-- Confirmations are distinct, and none of them was revoked since it was given. -/
def Confirmed (log : List (State τ × Action τ)) (s : State τ) : Prop :=
  ∀ id, (confirmedBy s id).Nodup ∧
    ∀ who ∈ confirmedBy s id, Since (Confirms id who) (Revokes id who) log

theorem confirmedBy_set (s : State τ) (txId : ℕ) (confirmed : List Address) (id : ℕ) :
    ((s.confirmations.set txId confirmed).get? id).getD [] =
      if id = txId then confirmed else confirmedBy s id := by
  rw [Store.get?_set]
  split <;> rfl

/-- Confirmations that an invocation does not revoke. -/
theorem Confirmed.later (h : Confirmed log s) (hquiet : ∀ id who, ¬ Revokes id who (s, a)) (id : ℕ) :
    (confirmedBy s id).Nodup ∧
      ∀ who ∈ confirmedBy s id, Since (Confirms id who) (Revokes id who) ((s, a) :: log) := by
  obtain ⟨hnodup, hsince⟩ := h id
  exact ⟨hnodup, fun who hw => (hsince who hw).later (hquiet id who)⟩

/-- The confirmations of one transaction rewritten. -/
theorem Confirmed.rewrite {confirmed : List Address}
    (hset : ∀ id, confirmedBy s' id = if id = txId then confirmed else confirmedBy s id)
    (hother : ∀ id, id ≠ txId → (confirmedBy s id).Nodup ∧
      ∀ who ∈ confirmedBy s id, Since (Confirms id who) (Revokes id who) log)
    (hone : confirmed.Nodup ∧
      ∀ who ∈ confirmed, Since (Confirms txId who) (Revokes txId who) log) :
    Confirmed log s' := by
  intro id
  rw [hset]
  split
  · rename_i hid
    rw [hid]
    exact hone
  · rename_i hid
    exact hother id hid

theorem confirmed_step (h : Confirmed log s) (heffect : Effect tok self s a s') :
    Confirmed ((s, a) :: log) s' := by
  have hlater := h.later (a := a)
  cases heffect with
  | submitTransaction env signer token recipient amount memo config registered initialized =>
    refine .rewrite (confirmedBy_set s _ _) (fun id _ => hlater (fun _ _ hr => hr) id)
      ⟨List.nodup_singleton _, fun who hw => ?_⟩
    cases List.mem_singleton.mp hw
    have hid : s.config.map (·.nextTxId) = some config.nextTxId := by rw [initialized, Option.map_some]
    exact .now (if_pos hid)
  | confirmTransaction env signer txId tx registered found new =>
    obtain ⟨hnodup, hsince⟩ := hlater (fun _ _ hr => hr) txId
    refine .rewrite (confirmedBy_set s _ _) (fun id _ => hlater (fun _ _ hr => hr) id) ⟨?_, ?_⟩
    · refine hnodup.append (List.nodup_singleton _) fun who hw hn => ?_
      cases List.mem_singleton.mp hn
      exact new hw
    · intro who hw
      rcases List.mem_append.mp hw with hw | hw
      · exact hsince who hw
      · cases List.mem_singleton.mp hw
        exact .now (if_pos rfl)
  | revokeConfirmation env signer txId tx found =>
    refine .rewrite (confirmedBy_set s _ _) (fun id hid => ?_) ?_
    · obtain ⟨hnodup, hsince⟩ := h id
      exact ⟨hnodup, fun who hw => (hsince who hw).later fun hr => hid hr.1.symm⟩
    · obtain ⟨hnodup, hsince⟩ := h txId
      refine ⟨hnodup.erase signer, fun who hw => ?_⟩
      obtain ⟨hne, hw⟩ := hnodup.mem_erase_iff.mp hw
      exact (hsince who hw).later fun hr => hne hr.2.symm
  | _ => exact hlater fun _ _ hr => hr

theorem history_quorate {ok : List (State τ × Action τ) → State τ → Action τ → Prop} {tokens : τ}
    (hrun : History (next tok self) ok (deployed tokens) log s) : Quorate s :=
  hrun.preserves (P := fun _ s => Quorate s) (quorate_deployed tokens)
    fun _ _ _ _ _ hn h => quorate_step h (next_effect hn)

theorem history_confirmed {ok : List (State τ × Action τ) → State τ → Action τ → Prop} {tokens : τ}
    (hrun : History (next tok self) ok (deployed tokens) log s) : Confirmed log s :=
  hrun.preserves (fun _ => ⟨List.nodup_nil, fun _ hw => (by cases hw)⟩)
    fun _ _ _ _ _ hn h => confirmed_step h (next_effect hn)

/-- In every run flags, list and count of the signers agree and the requirement is within
them, confirmations are distinct, and an execution has at least the required number of
distinct current signers who confirmed and did not revoke since. -/
theorem execution_confirmed {tokens : τ}
    (hrun : History (next tok self) (fun _ _ _ => True) (deployed tokens) log s) :
    (signerList s).Nodup ∧ (∀ who, who ∈ signerList s ↔ isSignerInner s who = true) ∧
    (∀ config, s.config = some config → config.signerCount = (signerList s).length ∧
      1 ≤ config.requiredConfirmations ∧ config.requiredConfirmations ≤ config.signerCount ∧
      config.signerCount ≤ maxSigners) ∧
    (∀ id, (confirmedBy s id).Nodup) ∧
    ∀ (env : Env) (signer : Address) (txId : ℕ) (s' : State τ),
      next tok self (.call env (.executeTransaction signer txId)) s = .ok s' →
      ∃ (config : WalletConfig) (signers : List Address), s.config = some config ∧ signers.Nodup ∧
        config.requiredConfirmations ≤ signers.length ∧
        ∀ who ∈ signers, isSignerInner s who = true ∧
          Since (Confirms txId who) (Revokes txId who) log := by
  have hquorate := history_quorate hrun
  have hconfirmed := history_confirmed hrun
  refine ⟨hquorate.distinct, hquorate.listed, fun config hc => ?_, fun id => (hconfirmed id).1,
    fun env signer txId s' hexec => ?_⟩
  · have hcount := hquorate.counted config hc
    obtain ⟨hpos, hle⟩ := hquorate.quorum config hc
    exact ⟨hcount, hpos, hle, hcount.le.trans hquorate.bounded⟩
  · cases next_effect hexec with
    | executeTransaction _ _ _ config tx dailySpent tokens initialized found pending turn confirmed =>
      obtain ⟨hnodup, hsince⟩ := hconfirmed txId
      refine ⟨config, (confirmedBy s txId).filter fun who => isSignerInner s who, initialized,
        hnodup.filter _, ?_, fun who hw => ?_⟩
      · rw [← List.countP_eq_length_filter]
        exact confirmed
      · obtain ⟨hw, hflag⟩ := List.mem_filter.mp hw
        exact ⟨hflag, hsince who hw⟩

namespace Sample

def contract : Address := ⟨0⟩

def admin : Address := ⟨1⟩

def usdc : Address := ⟨2⟩

def alice : Address := ⟨3⟩

def bob : Address := ⟨4⟩

def carol : Address := ⟨5⟩

def dave : Address := ⟨6⟩

def env : Env := ⟨0, fun _ => true⟩

def start : State Balances := deployed (Balances.issue [(usdc, contract, 1000)])

end Sample

section Runs

open Sample

/-- A signer is removed and comes back, and another revokes. -/
def returning : List Op := [
  .initializeContract admin [alice, bob, carol] 2 500,
  .submitTransaction alice usdc dave 100 "",
  .confirmTransaction bob 1,
  .confirmTransaction carol 1,
  .removeSigner admin bob,
  .revokeConfirmation carol 1,
  .addSigner admin bob]

theorem execution_confirmed_returning :
    ∃ log s, History (next asset contract) (fun _ _ _ => True) start log s ∧
      ∃ signers : List Address, signers.Nodup ∧ 2 ≤ signers.length ∧
        ∀ who ∈ signers, isSignerInner s who = true ∧ Since (Confirms 1 who) (Revokes 1 who) log := by
  have h : After (fun h => (∃ config ∈ h.2.config, config.requiredConfirmations = 2) ∧
        After (fun _ => True) (next asset contract (.call env (.executeTransaction alice 1)) h.2))
      (record (next asset contract) (fun _ _ _ => True) (returning.map (.call env)) ([], start)) := by
    decide +kernel
  obtain ⟨⟨log, s⟩, hrec, ⟨config, hconfig, hrequired⟩, hexec⟩ := h.exists_ok
  obtain ⟨s', hexec, -⟩ := hexec.exists_ok
  have hrun : History (next asset contract) (fun _ _ _ => True) start log s :=
    record_history _ (fun _ _ _ _ _ => trivial) .nil hrec
  obtain ⟨-, -, -, -, hquorum⟩ := execution_confirmed hrun
  obtain ⟨config', signers, hconfig', hnodup, hlength, hsigners⟩ := hquorum env alice 1 s' hexec
  obtain rfl : config = config' := Option.some.inj (hconfig.symm.trans hconfig')
  rw [hrequired] at hlength
  exact ⟨log, s, hrun, signers, hnodup, hlength, hsigners⟩

end Runs

end MultiSigWallet
