import StellAIverse.Escrow.Effects
import StellAIverse.Soroban.History

/-!
# The quorum behind an execution

Approvals are kept with the transaction while the signers change. An execution
counts the approvals that are left, so each of them goes back to a submission or
an approval that was not revoked since. The submitter may be an admin who is no
signer; a signer who is removed later keeps its approval.
-/

namespace Escrow

open Soroban

variable {τ : Type} {tok : Token τ} {self : Address} {s s' : State τ} {a : Action τ}
  {log : List (State τ × Action τ)} {txId : ℕ} {who : Address}

/-- Who approved the transaction in an invocation, by submitting or approving it. -/
def approver (txId : ℕ) (e : State τ × Action τ) : Option Address :=
  match e.2 with
  | .call _ (.submitTransaction submitter _ _ _) =>
    if e.1.nextTxId.getD 1 = txId then some submitter else none
  | .call _ (.approveTransaction signer id) => if id = txId then some signer else none
  | _ => none

def Approves (txId : ℕ) (who : Address) (e : State τ × Action τ) : Prop :=
  approver txId e = some who

def Revokes (txId : ℕ) (who : Address) (e : State τ × Action τ) : Prop :=
  match e.2 with
  | .call _ (.revokeApproval signer id) => id = txId ∧ signer = who
  | _ => False

def Removes (who : Address) (e : State τ × Action τ) : Prop :=
  match e.2 with
  | .call _ (.removeSigner _ signer) => signer = who
  | _ => False

/-- A submission by somebody who is accepted as an admin. -/
def ByAdmin (e : State τ × Action τ) : Prop :=
  match e.2 with
  | .call env (.submitTransaction submitter _ _ _) =>
    ∃ config, e.1.config = some config ∧ isAdmin env config submitter = .ok true
  | _ => False

/-- An approval that was not revoked since. It is that of a signer, of an admin who
submitted the transaction, or of somebody removed from the signers after approving. -/
def Stands (log : List (State τ × Action τ)) (s : State τ) (txId : ℕ) (who : Address) : Prop :=
  ∃ recent e old, log = recent ++ e :: old ∧ Approves txId who e ∧
    (∀ r ∈ recent, ¬ Revokes txId who r) ∧
    (isSigner s who = true ∨ ByAdmin e ∨ ∃ r ∈ recent, Removes who r)

theorem Stands.now (happroves : Approves txId who (s, a))
    (hentitled : isSigner s' who = true ∨ ByAdmin (s, a)) : Stands ((s, a) :: log) s' txId who := by
  refine ⟨[], (s, a), log, rfl, happroves, fun _ hr => (by cases hr), ?_⟩
  rcases hentitled with hsigner | hadmin
  · exact .inl hsigner
  · exact .inr (.inl hadmin)

theorem Stands.later (h : Stands log s txId who) (hrevokes : ¬ Revokes txId who (s, a))
    (hsigner : isSigner s who = true → isSigner s' who = true ∨ Removes who (s, a)) :
    Stands ((s, a) :: log) s' txId who := by
  obtain ⟨recent, e, old, rfl, happroves, hkept, hentitled⟩ := h
  refine ⟨(s, a) :: recent, e, old, rfl, happroves, ?_, ?_⟩
  · intro r hr
    rcases List.mem_cons.mp hr with rfl | hr
    · exact hrevokes
    · exact hkept r hr
  · rcases hentitled with hnow | hadmin | ⟨r, hr, hremoves⟩
    · rcases hsigner hnow with hstill | hremoves
      · exact .inl hstill
      · exact .inr (.inr ⟨(s, a), List.mem_cons_self, hremoves⟩)
    · exact .inr (.inl hadmin)
    · exact .inr (.inr ⟨r, List.mem_cons_of_mem _ hr, hremoves⟩)

theorem isSigner_iff : isSigner s who = true ↔ s.signer.get? who = some true := by
  unfold isSigner
  cases s.signer.get? who <;> simp

/-- A signer stays one unless it is removed. -/
theorem isSigner_step (h : isSigner s who = true) (heffect : Effect tok self s a s') :
    isSigner s' who = true ∨ Removes who (s, a) := by
  cases heffect with
  | initializeContract =>
    left
    rw [isSigner_iff] at h ⊢
    simp only [Store.get?_foldl_set]
    split
    · rfl
    · exact h
  | addSigner env caller signer =>
    left
    rw [isSigner_iff] at h ⊢
    simp only [Store.get?_set]
    split
    · rfl
    · exact h
  | removeSigner env caller signer =>
    by_cases hw : signer = who
    · exact .inr hw
    · left
      rw [isSigner_iff] at h ⊢
      simp only [Store.get?_remove, Ne.symm hw, if_false]
      exact h
  | _ => exact .inl h

/-- The approvers of every transaction are distinct and their approvals stand. -/
def Approved (log : List (State τ × Action τ)) (s : State τ) : Prop :=
  ∀ id tx, s.transaction.get? id = some tx →
    tx.approvers.Nodup ∧ ∀ who ∈ tx.approvers, Stands log s id who

/-- Approvals that an invocation does not revoke. -/
theorem Approved.later (h : Approved log s) (heffect : Effect tok self s a s')
    (hquiet : ∀ id who, ¬ Revokes id who (s, a)) (id : ℕ) (tx : EscrowTransaction)
    (hk : s.transaction.get? id = some tx) :
    tx.approvers.Nodup ∧ ∀ who ∈ tx.approvers, Stands ((s, a) :: log) s' id who := by
  obtain ⟨hnodup, hstands⟩ := h id tx hk
  refine ⟨hnodup, fun who hw => (hstands who hw).later (hquiet id who) ?_⟩
  exact fun hs => isSigner_step hs heffect

/-- A revocation takes away one approval and leaves the others. -/
theorem Approved.revoked {env : Ledger} {signer : Address} {tx : EscrowTransaction}
    (h : Approved log s) (hfound : s.transaction.get? txId = some tx)
    (hsame : ∀ who, isSigner s' who = isSigner s who)
    (hset : s'.transaction = s.transaction.set txId
      { tx with approvers := tx.approvers.erase signer }) :
    Approved ((s, .call env (.revokeApproval signer txId)) :: log) s' := by
  have hlater : ∀ id who, Stands log s id who → ¬ (txId = id ∧ signer = who) →
      Stands ((s, .call env (.revokeApproval signer txId)) :: log) s' id who := by
    intro id who hstands hr
    exact hstands.later hr fun hs => .inl ((hsame who).trans hs)
  intro id tx' hk
  rw [hset, Store.get?_set] at hk
  by_cases hid : id = txId
  · subst hid
    obtain ⟨hnodup, hstands⟩ := h id tx hfound
    rw [if_pos rfl] at hk
    cases hk
    refine ⟨hnodup.erase signer, fun who hw => ?_⟩
    obtain ⟨hne, hw⟩ := hnodup.mem_erase_iff.mp hw
    exact hlater id who (hstands who hw) fun hr => hne hr.2.symm
  · rw [if_neg hid] at hk
    obtain ⟨hnodup, hstands⟩ := h id tx' hk
    exact ⟨hnodup, fun who hw => hlater id who (hstands who hw) fun hr => hid hr.1.symm⟩

theorem approved_step (h : Approved log s) (heffect : Effect tok self s a s') :
    Approved ((s, a) :: log) s' := by
  have hlater := h.later heffect
  cases heffect with
  | configure env op config config' found configures =>
    refine hlater fun id who hr => ?_
    cases op <;> first | exact hr | cases configures
  | submitTransaction env submitter escrowId recipient amount config record initialized allowed =>
    refine Store.forall_set (hlater fun _ _ hr => hr) ⟨List.nodup_singleton _, fun who hw => ?_⟩
    cases List.mem_singleton.mp hw
    exact .now (if_pos rfl) (allowed.imp id fun hadmin => ⟨config, initialized, hadmin⟩)
  | approveTransaction env signer txId tx registered found pending new =>
    obtain ⟨hnodup, hstands⟩ := hlater (fun _ _ hr => hr) txId tx found
    refine Store.forall_set (hlater fun _ _ hr => hr) ⟨?_, fun who hw => ?_⟩
    · have hdisjoint : tx.approvers.Disjoint [signer] := by
        intro x hx hs
        cases List.mem_singleton.mp hs
        exact new hx
      exact hnodup.append (List.nodup_singleton _) hdisjoint
    · rcases List.mem_append.mp hw with hw | hw
      · exact hstands who hw
      · cases List.mem_singleton.mp hw
        exact .now (if_pos rfl) (.inl registered)
  | revokeApproval env signer txId tx found pending =>
    exact h.revoked found (fun _ => rfl) rfl
  | executeTransaction env txId config tx record tokens global initialized found =>
    have hall := hlater fun _ _ hr => hr
    exact Store.forall_set hall (hall txId tx found)
  | cancelTransaction env caller txId tx found =>
    have hall := hlater fun _ _ hr => hr
    exact Store.forall_set hall (hall txId tx found)
  | _ => exact hlater fun _ _ hr => hr

theorem history_approved {ok : List (State τ × Action τ) → State τ → Action τ → Prop} {tokens : τ}
    (hrun : History (next tok self) ok (deployed tokens) log s) : Approved log s :=
  hrun.preserves (fun _ _ hk => (by cases hk)) fun _ _ _ _ _ hn h => approved_step h (next_effect hn)

/-- In every run each execution has at least `required_approvals` distinct approvers
whose approval stands: each is a signer at that moment or submitted the transaction as an
admin, unless it was removed from the signers since. -/
theorem execution_approved {tokens : τ} {env : Ledger}
    (hrun : History (next tok self) (fun _ _ _ => True) (deployed tokens) log s)
    (hexec : next tok self (.call env (.executeTransaction txId)) s = .ok s') :
    ∃ (config : EscrowConfig) (approvers : List Address), s.config = some config ∧
      approvers.Nodup ∧ config.requiredApprovals ≤ approvers.length ∧
      ∀ who ∈ approvers, ∃ recent e old, log = recent ++ e :: old ∧ Approves txId who e ∧
        (∀ r ∈ recent, ¬ Revokes txId who r) ∧
        (isSigner s who = true ∨ ByAdmin e ∨ ∃ r ∈ recent, Removes who r) := by
  have happroved := history_approved hrun
  cases next_effect hexec with
  | configure _ _ _ _ _ configures => cases configures
  | executeTransaction _ _ config tx record tokens global initialized found pending approved =>
    obtain ⟨hnodup, hstands⟩ := happroved txId tx found
    exact ⟨config, tx.approvers, initialized, hnodup, approved, hstands⟩

namespace Sample

def contract : Address := ⟨0⟩

def admin : Address := ⟨1⟩

def usdc : Address := ⟨2⟩

def alice : Address := ⟨3⟩

def bob : Address := ⟨4⟩

def carol : Address := ⟨5⟩

def dave : Address := ⟨6⟩

/-- Everybody authorises, and nobody has a role elsewhere. -/
def env (timestamp : ℕ) : Ledger := ⟨⟨timestamp, fun _ => true⟩, fun _ _ => some false⟩

def start : State Balances := deployed (Balances.issue [(usdc, dave, 10 ^ 6)])

/-- Invocations, each at its ledger time. -/
def calls (ops : List (ℕ × Op)) : List (Action Balances) := ops.map fun e => .call (env e.1) e.2

/-- No time lock, and at most two executions in ten seconds. -/
def settings : Settings := ⟨none, 0, 1000, 10, 2⟩

/-- An escrow with a deposit. -/
def opened (signers : List Address) (requiredApprovals : ℕ) : List (ℕ × Op) := [
  (0, .initializeContract admin signers requiredApprovals settings),
  (0, .createEscrow dave usdc false "rent"),
  (0, .deposit 1 dave 1000)]

end Sample

section Runs

open Sample

/-- An approval revoked, another given, and a signer removed. -/
def changing : List (ℕ × Op) := opened [alice, bob, carol] 2 ++ [
  (1, .submitTransaction alice 1 dave 100),
  (2, .approveTransaction bob 1),
  (3, .revokeApproval bob 1),
  (4, .approveTransaction carol 1),
  (5, .removeSigner admin bob)]

theorem execution_approved_changing :
    ∃ log s, History (next asset contract) (fun _ _ _ => True) start log s ∧
      ∃ approvers : List Address, approvers.Nodup ∧ 2 ≤ approvers.length ∧
      ∀ who ∈ approvers, ∃ recent e old, log = recent ++ e :: old ∧ Approves 1 who e ∧
        (∀ r ∈ recent, ¬ Revokes 1 who r) ∧
        (isSigner s who = true ∨ ByAdmin e ∨ ∃ r ∈ recent, Removes who r) := by
  have h : After (fun h => (∃ config ∈ h.2.config, config.requiredApprovals = 2) ∧
        After (fun _ => True) (next asset contract (.call (env 6) (.executeTransaction 1)) h.2))
      (record (next asset contract) (fun _ _ _ => True) (calls changing) ([], start)) := by
    decide +kernel
  obtain ⟨⟨log, s⟩, hrec, ⟨config, hconfig, hrequired⟩, hexec⟩ := h.exists_ok
  obtain ⟨s', hexec, -⟩ := hexec.exists_ok
  have hrun : History (next asset contract) (fun _ _ _ => True) start log s :=
    record_history _ (fun _ _ _ _ _ => trivial) .nil hrec
  obtain ⟨config', approvers, hconfig', hnodup, hquorum, hstands⟩ := execution_approved hrun hexec
  obtain rfl : config = config' := Option.some.inj (hconfig.symm.trans hconfig')
  rw [hrequired] at hquorum
  exact ⟨log, s, hrun, approvers, hnodup, hquorum, hstands⟩

/-- The admin is no signer and submits. -/
def byAdmin : List (ℕ × Op) := opened [alice, bob] 1 ++ [(1, .submitTransaction admin 1 dave 100)]

/-- No signer has approved what is executed. -/
theorem execution_without_signers :
    ¬ ∀ (log : List (State Balances × Action Balances)) (s s' : State Balances) (env : Ledger)
        (txId : ℕ), History (next asset contract) (fun _ _ _ => True) start log s →
      next asset contract (.call env (.executeTransaction txId)) s = .ok s' →
      ∃ (config : EscrowConfig) (approvers : List Address), s.config = some config ∧
        approvers.Nodup ∧ config.requiredApprovals ≤ approvers.length ∧
        ∀ who ∈ approvers, isSigner s who = true ∧ ∃ recent e old, log = recent ++ e :: old ∧
          Approves txId who e ∧ ∀ r ∈ recent, ¬ Revokes txId who r := by
  have h : After (fun h => (∃ config ∈ h.2.config, config.requiredApprovals = 1) ∧
        isSigner h.2 admin = false ∧ (∀ e ∈ h.1, approver 1 e = none ∨ approver 1 e = some admin) ∧
        After (fun _ => True) (next asset contract (.call (env 2) (.executeTransaction 1)) h.2))
      (record (next asset contract) (fun _ _ _ => True) (calls byAdmin) ([], start)) := by
    decide +kernel
  obtain ⟨⟨log, s⟩, hrec, ⟨config, hconfig, hrequired⟩, hadmin, happrovers, hexec⟩ := h.exists_ok
  obtain ⟨s', hexec, -⟩ := hexec.exists_ok
  have hrun : History (next asset contract) (fun _ _ _ => True) start log s :=
    record_history _ (fun _ _ _ _ _ => trivial) .nil hrec
  intro hall
  obtain ⟨config', approvers, hconfig', -, hquorum, hsigners⟩ := hall log s s' (env 2) 1 hrun hexec
  obtain rfl : config = config' := Option.some.inj (hconfig.symm.trans hconfig')
  rw [hrequired] at hquorum
  obtain ⟨who, hwho⟩ := List.exists_mem_of_length_pos hquorum
  obtain ⟨hsigner, recent, e, old, rfl, happroves, -⟩ := hsigners who hwho
  rcases happrovers e (by simp) with hnone | hsome
  · cases hnone.symm.trans happroves
  · cases hsome.symm.trans happroves
    cases hadmin.symm.trans hsigner

end Runs

end Escrow
