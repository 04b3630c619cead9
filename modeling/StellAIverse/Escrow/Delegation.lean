import Mathlib.Data.Finset.Card
import StellAIverse.AccessControl.Coalitions
import StellAIverse.Escrow.Quorum

/-!
# The escrow and the contract that names its admins

An escrow may be linked with the access control contract, whose Admins then count as its admins.
Both run side by side, and the escrow's question is answered from the state of the other. A small
coalition that reaches no admin only executes what somebody else has approved.
-/

namespace Escrow

open Soroban
open AccessControl (hasRole Reaches)

variable {τ : Type}

structure Joint (τ : Type) where
  escrow : State τ
  roles : AccessControl.State

namespace Joint

/-- What an invocation is told: the contract at `ac` answers from its own state. -/
def ledger (ac : Address) (env : Ledger) (roles : AccessControl.State) : Ledger :=
  { env with
    hasAdminRole := fun contract who =>
      if contract = ac then some (hasRole roles .admin who) else env.hasAdminRole contract who }

inductive Act (τ : Type) where
  | escrow (env : Ledger) (op : Op)
  | roles (env : Env) (op : AccessControl.Op)
  | transfers (tokens : τ)

variable (tok : Token τ) (self ac : Address)

def next (a : Act τ) (j : Joint τ) : Result (Joint τ) :=
  match a with
  | .escrow env op =>
    (Escrow.next tok self (.call (ledger ac env j.roles) op) j.escrow).map fun s =>
      { j with escrow := s }
  | .roles env op => (AccessControl.next (env, op) j.roles).map fun roles => { j with roles }
  | .transfers tokens => .ok { j with escrow := { j.escrow with tokens } }

end Joint

def Joint.deployed (tokens : τ) : Joint τ := ⟨Escrow.deployed tokens, AccessControl.deployed⟩

/-- Only members of the coalition authorized the call. -/
def Joint.By (A : Set Address) : Joint.Act τ → Prop
  | .escrow env _ => ∀ x, env.authorized x = true → x ∈ A
  | .roles env _ => ∀ x, env.authorized x = true → x ∈ A
  | .transfers _ => True

/-- Both contracts after any calls on them. -/
abbrev Joint.Reachable (tok : Token τ) (self ac : Address) (tokens : τ) : Joint τ → Prop :=
  Steps (Joint.next tok self ac) (fun _ _ => True) (Joint.deployed tokens)

/-- A run of calls that only members authorized. -/
abbrev Joint.RunBy (tok : Token τ) (self ac : Address) (A : Set Address) :
    Joint τ → Joint τ → Prop := Steps (Joint.next tok self ac) fun _ => Joint.By A

variable {tok : Token τ} {self ac : Address} {env : Ledger} {op : Op} {s₀ s s' : State τ}
  {j j' : Joint τ} {config : EscrowConfig} {caller who : Address} {A : Finset Address}

/-- The caller that has to be an admin. -/
def Op.administrator : Op → Option Address
  | .addSigner caller _ => some caller
  | .removeSigner caller _ => some caller
  | .setThreshold caller _ => some caller
  | .setTimelock caller _ _ => some caller
  | .setRateLimit caller _ _ => some caller
  | .pause caller => some caller
  | .unpause caller => some caller
  | .closeEscrow caller _ => some caller
  | _ => none

/-- The caller whose approval is entered. -/
def Op.approver : Op → Option Address
  | .submitTransaction submitter _ _ _ => some submitter
  | .approveTransaction signer _ => some signer
  | _ => none

theorem administrator_of_configures (h : op.configures = true) : op.administrator ≠ none := by
  cases op <;> simp_all [Op.configures, Op.administrator]

theorem requireAdmin_ok {u : Unit} (h : requireAdmin env config who = .ok u) :
    env.authorized who = true ∧ isAdmin env config who = .ok true := by
  unfold requireAdmin at h
  obtain ⟨hauth, h⟩ := requireAuth_bind.mp h
  obtain ⟨admin, hadmin, h⟩ := bind_ok.mp h
  cases admin with
  | false => cases h
  | true => exact ⟨hauth, hadmin⟩

theorem administrator_isAdmin (hop : op.administrator = some caller)
    (h : invoke tok self env op s = .ok s') :
    env.authorized caller = true ∧
      ∃ config, s.config = some config ∧ isAdmin env config caller = .ok true := by
  cases op <;> cases hop <;>
  · obtain ⟨config, hconfig, h⟩ := okOr_bind.mp h
    obtain ⟨u, hadmin, -⟩ := bind_ok.mp h
    obtain ⟨hauth, hadmin⟩ := requireAdmin_ok hadmin
    exact ⟨hauth, config, hconfig, hadmin⟩

theorem approver_authorized (hop : op.approver = some who)
    (h : invoke tok self env op s = .ok s') : env.authorized who = true := by
  cases op <;> cases hop
  · obtain ⟨_, h, -⟩ := map_ok.mp h
    obtain ⟨config, -, h⟩ := okOr_bind.mp h
    obtain ⟨-, h⟩ := failIf_bind.mp h
    obtain ⟨u, hallowed, -⟩ := bind_ok.mp h
    exact (requireAuth_bind.mp hallowed).1
  · obtain ⟨config, -, h⟩ := okOr_bind.mp h
    obtain ⟨u, hsigner, -⟩ := bind_ok.mp h
    exact (requireAuth_bind.mp hsigner).1

/-- What a coalition leaves as it was: the settings, the signers, the approvals of others, and
what only others can let through. -/
structure Kept (A : Finset Address) (s₀ s : State τ) : Prop where
  config : s.config = s₀.config
  signer : s.signer = s₀.signer
  approvals : ∀ id tx, s.transaction.get? id = some tx → ∀ who ∈ tx.approvers,
    who ∈ A ∨ ∃ tx₀, s₀.transaction.get? id = some tx₀ ∧ who ∈ tx₀.approvers
  executed : ∀ id tx, s.transaction.get? id = some tx → tx.executed = true →
    ∃ tx₀, s₀.transaction.get? id = some tx₀ ∧
      (tx₀.executed = true ∨ ∃ who ∈ tx₀.approvers, who ∉ A)

/-- A list of different approvers that is as long as the threshold has one from outside. -/
theorem exists_outside {approvers : List Address} (hnodup : approvers.Nodup)
    (hlen : A.card < approvers.length) : ∃ who ∈ approvers, who ∉ A := by
  by_contra hall
  push Not at hall
  have hsub : approvers.toFinset ⊆ A := fun who hw => hall who (List.mem_toFinset.mp hw)
  have hcard := Finset.card_le_card hsub
  rw [List.toFinset_card_of_nodup hnodup] at hcard
  omega

/-- A transaction rewritten with approvals that it had or that the coalition gave. -/
theorem Kept.rewrite (hk : Kept A s₀ s) {txId : ℕ} (tx : EscrowTransaction)
    (happrovers : ∀ who ∈ tx.approvers,
      who ∈ A ∨ ∃ tx₀, s₀.transaction.get? txId = some tx₀ ∧ who ∈ tx₀.approvers)
    (hexecuted : tx.executed = true → ∃ tx₀, s₀.transaction.get? txId = some tx₀ ∧
      (tx₀.executed = true ∨ ∃ who ∈ tx₀.approvers, who ∉ A))
    (hconfig : s'.config = s.config) (hsigner : s'.signer = s.signer)
    (htx : s'.transaction = s.transaction.set txId tx) : Kept A s₀ s' where
  config := hconfig.trans hk.config
  signer := hsigner.trans hk.signer
  approvals := by
    rw [htx]
    exact Store.forall_set hk.approvals happrovers
  executed := by
    rw [htx]
    exact Store.forall_set hk.executed hexecuted

theorem Kept.same (hk : Kept A s₀ s) (hconfig : s'.config = s.config)
    (hsigner : s'.signer = s.signer) (htx : s'.transaction = s.transaction) : Kept A s₀ s' :=
  ⟨hconfig.trans hk.config, hsigner.trans hk.signer, htx ▸ hk.approvals, htx ▸ hk.executed⟩

theorem kept_step (hk : Kept A s₀ s) (hconfig : s₀.config = some config)
    (hfew : A.card < config.requiredApprovals)
    (hnodup : ∀ id tx, s.transaction.get? id = some tx → tx.approvers.Nodup)
    (hadmin : op.administrator = none) (hmember : ∀ who, op.approver = some who → who ∈ A)
    (heffect : Effect tok self s (.call env op) s') : Kept A s₀ s' := by
  have hnow : s.config = some config := hk.config.trans hconfig
  cases heffect with
  | initializeContract _ _ _ _ _ _ fresh => cases hnow.symm.trans fresh
  | configure _ _ _ _ _ configures => exact absurd hadmin (administrator_of_configures configures)
  | addSigner | removeSigner | closeEscrow => cases hadmin
  | createEscrow | deposit => exact hk.same rfl rfl rfl
  | submitTransaction _ submitter escrowId recipient amount =>
    refine hk.rewrite _ (fun who hw => .inl ?_) (fun h => (by cases h)) rfl rfl rfl
    rw [List.mem_singleton.mp hw]
    exact hmember submitter rfl
  | approveTransaction _ signer txId tx _ found =>
    refine hk.rewrite { tx with approvers := tx.approvers ++ [signer] }
      (fun who hw => ?_) (hk.executed txId tx found) rfl rfl rfl
    rcases List.mem_append.mp hw with hw | hw
    · exact hk.approvals txId tx found who hw
    · rw [List.mem_singleton.mp hw]
      exact .inl (hmember signer rfl)
  | revokeApproval _ signer txId tx found =>
    exact hk.rewrite { tx with approvers := tx.approvers.erase signer }
      (fun who hw => hk.approvals txId tx found who (List.mem_of_mem_erase hw))
      (hk.executed txId tx found) rfl rfl rfl
  | executeTransaction _ txId config' tx record tokens global initialized found pending approved =>
    obtain rfl : config' = config := Option.some.inj (initialized.symm.trans hnow)
    refine hk.rewrite { tx with executed := true, executedAt := env.timestamp }
      (hk.approvals txId tx found) (fun _ => ?_) rfl rfl rfl
    -- Somebody outside is among the approvers, and approved before the coalition moved.
    obtain ⟨who, hw, hout⟩ := exists_outside (hnodup txId tx found) (hfew.trans_le approved)
    obtain hin | ⟨tx₀, htx₀, hw₀⟩ := hk.approvals txId tx found who hw
    · exact absurd hin hout
    · exact ⟨tx₀, htx₀, .inr ⟨who, hw₀, hout⟩⟩
  | cancelTransaction _ _ txId tx found =>
    exact hk.rewrite { tx with cancelled := true } (hk.approvals txId tx found)
      (hk.executed txId tx found) rfl rfl rfl

section Runs

variable {tokens : τ}

/-- A run of both contracts is one of the escrow and one of the other. -/
theorem joint_runs (h : Joint.Reachable tok self ac tokens j) :
    Steps (Escrow.next tok self) (fun _ _ => True) (Escrow.deployed tokens) j.escrow ∧
      Steps AccessControl.next (fun _ _ => True) AccessControl.deployed j.roles := by
  refine h.preserves (P := fun j =>
    Steps (Escrow.next tok self) (fun _ _ => True) (Escrow.deployed tokens) j.escrow ∧
      Steps AccessControl.next (fun _ _ => True) AccessControl.deployed j.roles) ?_
    ⟨.refl _, .refl _⟩
  rintro j a j' - hn ⟨hescrow, hroles⟩
  cases a with
  | roles env op =>
    obtain ⟨roles, hr, rfl⟩ := map_ok.mp hn
    exact ⟨hescrow, hroles.tail trivial hr⟩
  | escrow env op =>
    obtain ⟨s, hs, rfl⟩ := map_ok.mp hn
    exact ⟨hescrow.tail trivial hs, hroles⟩
  | transfers tokens =>
    cases hn
    exact ⟨hescrow.tail (a := .transfers tokens) trivial rfl, hroles⟩

theorem joint_approved (h : Joint.Reachable tok self ac tokens j) : ∃ log, Approved log j.escrow :=
  (joint_runs h).1.preserves (P := fun s => ∃ log, Approved log s)
    (fun _ _ _ _ hn ⟨_, hlog⟩ => ⟨_, approved_step hlog (next_effect hn)⟩)
    ⟨[], fun _ _ hk => (by cases hk)⟩

/-- Somebody who is neither the stored admin nor holds the Admin role is no admin. -/
theorem not_isAdmin (hlink : ∀ contract, config.accessControl = some contract → contract = ac)
    (hadmin : who ≠ config.admin) (hrole : hasRole j.roles .admin who = false) :
    isAdmin (Joint.ledger ac env j.roles) config who = .ok false := by
  unfold isAdmin Joint.ledger
  rw [if_neg hadmin]
  cases hc : config.accessControl with
  | none => rfl
  | some contract =>
    obtain rfl := hlink contract hc
    simp only [if_true, hrole]

/-- A coalition that has fewer members than the threshold, not the stored admin, and nobody in
the Admin role or in a role above it: in no run of its calls, on either contract and in any order,
does it change the settings, the signers or who holds the Admin role, and each transaction it gets
executed was approved by somebody outside it before the run. -/
theorem coalition_without_admin {tokens : τ} {j j' : Joint τ} {config : EscrowConfig}
    {A : Finset Address}
    (hreached : Joint.Reachable tok self ac tokens j)
    (hconfig : j.escrow.config = some config)
    (hlink : ∀ contract, config.accessControl = some contract → contract = ac)
    (hflag : j.roles.initialized.isSome = true)
    (hfew : A.card < config.requiredApprovals) (hadmin : config.admin ∉ A)
    (hrole : ∀ who ∈ A, hasRole j.roles .admin who = false) (hreach : ¬ Reaches A j.roles .admin)
    (hrun : Joint.RunBy tok self ac A j j') :
    j'.escrow.config = some config ∧ j'.escrow.signer = j.escrow.signer ∧
      (∀ who, hasRole j'.roles .admin who = hasRole j.roles .admin who) ∧
      ∀ id tx, j'.escrow.transaction.get? id = some tx → tx.executed = true →
        ∃ tx₀, j.escrow.transaction.get? id = some tx₀ ∧
          (tx₀.executed = true ∨ ∃ who ∈ tx₀.approvers, who ∉ A) := by
  have hi := AccessControl.initialized_of_run (joint_runs hreached).2 hflag
  have hinv : Kept A j.escrow j'.escrow ∧ AccessControl.Initialized j'.roles ∧
      j.roles.hierarchy.Frozen j'.roles.hierarchy .admin ∧ ∃ log, Approved log j'.escrow := by
    refine hrun.preserves (P := fun t => Kept A j.escrow t.escrow ∧
      AccessControl.Initialized t.roles ∧ j.roles.hierarchy.Frozen t.roles.hierarchy .admin ∧
      ∃ log, Approved log t.escrow) ?_
      ⟨⟨rfl, rfl, fun id tx h who hw => .inr ⟨tx, h, hw⟩, fun id tx h he => ⟨tx, h, .inl he⟩⟩, hi,
        Hierarchy.Frozen.refl _ _, joint_approved hreached⟩
    rintro t a t' hby hn ⟨hkept, hroles, hfrozen, log, hlog⟩
    cases a with
    | transfers tokens =>
      cases hn
      exact ⟨hkept.same rfl rfl rfl, hroles, hfrozen, log, hlog⟩
    | roles env op =>
      obtain ⟨roles, hr, rfl⟩ := map_ok.mp hn
      obtain ⟨hroles', hact⟩ := AccessControl.next_act (A := A) (a := (env, op)) hroles hby hr
      exact ⟨hkept, hroles', hfrozen.act hreach hact, log, hlog⟩
    | escrow env op =>
      obtain ⟨s, hs, rfl⟩ := map_ok.mp hn
      refine ⟨?_, hroles, hfrozen, _, approved_step hlog (next_effect hs)⟩
      have happrover : ∀ who, op.approver = some who → who ∈ A := fun who hw =>
        have hauth : (Joint.ledger ac env t.roles).authorized who = true := approver_authorized hw hs
        hby who hauth
      refine kept_step hkept hconfig hfew (fun id tx h => (hlog id tx h).1) ?_ happrover
        (next_effect hs)
      -- A call that asks for an admin is refused: no member is one.
      cases hop : op.administrator with
      | none => rfl
      | some caller =>
        obtain ⟨hauth, config', hconfig', hisAdmin⟩ := administrator_isAdmin hop hs
        obtain rfl : config' = config :=
          Option.some.inj (hconfig'.symm.trans (hkept.config.trans hconfig))
        have hmember : caller ∈ A := hby caller hauth
        have hnot : hasRole t.roles .admin caller = false := by
          rw [Bool.eq_iff_iff.mpr (hfrozen.same.1 caller)]
          exact hrole caller hmember
        rw [not_isAdmin hlink (fun h => hadmin (h ▸ hmember)) hnot] at hisAdmin
        cases hisAdmin
  obtain ⟨hkept, -, hfrozen, -⟩ := hinv
  exact ⟨hkept.config.trans hconfig, hkept.signer,
    fun who => Bool.eq_iff_iff.mpr (hfrozen.same.1 who), hkept.executed⟩

namespace Sample

def accessContract : Address := ⟨7⟩

/-- Two of three signers; the access control contract is linked, and its first admin is the
escrow's. Then alice, who is a signer, submits a payment. -/
def delegated : List (Joint.Act Balances) := [
  .roles (AccessControl.signedBy admin) (.initializeContract admin),
  .escrow (Sample.env 0) (.initializeContract admin [alice, bob, carol] 2
    { settings with accessControl := some accessContract }),
  .escrow (Sample.env 0) (.createEscrow dave usdc true "rent"),
  .escrow (Sample.env 0) (.deposit 1 dave 1000),
  .escrow (Sample.env 0) (.submitTransaction alice 1 alice 1000)]

end Sample

open Sample in
/-- Alone, alice does not get her payment executed. -/
theorem coalition_without_admin_alone :
    ∃ j, Joint.Reachable asset contract accessContract (Balances.issue [(usdc, dave, 10 ^ 6)]) j ∧
      ∀ j', Joint.RunBy asset contract accessContract {alice} j j' →
        ∀ tx, j'.escrow.transaction.get? 1 = some tx → tx.executed = false := by
  obtain ⟨j, hj, ⟨config, hconfig, hrequired, hac, hadmin⟩, hflag, hhas, hnone, tx₀, htx₀, hpending,
    happrovers⟩ := After.exists_ok
    (P := fun j : Joint Balances =>
      (∃ config ∈ j.escrow.config, config.requiredApprovals = 2 ∧
        config.accessControl = some accessContract ∧ config.admin = admin) ∧
      j.roles.initialized.isSome = true ∧
      (∀ role ∈ AccessControl.allRoles, j.roles.roleAdmin.get? role = some .admin) ∧
      hasRole j.roles .admin alice = false ∧
      ∃ tx ∈ j.escrow.transaction.get? 1, tx.executed = false ∧ tx.approvers = [alice])
    (r := execute (Joint.next asset contract accessContract) delegated
      (Joint.deployed (Balances.issue [(usdc, dave, 10 ^ 6)]))) (by decide +kernel)
  have hreached : Joint.Reachable asset contract accessContract _ j :=
    execute_steps _ (fun _ _ _ => trivial) hj
  refine ⟨j, hreached, fun j' hrun tx htx => ?_⟩
  have hreach : ¬ Reaches {alice} j.roles .admin := by
    rintro ⟨n, who, rfl, hwho⟩
    have hall : ∀ role, j.roles.hierarchy.admin role = .admin := fun role => by
      simp [AccessControl.State.hierarchy, hhas role (AccessControl.mem_allRoles role)]
    have habove : j.roles.hierarchy.admin^[n] (j.roles.hierarchy.admin .admin) = .admin := by
      rw [← Function.iterate_succ_apply, Function.iterate_succ_apply', hall]
    rw [habove, hnone] at hwho
    cases hwho
  have hkept := coalition_without_admin (A := {alice}) hreached hconfig
    (fun _ h => (Option.some.inj (hac.symm.trans h)).symm) hflag (by simp [hrequired])
    (by rw [hadmin]; decide) (by simpa using hnone) (by simpa using hreach) (by simpa using hrun)
  by_contra hexecuted
  obtain ⟨tx₁, htx₁, hwhy⟩ := hkept.2.2.2 1 tx htx (by simpa using hexecuted)
  obtain rfl := Option.some.inj (htx₀.symm.trans htx₁)
  simp [hpending, happrovers] at hwhy

end Runs

end Escrow
