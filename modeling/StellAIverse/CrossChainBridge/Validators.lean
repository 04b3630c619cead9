import StellAIverse.CrossChainBridge.Effects

/-!
# The quorum of the validators

The number of signatures that a completion needs is cached. Additions compute it
from a counter that removals do not lower, and the percentage is rounded down.
Where neither makes a difference, two quorums have a validator in common.
-/

namespace CrossChainBridge

open Soroban

variable {τ : Type} {tok : MintToken τ} {host : Host} {self : Address} {s s' : State τ}
  {a : Action τ} {log : List (State τ × Action τ)}

def Validator.activity (validator : Validator) : ℤ := if validator.isActive = true then 1 else 0

/-- The number of validators that are active. -/
def activeCount (s : State τ) : ℤ := s.validator.total fun _ validator => validator.activity

def isActive (s : State τ) (who : Address) : Bool :=
  match s.validator.get? who with
  | some validator => validator.isActive
  | none => false

theorem activity_nonneg (validator : Validator) : 0 ≤ validator.activity := by
  unfold Validator.activity
  split <;> decide

theorem weight_of_isActive {who : Address} (h : isActive s who = true) :
    s.validator.weight (fun _ validator => validator.activity) who = 1 := by
  unfold isActive at h
  split at h
  · rename_i validator hfound
    rw [Store.weight_some hfound]
    exact if_pos h
  · cases h

/-- Different active validators are no more than there are. -/
theorem length_le_activeCount {members : List Address} (hnodup : members.Nodup)
    (hactive : ∀ who ∈ members, isActive s who = true) : (members.length : ℤ) ≤ activeCount s := by
  have hle := Store.sum_weight_le_total (w := fun _ validator => validator.activity) (s := s.validator)
    hnodup fun _ validator _ => activity_nonneg validator
  have hones : members.map (s.validator.weight fun _ validator => validator.activity) =
      members.map fun _ => (1 : ℤ) :=
    List.map_congr_left fun who hwho => weight_of_isActive (hactive who hwho)
  rw [hones] at hle
  simpa [activeCount] using hle

/-- Rounding down does not lower the number of signatures: below one they are raised to one. -/
def Whole (n : ℕ) : Prop := n ≤ 100 ∨ n % 100 = 0

instance (n : ℕ) : Decidable (Whole n) := inferInstanceAs (Decidable (_ ∨ _))

/-- The configuration is that of the active validators, and the percentage comes out even. -/
structure Staffed (s : State τ) (config : SignatureConfig) : Prop where
  total : (config.totalValidators : ℤ) = activeCount s
  bounded : config.totalValidators < 2 ^ 32
  required : config.requiredSignatures = requiredOf config.totalValidators config.quorumPercentage
  whole : Whole (config.totalValidators * config.quorumPercentage)

/-- A majority that is at most all of them. -/
def Majority (config : SignatureConfig) : Prop :=
  51 ≤ config.quorumPercentage ∧ config.quorumPercentage ≤ 100

theorem requiredOf_eq {total percentage : ℕ} (htotal : total < 2 ^ 32) (hle : percentage ≤ 100) :
    requiredOf total percentage = max (total * percentage / 100) 1 := by
  have hproduct : total * percentage ≤ total * 100 := Nat.mul_le_mul_left total hle
  unfold requiredOf
  rw [Nat.mod_eq_of_lt (by omega)]

theorem Staffed.covers {config : SignatureConfig} (h : Staffed s config) (hm : Majority config) :
    config.totalValidators * config.quorumPercentage ≤ config.requiredSignatures * 100 := by
  have hwhole := h.whole
  unfold Whole at hwhole
  rw [h.required, requiredOf_eq h.bounded hm.2]
  omega

theorem Staffed.le_total {config : SignatureConfig} (h : Staffed s config) (hm : Majority config)
    (hsome : 0 < config.totalValidators) : config.requiredSignatures ≤ config.totalValidators := by
  have hproduct : config.totalValidators * config.quorumPercentage ≤ config.totalValidators * 100 :=
    Nat.mul_le_mul_left config.totalValidators hm.2
  rw [h.required, requiredOf_eq h.bounded hm.2]
  omega

/-- Two sets of active validators, each large enough to complete a transfer. -/
theorem Staffed.share {config : SignatureConfig} (h : Staffed s config) (hm : Majority config)
    {first second : List Address} (hfirst : first.Nodup) (hsecond : second.Nodup)
    (hactive : ∀ who ∈ first, isActive s who = true)
    (hactive' : ∀ who ∈ second, isActive s who = true)
    (henough : config.requiredSignatures ≤ first.length)
    (henough' : config.requiredSignatures ≤ second.length) : ∃ who ∈ first, who ∈ second := by
  by_contra hnone
  have hdisjoint : first.Disjoint second := fun who hmem hmem' => hnone ⟨who, hmem, hmem'⟩
  have hle := length_le_activeCount (hfirst.append hsecond hdisjoint) fun who hwho =>
    (List.mem_append.mp hwho).elim (hactive who) (hactive' who)
  rw [List.length_append, ← h.total] at hle
  have hcovers := h.covers hm
  have hmajority : config.totalValidators * 51 ≤ config.totalValidators * config.quorumPercentage :=
    Nat.mul_le_mul_left _ hm.1
  have hleast : 1 ≤ config.requiredSignatures := by
    rw [h.required]
    exact le_max_right _ _
  omega

def Adds (e : State τ × Action τ) : Prop :=
  match e.2 with
  | .call _ (.addValidator _ _ _) => True
  | _ => False

instance : DecidablePred (Adds : State τ × Action τ → Prop)
  | (_, .call _ (.addValidator _ _ _)) => .isTrue trivial
  | (_, .call _ (.initializeContract _ _ _ _ _)) => .isFalse id
  | (_, .call _ (.removeValidator _)) => .isFalse id
  | (_, .call _ (.addSupportedToken _ _ _ _ _ _)) => .isFalse id
  | (_, .call _ (.initiateTransfer _ _ _ _ _ _)) => .isFalse id
  | (_, .call _ (.completeTransfer _ _)) => .isFalse id
  | (_, .call _ .pauseBridge) => .isFalse id
  | (_, .call _ .unpauseBridge) => .isFalse id
  | (_, .call _ (.collectFees _)) => .isFalse id
  | (_, .transfers _) => .isFalse id

/-- The percentage of the new number of validators comes out even, and a validator is added
only while none was removed. -/
def Action.KeepsQuorum (s : State τ) : Action τ → Prop
  | .call _ (.addValidator _ _ _) => activeCount s = s.validatorCount.getD 0 ∧
      ∀ config ∈ s.signatureConfig, Whole ((s.validatorCount.getD 0 + 1) * config.quorumPercentage)
  | .call _ (.removeValidator _) =>
      ∀ config ∈ s.signatureConfig, Whole ((config.totalValidators - 1) * config.quorumPercentage)
  | _ => True

instance (s : State τ) : DecidablePred (Action.KeepsQuorum s)
  | .call _ (.addValidator _ _ _) => inferInstanceAs (Decidable (_ ∧ _))
  | .call _ (.removeValidator _) => inferInstanceAs (Decidable (∀ config ∈ s.signatureConfig, _))
  | .call _ (.initializeContract _ _ _ _ _) => .isTrue trivial
  | .call _ (.addSupportedToken _ _ _ _ _ _) => .isTrue trivial
  | .call _ (.initiateTransfer _ _ _ _ _ _) => .isTrue trivial
  | .call _ (.completeTransfer _ _) => .isTrue trivial
  | .call _ .pauseBridge => .isTrue trivial
  | .call _ .unpauseBridge => .isTrue trivial
  | .call _ (.collectFees _) => .isTrue trivial
  | .transfers _ => .isTrue trivial

structure Enrolled (log : List (State τ × Action τ)) (s : State τ) : Prop where
  majority : ∀ config, s.signatureConfig = some config → Majority config
  nobody : (∀ e ∈ log, ¬ Adds e) → s.validator = .empty
  staffed : (∃ e ∈ log, Adds e) → ∃ config, s.signatureConfig = some config ∧ Staffed s config

/-- An invocation that concerns no validator. -/
theorem Enrolled.later (h : Enrolled log s) (hquiet : ¬ Adds (s, a))
    (hvalidator : s'.validator = s.validator) (hconfig : s'.signatureConfig = s.signatureConfig) :
    Enrolled ((s, a) :: log) s' := by
  constructor
  · rw [hconfig]
    exact h.majority
  · intro hnone
    rw [hvalidator]
    exact h.nobody fun e he => hnone e (List.mem_cons_of_mem _ he)
  · rintro ⟨e, he, hadds⟩
    rcases List.mem_cons.mp he with rfl | he
    · exact absurd hadds hquiet
    · obtain ⟨config, hfound, hstaffed⟩ := h.staffed ⟨e, he, hadds⟩
      refine ⟨config, hconfig.trans hfound, ⟨?_, hstaffed.bounded, hstaffed.required, hstaffed.whole⟩⟩
      rw [hstaffed.total]
      unfold activeCount
      rw [hvalidator]

theorem enrolled_step (h : Enrolled log s) (hfresh : Fresh s) (hkeeps : a.KeepsQuorum s)
    (heffect : Effect tok self s a s') : Enrolled ((s, a) :: log) s' := by
  cases heffect with
  | initializeContract env admin chainId signatureConfig feeConfig rateLimitConfig fresh majority
      percentage =>
    have hs := hfresh fresh
    refine ⟨?_, fun _ => ?_, ?_⟩
    · rintro config ⟨⟩
      exact ⟨majority, percentage⟩
    · rw [hs]
      rfl
    · -- Nobody was added before, as the configuration was not there.
      rintro ⟨e, he, hadds⟩
      rcases List.mem_cons.mp he with rfl | he
      · exact absurd hadds id
      · obtain ⟨config, hfound, -⟩ := h.staffed ⟨e, he, hadds⟩
        rw [hs] at hfound
        cases hfound
  | addValidator env validatorAddress publicKey power config new bounded configured =>
    obtain ⟨hcount, hwhole⟩ := hkeeps
    refine ⟨?_, fun hnone => ?_, fun _ => ⟨_, rfl, ?_, bounded, rfl, hwhole config configured⟩⟩
    · rintro config' ⟨⟩
      exact h.majority config configured
    · exact absurd trivial (hnone _ List.mem_cons_self)
    · unfold activeCount at hcount ⊢
      rw [Store.total_set, Store.weight_none new, hcount]
      simp [Validator.activity]
  | removeValidator env validatorAddress validator config found active configured =>
    have hadded : ∃ e ∈ log, Adds e := by
      by_contra hnone
      rw [h.nobody fun e he hadds => hnone ⟨e, he, hadds⟩] at found
      cases found
    obtain ⟨config', hfound, hstaffed⟩ := h.staffed hadded
    obtain rfl : config = config' := Option.some.inj (configured.symm.trans hfound)
    have hpositive := length_le_activeCount (s := s) (List.nodup_singleton validatorAddress)
      (by simp [isActive, found, active])
    rw [← hstaffed.total, List.length_singleton] at hpositive
    refine ⟨?_, fun hnone => ?_, fun _ => ⟨_, rfl, ?_, ?_, rfl, hkeeps config configured⟩⟩
    · rintro config' ⟨⟩
      exact h.majority config configured
    · obtain ⟨e, he, hadds⟩ := hadded
      exact absurd hadds (hnone e (List.mem_cons_of_mem _ he))
    · have htotal := hstaffed.total
      unfold activeCount at htotal ⊢
      rw [Store.total_set, Store.weight_some found, ← htotal]
      simp only [Validator.activity, active, if_true]
      push_cast [Nat.cast_sub (show 1 ≤ config.totalValidators by omega)]
      simp
    · exact lt_of_le_of_lt (Nat.sub_le _ _) hstaffed.bounded
  | _ => exact h.later id rfl rfl

theorem history_enrolled {start : τ}
    (hrun : History (next tok host self) (fun _ s a => a.KeepsQuorum s) (deployed start) log s) :
    Enrolled log s := by
  refine run_preserves hrun ⟨fun _ hconfig => (by cases hconfig), fun _ => rfl, ?_⟩ ?_
  · rintro ⟨e, he, -⟩
    cases he
  · intro log s a s' hfresh hkeeps heffect h
    exact enrolled_step h hfresh hkeeps heffect

/-- The configuration counts the active validators; if there are some, it asks for the percentage
of them, and two quorums have a validator in common. -/
def QuorumSound (s : State τ) : Prop :=
  ∃ config, s.signatureConfig = some config ∧ (config.totalValidators : ℤ) = activeCount s ∧
    (0 < config.totalValidators →
      1 ≤ config.requiredSignatures ∧ config.requiredSignatures ≤ config.totalValidators ∧
      config.totalValidators * config.quorumPercentage ≤ config.requiredSignatures * 100 ∧
      ∀ first second : List Address, first.Nodup → second.Nodup →
        (∀ who ∈ first, isActive s who = true) → (∀ who ∈ second, isActive s who = true) →
        config.requiredSignatures ≤ first.length → config.requiredSignatures ≤ second.length →
        ∃ who ∈ first, who ∈ second)

/-- In every run that adds validators only while none was removed, and only changes their number
to one of which the percentage comes out even, the quorum is sound from the first addition on. -/
theorem quorum_sound {start : τ}
    (hrun : History (next tok host self) (fun _ s a => a.KeepsQuorum s) (deployed start) log s)
    (hadded : ∃ e ∈ log, Adds e) : QuorumSound s := by
  have henrolled := history_enrolled hrun
  obtain ⟨config, hconfig, hstaffed⟩ := henrolled.staffed hadded
  have hmajority := henrolled.majority config hconfig
  refine ⟨config, hconfig, hstaffed.total, fun hsome => ⟨?_, ?_, ?_, ?_⟩⟩
  · rw [hstaffed.required]
    exact le_max_right _ _
  · exact hstaffed.le_total hmajority hsome
  · exact hstaffed.covers hmajority
  · intro first second hfirst hsecond hactive hactive' henough henough'
    exact hstaffed.share hmajority hfirst hsecond hactive hactive' henough henough'

namespace Sample

def contract : Address := ⟨0⟩

def admin : Address := ⟨1⟩

def usdc : Address := ⟨2⟩

def wbtc : Address := ⟨3⟩

def alice : Address := ⟨4⟩

def bob : Address := ⟨5⟩

def collector : Address := ⟨6⟩

/-- Everybody authorises. -/
def env (timestamp : ℕ) : Env := ⟨timestamp, fun _ => true⟩

/-- The keys of validators, and what such a key signs. -/
def key (n : UInt8) : Bytes := List.replicate 32 n

def verifier : Host where
  ed25519Verify publicKey _ signature := decide (signature = publicKey ++ publicKey)
  addressFromStringBytes
    | [n] => some ⟨n.toNat⟩
    | _ => none

def start : State Balances :=
  deployed (Balances.issue [(usdc, alice, 10 ^ 6), (wbtc, alice, 10 ^ 6)])

/-- Fees of one percent, and the limits of a day and of a month. -/
def opened (quorumPercentage : ℕ) (dailyLimit monthlyLimit : ℤ) : Op :=
  .initializeContract admin .stellar ⟨1, 0, quorumPercentage⟩ ⟨100, 0, collector⟩
    ⟨dailyLimit, monthlyLimit, 10 ^ 6, 1⟩

/-- Invocations, each at its ledger time. -/
def calls (ops : List (ℕ × Op)) : List (Action Balances) := ops.map fun e => .call (env e.1) e.2

end Sample

section Runs

open Sample

/-- Everybody has to sign, and one of three validators leaves. -/
def unanimous : List (ℕ × Op) := [
  (0, opened 100 1000 5000),
  (1, .addValidator alice (key 1) 1),
  (2, .addValidator bob (key 2) 1),
  (3, .addValidator admin (key 3) 1),
  (4, .removeValidator admin)]

theorem quorum_sound_unanimous :
    ∃ log s, History (next issuedAsset verifier contract) (fun _ s a => a.KeepsQuorum s) start log s ∧
      (∃ config ∈ s.signatureConfig, config.requiredSignatures = 2) ∧ QuorumSound s := by
  have h : After (fun h => (∃ config ∈ h.2.signatureConfig, config.requiredSignatures = 2) ∧
        ∃ e ∈ h.1, Adds e)
      (record (next issuedAsset verifier contract) (fun _ s a => a.KeepsQuorum s) (calls unanimous)
        ([], start)) := by
    decide +kernel
  obtain ⟨⟨log, s⟩, hrec, hrequired, hadded⟩ := h.exists_ok
  have hrun : History (next issuedAsset verifier contract) (fun _ s a => a.KeepsQuorum s) start log s :=
    record_run hrec
  exact ⟨log, s, hrun, hrequired, quorum_sound hrun hadded⟩

/-- Of two validators one may sign alone. -/
def halved : List (ℕ × Op) := [
  (0, opened 51 1000 5000),
  (1, .addValidator alice (key 1) 1),
  (2, .addValidator bob (key 2) 1)]

theorem quorum_rounded_down :
    ¬ ∀ (log : List (State Balances × Action Balances)) (s : State Balances),
      History (next issuedAsset verifier contract) (fun _ _ _ => True) start log s →
      (∃ e ∈ log, Adds e) → QuorumSound s := by
  have h : After (fun h => (∃ e ∈ h.1, Adds e) ∧ ∃ config ∈ h.2.signatureConfig,
        config.totalValidators = 2 ∧ config.quorumPercentage = 51 ∧ config.requiredSignatures = 1)
      (record (next issuedAsset verifier contract) (fun _ _ _ => True) (calls halved)
        ([], start)) := by
    decide +kernel
  obtain ⟨⟨log, s⟩, hrec, hadded, config, hconfig, htotal, hquorum, hrequired⟩ := h.exists_ok
  have hrun : History (next issuedAsset verifier contract) (fun _ _ _ => True) start log s :=
    record_history _ (fun _ _ _ _ _ => trivial) .nil hrec
  intro hall
  obtain ⟨config', hconfig', -, hsound⟩ := hall log s hrun hadded
  obtain rfl : config = config' := Option.some.inj (hconfig.symm.trans hconfig')
  obtain ⟨-, -, hcovers, -⟩ := hsound (by omega)
  rw [htotal, hquorum, hrequired] at hcovers
  exact absurd hcovers (by decide)

end Runs

end CrossChainBridge
