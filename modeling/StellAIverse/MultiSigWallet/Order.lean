import Mathlib.Data.List.DropRight
import StellAIverse.MultiSigWallet.Quorum

/-!
# Strict order of executions

Ids and nonces are given out together, and only the transaction whose nonce is
next is executed. So what was executed is always an initial part of what was
submitted, in the same order, and the history says which.
-/

namespace MultiSigWallet

open Soroban

variable {τ : Type} {tok : Token τ} {self : Address} {s s' : State τ} {a : Action τ}
  {log : List (State τ × Action τ)}

/-- The id an invocation gave to a new transaction. -/
def submittedId (e : State τ × Action τ) : Option ℕ :=
  match e.2 with
  | .call _ (.submitTransaction _ _ _ _ _) => e.1.config.map (·.nextTxId)
  | _ => none

/-- The id of the transaction an invocation executed. -/
def executedId (e : State τ × Action τ) : Option ℕ :=
  match e.2 with
  | .call _ (.executeTransaction _ txId) => some txId
  | _ => none

/-- The ids in the order of submission. -/
def submittedIds (log : List (State τ × Action τ)) : List ℕ := (log.filterMap submittedId).reverse

/-- The ids in the order of execution. -/
def executedIds (log : List (State τ × Action τ)) : List ℕ := (log.filterMap executedId).reverse

theorem submittedIds_cons (e : State τ × Action τ) (log : List (State τ × Action τ)) :
    submittedIds (e :: log) = submittedIds log ++ (submittedId e).toList := by
  unfold submittedIds
  rw [List.filterMap_cons]
  cases submittedId e <;> simp

theorem executedIds_cons (e : State τ × Action τ) (log : List (State τ × Action τ)) :
    executedIds (e :: log) = executedIds log ++ (executedId e).toList := by
  unfold executedIds
  rw [List.filterMap_cons]
  cases executedId e <;> simp

/-- A counter of the configuration, which starts at one. -/
def counter (f : WalletConfig → ℕ) (s : State τ) : ℕ := (s.config.map f).getD 1

theorem counter_of_config {f : WalletConfig → ℕ} {config : WalletConfig}
    (h : s.config = some config) : counter f s = f config := by
  simp [counter, h]

structure InOrder (log : List (State τ × Action τ)) (s : State τ) : Prop where
  stored : ∀ id, (s.transaction.get? id).isSome = true ↔ 1 ≤ id ∧ id < counter (·.nextTxId) s
  nonces : ∀ id tx, s.transaction.get? id = some tx → tx.txId = id ∧ tx.nonce = id ∧
    (tx.executed = true ↔ id < counter (·.nextExecutableNonce) s)
  together : counter (·.nextNonce) s = counter (·.nextTxId) s
  begun : 1 ≤ counter (·.nextExecutableNonce) s
  behind : counter (·.nextExecutableNonce) s ≤ counter (·.nextTxId) s
  history : historyIds s = List.range' 1 (counter (·.nextExecutableNonce) s - 1)
  executed : executedIds log = historyIds s
  submitted : submittedIds log = List.range' 1 (counter (·.nextTxId) s - 1)

/-- An invocation that neither submits nor executes. -/
theorem InOrder.frame (h : InOrder log s) (hsubmitted : submittedId (s, a) = none)
    (hexecuted : executedId (s, a) = none) (htransaction : s'.transaction = s.transaction)
    (hhistory : historyIds s' = historyIds s)
    (hid : counter (·.nextTxId) s' = counter (·.nextTxId) s)
    (hnonce : counter (·.nextNonce) s' = counter (·.nextNonce) s)
    (hnext : counter (·.nextExecutableNonce) s' = counter (·.nextExecutableNonce) s) :
    InOrder ((s, a) :: log) s' := by
  refine ⟨fun id => ?_, fun id tx hk => ?_, ?_, ?_, ?_, ?_, ?_, ?_⟩
  · rw [htransaction, hid]
    exact h.stored id
  · rw [hnext]
    rw [htransaction] at hk
    exact h.nonces id tx hk
  · rw [hnonce, hid]
    exact h.together
  · rw [hnext]
    exact h.begun
  · rw [hnext, hid]
    exact h.behind
  · rw [hhistory, hnext]
    exact h.history
  · rw [executedIds_cons, hexecuted, hhistory]
    simpa using h.executed
  · rw [submittedIds_cons, hsubmitted, hid]
    simpa using h.submitted

/-- New settings under the same counters. -/
theorem InOrder.reconfigured (h : InOrder log s) {config config' : WalletConfig}
    (hconfig : s.config = some config) (hconfig' : s'.config = some config')
    (hid : config'.nextTxId = config.nextTxId) (hnonce : config'.nextNonce = config.nextNonce)
    (hnext : config'.nextExecutableNonce = config.nextExecutableNonce)
    (hsubmitted : submittedId (s, a) = none) (hexecuted : executedId (s, a) = none)
    (htransaction : s'.transaction = s.transaction) (hhistory : historyIds s' = historyIds s) :
    InOrder ((s, a) :: log) s' := by
  refine h.frame hsubmitted hexecuted htransaction hhistory ?_ ?_ ?_
  · rw [counter_of_config hconfig', counter_of_config hconfig, hid]
  · rw [counter_of_config hconfig', counter_of_config hconfig, hnonce]
  · rw [counter_of_config hconfig', counter_of_config hconfig, hnext]

/-- One more number at the end of those before `n`. -/
theorem range'_snoc {n : ℕ} (h : 1 ≤ n) :
    List.range' 1 (n - 1) ++ [n] = List.range' 1 (n + 1 - 1) := by
  obtain ⟨k, rfl⟩ := Nat.exists_eq_add_of_le h
  rw [Nat.add_sub_cancel_left, Nat.add_sub_cancel, Nat.add_comm 1 k, List.range'_1_concat,
    Nat.add_comm 1 k]

theorem range'_prefix {m n : ℕ} (h : m ≤ n) : List.range' 1 m <+: List.range' 1 n := by
  obtain ⟨k, rfl⟩ := Nat.exists_eq_add_of_le h
  exact ⟨List.range' (1 + m) k, List.range'_append_1⟩

theorem submitted_inOrder (h : InOrder log s) {config : WalletConfig} {env : Env}
    {signer token recipient : Address} {amount : ℤ} {memo : String}
    (initialized : s.config = some config) :
    InOrder ((s, .call env (.submitTransaction signer token recipient amount memo)) :: log)
      { s with
        transaction := s.transaction.set config.nextTxId
          ⟨config.nextTxId, config.nextNonce, token, recipient, amount, signer, false,
            env.timestamp, 0, memo⟩
        confirmations := s.confirmations.set config.nextTxId [signer]
        config := some { config with
          nextTxId := config.nextTxId + 1, nextNonce := config.nextNonce + 1 } } := by
  have hcounter := fun f : WalletConfig → ℕ => counter_of_config (f := f) initialized
  obtain ⟨hstored, hnonces, htogether, hbegun, hbehind, hhistory, hexecuted, hsubmitted⟩ := h
  simp only [hcounter] at hstored hnonces htogether hbegun hbehind hhistory hsubmitted
  have hnew : submittedId (s, Action.call env
      (.submitTransaction signer token recipient amount memo)) = some config.nextTxId := by
    simp [submittedId, initialized]
  refine ⟨fun id => ?_, ?_, ?_, hbegun, ?_, hhistory, ?_, ?_⟩
  · have hold := hstored id
    simp only [counter, Option.map_some, Option.getD_some, Store.get?_set]
    split
    · simp only [Option.isSome_some, true_iff]
      omega
    · rw [hold]
      omega
  · refine Store.forall_set hnonces ⟨rfl, htogether, ?_⟩
    simp only [counter, Option.map_some, Option.getD_some, Bool.false_eq_true, false_iff]
    omega
  · exact congrArg (· + 1) htogether
  · exact hbehind.trans (Nat.le_succ _)
  · rw [executedIds_cons]
    exact (List.append_nil _).trans hexecuted
  · rw [submittedIds_cons, hnew, hsubmitted]
    exact range'_snoc (hbegun.trans hbehind)

theorem executed_inOrder (h : InOrder log s) {config : WalletConfig} {env : Env} {signer : Address}
    {txId : ℕ} {tx : WalletTransaction} {dailySpent : Store (Address × ℕ) ℤ} {tokens : τ}
    (initialized : s.config = some config) (found : s.transaction.get? txId = some tx)
    (turn : tx.nonce = config.nextExecutableNonce) :
    InOrder ((s, .call env (.executeTransaction signer txId)) :: log)
      { s with
        transaction := s.transaction.set txId
          { tx with executed := true, executedAt := env.timestamp }
        config := some { config with nextExecutableNonce := config.nextExecutableNonce + 1 }
        executionHistory := some (historyIds s ++ [txId]), dailySpent, tokens
        reentrancyLock := false } := by
  have hcounter := fun f : WalletConfig → ℕ => counter_of_config (f := f) initialized
  obtain ⟨hstored, hnonces, htogether, hbegun, hbehind, hhistory, hexecuted, hsubmitted⟩ := h
  simp only [hcounter] at hstored hnonces htogether hbegun hbehind hhistory hsubmitted
  obtain ⟨htxId, hnonce, -⟩ := hnonces txId tx found
  -- The transaction whose turn it is has been submitted.
  have hnext : txId = config.nextExecutableNonce := hnonce.symm.trans turn
  have hexists := (hstored txId).mp (by rw [found]; rfl)
  have hlast : historyIds s ++ [txId] = List.range' 1 (config.nextExecutableNonce + 1 - 1) := by
    rw [hhistory, hnext]
    exact range'_snoc hbegun
  refine ⟨fun id => ?_, fun id tx' hk => ?_, htogether, Nat.le_succ_of_le hbegun, ?_, hlast, ?_, ?_⟩
  · have hold := hstored id
    simp only [counter, Option.map_some, Option.getD_some, Store.get?_set]
    split
    · rename_i hid
      rw [hid]
      simpa using hexists
    · exact hold
  · simp only [counter, Option.map_some, Option.getD_some, Store.get?_set] at hk ⊢
    split at hk
    · rename_i hid
      cases hk
      refine ⟨htxId.trans hid.symm, hnonce.trans hid.symm, ?_⟩
      simp only [true_iff]
      omega
    · rename_i hid
      obtain ⟨hid', hnonce', hdone⟩ := hnonces id tx' hk
      refine ⟨hid', hnonce', hdone.trans ?_⟩
      omega
  · simp only [counter, Option.map_some, Option.getD_some]
    omega
  · rw [executedIds_cons, hexecuted]
    rfl
  · rw [submittedIds_cons]
    exact (List.append_nil _).trans hsubmitted

theorem inOrder_step (h : InOrder log s) (heffect : Effect tok self s a s') :
    InOrder ((s, a) :: log) s' := by
  cases heffect with
  | initializeContract env admin signers required dailyLimit fresh few quorum distinct =>
    have hone : ∀ f : WalletConfig → ℕ, counter f s = 1 := fun f => by simp [counter, fresh]
    have hhistory := h.history
    rw [hone] at hhistory
    exact h.frame rfl rfl rfl hhistory.symm (hone _).symm (hone _).symm (hone _).symm
  | submitTransaction env signer token recipient amount memo config registered initialized =>
    exact submitted_inOrder h initialized
  | executeTransaction env signer txId config tx dailySpent tokens initialized found pending turn =>
    exact executed_inOrder h initialized found turn
  | addSigner env admin newSigner config initialized new room =>
    exact h.reconfigured initialized rfl rfl rfl rfl rfl rfl rfl rfl
  | removeSigner env admin signer config initialized registered quorum =>
    exact h.reconfigured initialized rfl rfl rfl rfl rfl rfl rfl rfl
  | changeRequirement env admin required config initialized quorum =>
    exact h.reconfigured initialized rfl rfl rfl rfl rfl rfl rfl rfl
  | setDailyLimit env admin dailyLimit config initialized =>
    exact h.reconfigured initialized rfl rfl rfl rfl rfl rfl rfl rfl
  | transfers | deposit | confirmTransaction | revokeConfirmation | setWhitelist =>
    exact h.frame rfl rfl rfl rfl rfl rfl rfl

theorem inOrder_deployed (tokens : τ) : InOrder [] (deployed tokens) where
  stored id := by
    refine ⟨fun hn => (by cases hn), fun hid => ?_⟩
    have hlt : id < 1 := hid.2
    omega
  nonces _ _ hk := by cases hk
  together := rfl
  begun := le_rfl
  behind := le_rfl
  history := rfl
  executed := rfl
  submitted := rfl

theorem history_inOrder {ok : List (State τ × Action τ) → State τ → Action τ → Prop} {tokens : τ}
    (hrun : History (next tok self) ok (deployed tokens) log s) : InOrder log s :=
  hrun.preserves (inOrder_deployed tokens) fun _ _ _ _ _ hn h => inOrder_step h (next_effect hn)

theorem loadAll_ok {ids : List ℕ}
    (h : ∀ id ∈ ids, id ≠ 0 ∧ (s.transaction.get? id).isSome = true) :
    ∃ txs, loadAll s ids = .ok txs ∧ txs.map some = ids.map s.transaction.get? := by
  induction ids with
  | nil => exact ⟨[], rfl, rfl⟩
  | cons id rest ih =>
    obtain ⟨txs, htxs, hmap⟩ := ih fun id' hid' => h id' (List.mem_cons_of_mem id hid')
    obtain ⟨hzero, hsome⟩ := h id List.mem_cons_self
    obtain ⟨tx, htx⟩ := Option.isSome_iff_exists.mp hsome
    refine ⟨tx :: txs, ?_, ?_⟩
    · unfold loadAll
      rw [loadTransaction_bind]
      refine ⟨hzero, tx, htx, ?_⟩
      rw [htxs]
      rfl
    · rw [List.map_cons, List.map_cons, hmap, htx]

theorem InOrder.getTransactionHistory (h : InOrder log s) {limit : ℕ}
    (hlimit : limit ≤ maxHistoryLimit) :
    ∃ txs, getTransactionHistory limit s = .ok txs ∧
      txs.map some = ((executedIds log).rtake limit).map s.transaction.get? := by
  have hstart : (if (historyIds s).length > limit then (historyIds s).length - limit else 0) =
      (historyIds s).length - limit := by
    split <;> omega
  have hload : MultiSigWallet.getTransactionHistory limit s =
      loadAll s ((executedIds log).rtake limit) := by
    unfold MultiSigWallet.getTransactionHistory List.rtake
    rw [panicIf_of_not (not_lt.mpr hlimit), h.executed]
    simp only [ok_bind, hstart]
  rw [hload]
  refine loadAll_ok fun id hid => ?_
  have hmem := List.mem_of_mem_drop hid
  rw [h.executed, h.history, List.mem_range'_1] at hmem
  have hbegun := h.begun
  have hbehind := h.behind
  exact ⟨by omega, (h.stored id).mpr ⟨by omega, by omega⟩⟩

/-- In every run the stored transactions are numbered from one, executed are those before
the next executable nonce, and executions follow the order of submission: the history is
what was executed, and the getter returns its last entries up to the limit it admits. -/
theorem executed_in_order {tokens : τ}
    (hrun : History (next tok self) (fun _ _ _ => True) (deployed tokens) log s) :
    (∀ config, s.config = some config →
      (∀ id, (∃ tx, s.transaction.get? id = some tx) ↔ 1 ≤ id ∧ id < config.nextTxId) ∧
      (∀ id tx, s.transaction.get? id = some tx → tx.txId = id ∧ tx.nonce = tx.txId ∧
        (tx.executed = true ↔ tx.nonce < config.nextExecutableNonce)) ∧
      config.nextExecutableNonce ≤ config.nextNonce ∧
      historyIds s = List.range' 1 (config.nextExecutableNonce - 1) ∧
      submittedIds log = List.range' 1 (config.nextTxId - 1)) ∧
    executedIds log = historyIds s ∧ executedIds log <+: submittedIds log ∧
    ∀ limit ≤ maxHistoryLimit, ∃ txs, getTransactionHistory limit s = .ok txs ∧
      txs.map some = ((executedIds log).rtake limit).map s.transaction.get? := by
  have h := history_inOrder hrun
  refine ⟨fun config hc => ?_, h.executed, ?_, fun limit hlimit => h.getTransactionHistory hlimit⟩
  · have hcounter := fun f : WalletConfig → ℕ => counter_of_config (f := f) hc
    obtain ⟨hstored, hnonces, htogether, -, hbehind, hhistory, -, hsubmitted⟩ := h
    simp only [hcounter] at hstored hnonces htogether hbehind hhistory hsubmitted
    refine ⟨fun id => ?_, fun id tx hk => ?_, htogether ▸ hbehind, hhistory, hsubmitted⟩
    · rw [← Option.isSome_iff_exists]
      exact hstored id
    · obtain ⟨hid, hnonce, hexecuted⟩ := hnonces id tx hk
      refine ⟨hid, hnonce.trans hid.symm, ?_⟩
      rw [hnonce]
      exact hexecuted
  · have hbehind := h.behind
    rw [h.executed, h.history, h.submitted]
    exact range'_prefix (by omega)

section Runs

open Sample

/-- Three transactions, confirmed in another order than they are executed in. -/
def queued : List Op := [
  .initializeContract admin [alice, bob] 2 500,
  .submitTransaction alice usdc dave 100 "",
  .submitTransaction bob usdc carol 50 "",
  .submitTransaction alice usdc dave 10 "",
  .confirmTransaction alice 2,
  .confirmTransaction bob 1,
  .executeTransaction bob 1,
  .executeTransaction alice 2]

/-- Two are executed, and the last of them is the second. -/
theorem executed_in_order_queued :
    ∃ log s, History (next asset contract) (fun _ _ _ => True) start log s ∧
      executedIds log = [1, 2] ∧ submittedIds log = [1, 2, 3] ∧
      ∃ txs, getTransactionHistory 1 s = .ok txs ∧ txs.map some = [s.transaction.get? 2] := by
  have h : After (fun h => ∃ config ∈ h.2.config, config.nextTxId = 4 ∧
        config.nextExecutableNonce = 3)
      (record (next asset contract) (fun _ _ _ => True) (queued.map (.call env)) ([], start)) := by
    decide +kernel
  obtain ⟨⟨log, s⟩, hrec, config, hconfig, hid, hnext⟩ := h.exists_ok
  have hrun : History (next asset contract) (fun _ _ _ => True) start log s :=
    record_history _ (fun _ _ _ _ _ => trivial) .nil hrec
  obtain ⟨hcounters, hexecuted, -, hgetter⟩ := executed_in_order hrun
  obtain ⟨-, -, -, hhistory, hsubmitted⟩ := hcounters config hconfig
  rw [hnext] at hhistory
  rw [hid] at hsubmitted
  have htwo : executedIds log = [1, 2] := hexecuted.trans hhistory
  obtain ⟨txs, htxs, hmap⟩ := hgetter 1 (by decide)
  rw [htwo] at hmap
  exact ⟨log, s, hrun, htwo, hsubmitted, txs, htxs, hmap⟩

/-- The getter refuses a longer history. -/
theorem history_limited :
    ¬ ∀ (log : List (State Balances × Action Balances)) (s : State Balances) (limit : ℕ),
      History (next asset contract) (fun _ _ _ => True) start log s →
      ∃ txs, getTransactionHistory limit s = .ok txs ∧
        txs.map some = ((executedIds log).rtake limit).map s.transaction.get? := by
  intro hall
  obtain ⟨txs, htxs, -⟩ := hall [] start 101 .nil
  cases htxs

end Runs

end MultiSigWallet
