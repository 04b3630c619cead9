import StellAIverse.Escrow.Quorum

/-!
# Custody and single execution

The recorded balance of an escrow is what was deposited less what its executed
transactions paid, and the account covers the escrows that hold tokens. Queued
transactions may promise more than the balance; the check is made again when one
of them is executed.
-/

namespace Escrow

open Soroban

variable {τ : Type} {tok : Token τ} {self : Address} {s s' : State τ} {a : Action τ}
  {log : List (State τ × Action τ)}

/-- The contract does not deposit into itself, and other transfers do not spend what it
holds. -/
def Action.Outside (tok : Token τ) (self : Address) (s : State τ) : Action τ → Prop
  | .call _ (.deposit _ depositor _) => depositor ≠ self
  | .call _ _ => True
  | .transfers tokens => ∀ t, tok.balance s.tokens t self ≤ tok.balance tokens t self

def Action.deposits (escrowId : ℕ) : Action τ → ℤ
  | .call _ (.deposit id _ amount) => if id = escrowId then amount else 0
  | _ => 0

def Action.executes (txId : ℕ) : Action τ → Bool
  | .call _ (.executeTransaction id) => id = txId
  | _ => false

def Action.cancels (txId : ℕ) : Action τ → Bool
  | .call _ (.cancelTransaction _ id) => id = txId
  | _ => false

/-- All deposits into an escrow. -/
def deposited (escrowId : ℕ) (log : List (State τ × Action τ)) : ℤ :=
  (log.map fun e => e.2.deposits escrowId).sum

/-- How often a transaction was executed. -/
def timesExecuted (txId : ℕ) (log : List (State τ × Action τ)) : ℕ :=
  log.countP fun e => e.2.executes txId

def timesCancelled (txId : ℕ) (log : List (State τ × Action τ)) : ℕ :=
  log.countP fun e => e.2.cancels txId

/-- The amounts of the executed transactions of an escrow. -/
def paidOut (transactions : Store ℕ EscrowTransaction) (escrowId : ℕ) : ℤ :=
  transactions.total fun _ tx => if tx.executed = true ∧ tx.escrowId = escrowId then tx.amount else 0

/-- An escrow that holds this token. -/
def HoldsToken (escrows : Store ℕ EscrowRecord) (t : Address) (escrowId : ℕ) : Prop :=
  ∃ record ∈ escrows.get? escrowId, record.token = t ∧ record.isNative = false

instance (escrows : Store ℕ EscrowRecord) (t : Address) : DecidablePred (HoldsToken escrows t) :=
  fun escrowId => inferInstanceAs (Decidable (∃ record ∈ escrows.get? escrowId, _ ∧ _))

/-- A mark of a stored transaction. -/
def marked (mark : EscrowTransaction → Bool) (transactions : Store ℕ EscrowTransaction) (txId : ℕ) :
    Bool :=
  ((transactions.get? txId).map mark).getD false

theorem marked_set (mark : EscrowTransaction → Bool) (transactions : Store ℕ EscrowTransaction)
    (txId : ℕ) (tx : EscrowTransaction) (id : ℕ) :
    marked mark (transactions.set txId tx) id =
      if id = txId then mark tx else marked mark transactions id := by
  unfold marked
  rw [Store.get?_set]
  split <;> rfl

theorem marked_of_found {mark : EscrowTransaction → Bool}
    {transactions : Store ℕ EscrowTransaction} {txId : ℕ} {tx : EscrowTransaction}
    (h : transactions.get? txId = some tx) : marked mark transactions txId = mark tx := by
  simp [marked, h]

/-- Rewriting a transaction without touching its mark. -/
theorem marked_set_same {mark : EscrowTransaction → Bool}
    {transactions : Store ℕ EscrowTransaction} {txId : ℕ} {tx tx' : EscrowTransaction}
    (h : transactions.get? txId = some tx) (hmark : mark tx' = mark tx) (id : ℕ) :
    marked mark (transactions.set txId tx') id = marked mark transactions id := by
  rw [marked_set]
  split
  · rename_i hid
    rw [hid, marked_of_found h, hmark]
  · rfl

/-- A new transaction carries no mark. -/
theorem marked_set_none {mark : EscrowTransaction → Bool}
    {transactions : Store ℕ EscrowTransaction} {txId : ℕ} {tx : EscrowTransaction}
    (h : transactions.get? txId = none) (hmark : mark tx = false) (id : ℕ) :
    marked mark (transactions.set txId tx) id = marked mark transactions id := by
  rw [marked_set]
  split
  · rename_i hid
    simp [marked, hid, h, hmark]
  · rfl

/-- Setting a mark that was not set. -/
theorem toNat_marked_set {mark : EscrowTransaction → Bool}
    {transactions : Store ℕ EscrowTransaction} {txId : ℕ} {tx tx' : EscrowTransaction}
    (h : transactions.get? txId = some tx) (hbefore : mark tx = false) (hafter : mark tx' = true)
    (id : ℕ) :
    (marked mark (transactions.set txId tx') id).toNat =
      (marked mark transactions id).toNat + (decide (txId = id)).toNat := by
  rw [marked_set]
  by_cases hid : id = txId
  · subst hid
    simp [marked_of_found h, hbefore, hafter]
  · simp [hid, Ne.symm hid]

theorem paidOut_executed {transactions : Store ℕ EscrowTransaction} {txId : ℕ}
    {tx : EscrowTransaction} (h : transactions.get? txId = some tx) (hpending : tx.executed = false)
    (now escrowId : ℕ) :
    paidOut (transactions.set txId { tx with executed := true, executedAt := now }) escrowId =
      paidOut transactions escrowId + if tx.escrowId = escrowId then tx.amount else 0 := by
  unfold paidOut
  rw [Store.total_set, Store.weight_some h]
  simp [hpending]

theorem paidOut_set_same {transactions : Store ℕ EscrowTransaction} {txId : ℕ}
    {tx tx' : EscrowTransaction} (h : transactions.get? txId = some tx)
    (hexecuted : tx'.executed = tx.executed) (hescrow : tx'.escrowId = tx.escrowId)
    (hamount : tx'.amount = tx.amount) (escrowId : ℕ) :
    paidOut (transactions.set txId tx') escrowId = paidOut transactions escrowId := by
  unfold paidOut
  rw [Store.total_set, Store.weight_some h, hexecuted, hescrow, hamount]
  ring

/-- Ids are given out once, before `initialize` none is, and no transaction is both
executed and cancelled. -/
structure Registered (s : State τ) : Prop where
  fresh : s.config = none → (∀ id, s.escrow.get? id = none) ∧ ∀ id, s.transaction.get? id = none
  escrows : ∀ id record, s.escrow.get? id = some record → id < s.nextEscrowId.getD 1
  transactions : ∀ id tx, s.transaction.get? id = some tx → id < s.nextTxId.getD 1
  exclusive : ∀ id tx, s.transaction.get? id = some tx → ¬ (tx.executed = true ∧ tx.cancelled = true)

theorem Registered.noEscrow (h : Registered s) : s.escrow.get? (s.nextEscrowId.getD 1) = none := by
  cases hk : s.escrow.get? (s.nextEscrowId.getD 1) with
  | none => rfl
  | some record => exact absurd (h.escrows _ record hk) (lt_irrefl _)

theorem Registered.noTransaction (h : Registered s) :
    s.transaction.get? (s.nextTxId.getD 1) = none := by
  cases hk : s.transaction.get? (s.nextTxId.getD 1) with
  | none => rfl
  | some tx => exact absurd (h.transactions _ tx hk) (lt_irrefl _)

theorem Registered.initialized (h : Registered s) {id : ℕ} {tx : EscrowTransaction}
    (hk : s.transaction.get? id = some tx) : s.config ≠ none := by
  intro hn
  cases ((h.fresh hn).2 id).symm.trans hk

theorem Registered.opened (h : Registered s) {id : ℕ} {record : EscrowRecord}
    (hk : s.escrow.get? id = some record) : s.config ≠ none := by
  intro hn
  cases ((h.fresh hn).1 id).symm.trans hk

/-- A transaction rewritten under its id. -/
theorem Registered.rewrite (h : Registered s) {txId : ℕ} {tx tx' : EscrowTransaction}
    (hk : s.transaction.get? txId = some tx)
    (hexclusive : ¬ (tx'.executed = true ∧ tx'.cancelled = true))
    (balances : Store ℕ ℤ) (global : Option (List ℕ)) (recipients : Store Address (List ℕ))
    (tokens : τ) :
    Registered { s with
      transaction := s.transaction.set txId tx', escrowBalance := balances
      globalExecutions := global, recipientExecutions := recipients, tokens } where
  fresh hn := absurd hn (h.initialized hk)
  escrows := h.escrows
  transactions := Store.forall_set h.transactions (h.transactions txId tx hk)
  exclusive := Store.forall_set h.exclusive hexclusive

theorem registered_step (h : Registered s) (heffect : Effect tok self s a s') : Registered s' := by
  cases heffect with
  | transfers tokens => exact ⟨h.fresh, h.escrows, h.transactions, h.exclusive⟩
  | initializeContract env admin signers required settings config fresh =>
    obtain ⟨hescrow, htransaction⟩ := h.fresh fresh
    refine ⟨fun hn => (by cases hn), fun id record hk => ?_, fun id tx hk => ?_, h.exclusive⟩
    · cases (hescrow id).symm.trans hk
    · cases (htransaction id).symm.trans hk
  | configure | addSigner | removeSigner =>
    exact ⟨fun hn => (by cases hn), h.escrows, h.transactions, h.exclusive⟩
  | createEscrow env creator token isNative purpose config found =>
    refine ⟨fun hn => ?_, ?_, h.transactions, h.exclusive⟩
    · cases found.symm.trans hn
    · refine Store.forall_set (fun id record hk => ?_) (Nat.lt_succ_self _)
      exact (h.escrows id record hk).trans (Nat.lt_succ_self _)
  | deposit => exact ⟨h.fresh, h.escrows, h.transactions, h.exclusive⟩
  | submitTransaction env submitter escrowId recipient amount config record initialized =>
    refine ⟨fun hn => ?_, h.escrows, ?_, Store.forall_set h.exclusive (by simp)⟩
    · cases initialized.symm.trans hn
    · refine Store.forall_set (fun id tx hk => ?_) (Nat.lt_succ_self _)
      exact (h.transactions id tx hk).trans (Nat.lt_succ_self _)
  | approveTransaction env signer txId tx registered found pending =>
    refine h.rewrite found ?_ _ _ _ _
    exact h.exclusive txId tx found
  | revokeApproval env signer txId tx found pending =>
    refine h.rewrite found ?_ _ _ _ _
    exact h.exclusive txId tx found
  | executeTransaction env txId config tx record tokens global initialized found pending =>
    exact h.rewrite found (by simp [pending.2]) _ _ _ _
  | cancelTransaction env caller txId tx found pending =>
    exact h.rewrite found (by simp [pending.1]) _ _ _ _
  | closeEscrow env caller escrowId record found =>
    refine ⟨fun hn => absurd hn (h.opened found), ?_, h.transactions, h.exclusive⟩
    exact Store.forall_set h.escrows (h.escrows escrowId record found)

section Log

variable (s) (a) (log)

theorem deposited_cons (escrowId : ℕ) :
    deposited escrowId ((s, a) :: log) = deposited escrowId log + a.deposits escrowId := by
  simp [deposited, add_comm]

theorem timesExecuted_cons (txId : ℕ) :
    timesExecuted txId ((s, a) :: log) = timesExecuted txId log + (a.executes txId).toNat := by
  unfold timesExecuted
  rw [List.countP_cons]
  cases a.executes txId <;> rfl

theorem timesCancelled_cons (txId : ℕ) :
    timesCancelled txId ((s, a) :: log) = timesCancelled txId log + (a.cancels txId).toNat := by
  unfold timesCancelled
  rw [List.countP_cons]
  cases a.cancels txId <;> rfl

end Log

structure Booked (log : List (State τ × Action τ)) (s : State τ) : Prop where
  unopened : ∀ e, s.escrow.get? e = none → s.escrowBalance.get? e = none
  balance : ∀ e, s.escrowBalance.amount e = deposited e log - paidOut s.transaction e
  nonneg : ∀ e, 0 ≤ s.escrowBalance.amount e
  executed : ∀ id, timesExecuted id log = (marked (·.executed) s.transaction id).toNat
  cancelled : ∀ id, timesCancelled id log = (marked (·.cancelled) s.transaction id).toNat

/-- Balances are written for escrows that exist. -/
theorem Booked.unopened_set (h : Booked log s) {escrowId : ℕ} {record : EscrowRecord}
    (found : s.escrow.get? escrowId = some record) {balance : ℤ} (e : ℕ)
    (he : s.escrow.get? e = none) : (s.escrowBalance.set escrowId balance).get? e = none := by
  rw [Store.get?_set_ne]
  · exact h.unopened e he
  · rintro rfl
    cases he.symm.trans found

/-- Neither a deposit nor an execution nor a cancellation. -/
structure Action.Quiet (a : Action τ) : Prop where
  deposits : ∀ e, a.deposits e = 0
  executes : ∀ id, a.executes id = false
  cancels : ∀ id, a.cancels id = false

theorem Booked.quiet (h : Booked log s) (hquiet : a.Quiet)
    (hunopened : ∀ e, s'.escrow.get? e = none → s'.escrowBalance.get? e = none)
    (hamount : ∀ e, s'.escrowBalance.amount e = s.escrowBalance.amount e)
    (hpaid : ∀ e, paidOut s'.transaction e = paidOut s.transaction e)
    (hexecuted : ∀ id, marked (·.executed) s'.transaction id = marked (·.executed) s.transaction id)
    (hcancelled : ∀ id,
      marked (·.cancelled) s'.transaction id = marked (·.cancelled) s.transaction id) :
    Booked ((s, a) :: log) s' where
  unopened := hunopened
  balance e := by
    rw [hamount, hpaid, deposited_cons, hquiet.deposits, add_zero]
    exact h.balance e
  nonneg e := by
    rw [hamount]
    exact h.nonneg e
  executed id := by
    rw [hexecuted, timesExecuted_cons, hquiet.executes]
    exact h.executed id
  cancelled id := by
    rw [hcancelled, timesCancelled_cons, hquiet.cancels]
    exact h.cancelled id

theorem Booked.deposit (h : Booked log s) {env : Ledger} {escrowId : ℕ} {depositor : Address}
    {amount : ℤ} {record : EscrowRecord} (tokens : τ) (hpos : 0 < amount)
    (hfound : s.escrow.get? escrowId = some record) :
    Booked ((s, .call env (.deposit escrowId depositor amount)) :: log)
      { s with
        escrowBalance := s.escrowBalance.set escrowId (s.escrowBalance.amount escrowId + amount)
        tokens } := by
  refine ⟨h.unopened_set hfound, fun e => ?_, fun e => ?_, fun id => ?_, fun id => ?_⟩
  · have hbalance := h.balance e
    rw [deposited_cons]
    simp only [Store.amount_set, Action.deposits, eq_comm (a := e)]
    split
    · rename_i hid
      subst hid
      omega
    · omega
  · have hescrow := h.nonneg escrowId
    simp only [Store.amount_set]
    split
    · omega
    · exact h.nonneg e
  · rw [timesExecuted_cons]
    exact h.executed id
  · rw [timesCancelled_cons]
    exact h.cancelled id

theorem Booked.execute (h : Booked log s) {env : Ledger} {txId : ℕ} {config : EscrowConfig}
    {tx : EscrowTransaction} {record : EscrowRecord} (tokens : τ) (global : List ℕ)
    (hfound : s.transaction.get? txId = some tx) (hpending : tx.executed = false)
    (hsource : s.escrow.get? tx.escrowId = some record)
    (hcovered : tx.amount ≤ s.escrowBalance.amount tx.escrowId) :
    Booked ((s, .call env (.executeTransaction txId)) :: log)
      (logExecution env.timestamp (env.timestamp - config.rateLimitWindow) tx.recipient global
        { s with
          escrowBalance := s.escrowBalance.set tx.escrowId
            (s.escrowBalance.amount tx.escrowId - tx.amount)
          tokens
          transaction := s.transaction.set txId
            { tx with executed := true, executedAt := env.timestamp } }) := by
  have hcancelled : ∀ id, marked (·.cancelled) (s.transaction.set txId
      { tx with executed := true, executedAt := env.timestamp }) id =
        marked (·.cancelled) s.transaction id := marked_set_same hfound rfl
  refine ⟨h.unopened_set hsource, fun e => ?_, fun e => ?_, fun id => ?_, fun id => ?_⟩
  · have hbalance := h.balance e
    simp only [logExecution]
    rw [deposited_cons, paidOut_executed hfound hpending, Store.amount_set]
    simp only [Action.deposits, eq_comm (a := e)]
    split
    · rename_i hid
      subst hid
      omega
    · omega
  · simp only [logExecution, Store.amount_set]
    split
    · exact sub_nonneg.mpr hcovered
    · exact h.nonneg e
  · simp only [logExecution]
    rw [timesExecuted_cons, toNat_marked_set hfound hpending rfl, h.executed]
    rfl
  · simp only [logExecution]
    rw [timesCancelled_cons, hcancelled]
    exact h.cancelled id

theorem Booked.cancel (h : Booked log s) {env : Ledger} {caller : Address} {txId : ℕ}
    {tx : EscrowTransaction} (hfound : s.transaction.get? txId = some tx)
    (hpending : tx.cancelled = false) :
    Booked ((s, .call env (.cancelTransaction caller txId)) :: log)
      { s with transaction := s.transaction.set txId { tx with cancelled := true } } := by
  have hpaid : ∀ e, paidOut (s.transaction.set txId { tx with cancelled := true }) e =
      paidOut s.transaction e := paidOut_set_same hfound rfl rfl rfl
  have hexecuted : ∀ id, marked (·.executed) (s.transaction.set txId { tx with cancelled := true })
      id = marked (·.executed) s.transaction id := marked_set_same hfound rfl
  refine ⟨h.unopened, fun e => ?_, h.nonneg, fun id => ?_, fun id => ?_⟩
  · rw [deposited_cons, hpaid]
    simp only [Action.deposits, add_zero]
    exact h.balance e
  · rw [timesExecuted_cons, hexecuted]
    exact h.executed id
  · rw [timesCancelled_cons, toNat_marked_set hfound hpending rfl, h.cancelled]
    rfl

theorem booked_step (hreg : Registered s) (h : Booked log s) (heffect : Effect tok self s a s') :
    Booked ((s, a) :: log) s' := by
  cases heffect with
  | configure env op config config' found configures =>
    refine h.quiet ?_ h.unopened (fun _ => rfl) (fun _ => rfl) (fun _ => rfl) fun _ => rfl
    cases op <;>
      first | exact ⟨fun _ => rfl, fun _ => rfl, fun _ => rfl⟩ | cases configures
  | transfers | initializeContract | addSigner | removeSigner =>
    exact h.quiet ⟨fun _ => rfl, fun _ => rfl, fun _ => rfl⟩ h.unopened (fun _ => rfl)
      (fun _ => rfl) (fun _ => rfl) fun _ => rfl
  | createEscrow env creator token isNative purpose config found =>
    refine h.quiet ⟨fun _ => rfl, fun _ => rfl, fun _ => rfl⟩ (fun e he => ?_) (fun e => ?_)
      (fun _ => rfl) (fun _ => rfl) fun _ => rfl
    · simp only [Store.get?_set] at he ⊢
      split at he
      · cases he
      · rename_i hid
        rw [if_neg hid]
        exact h.unopened e he
    · simp only [Store.amount_set]
      split
      · rename_i hid
        rw [hid, Store.amount_of_none (h.unopened _ hreg.noEscrow)]
      · rfl
  | deposit env escrowId depositor amount record tokens positive found paid =>
    exact h.deposit tokens positive found
  | submitTransaction env submitter escrowId recipient amount config record =>
    have hnone := hreg.noTransaction
    refine h.quiet ⟨fun _ => rfl, fun _ => rfl, fun _ => rfl⟩ h.unopened (fun _ => rfl)
      (fun e => ?_) (marked_set_none hnone rfl) (marked_set_none hnone rfl)
    simp only [paidOut, Store.total_set, Store.weight_none hnone]
    simp
  | approveTransaction env signer txId tx registered found =>
    exact h.quiet ⟨fun _ => rfl, fun _ => rfl, fun _ => rfl⟩ h.unopened (fun _ => rfl)
      (paidOut_set_same found rfl rfl rfl) (marked_set_same found rfl) (marked_set_same found rfl)
  | revokeApproval env signer txId tx found =>
    exact h.quiet ⟨fun _ => rfl, fun _ => rfl, fun _ => rfl⟩ h.unopened (fun _ => rfl)
      (paidOut_set_same found rfl rfl rfl) (marked_set_same found rfl) (marked_set_same found rfl)
  | closeEscrow env caller escrowId record found =>
    refine h.quiet ⟨fun _ => rfl, fun _ => rfl, fun _ => rfl⟩ (fun e he => ?_) (fun _ => rfl)
      (fun _ => rfl) (fun _ => rfl) fun _ => rfl
    simp only [Store.get?_set] at he
    split at he
    · cases he
    · exact h.unopened e he
  | cancelTransaction env caller txId tx found pending => exact h.cancel found pending.2
  | executeTransaction env txId config tx record tokens global initialized found pending approved
      logged underGlobal underRecipient source covered =>
    exact h.execute tokens global found pending.1 source covered

/-- What the escrows of a token hold together, native ones apart. -/
def tokensHeld (escrows : Store ℕ EscrowRecord) (balances : Store ℕ ℤ) (t : Address) : ℤ :=
  balances.sumOver (HoldsToken escrows t)

theorem holdsToken_set_ne {escrows : Store ℕ EscrowRecord} {id id' : ℕ} {record : EscrowRecord}
    {t : Address} (h : id' ≠ id) :
    HoldsToken (escrows.set id record) t id' ↔ HoldsToken escrows t id' := by
  unfold HoldsToken
  rw [Store.get?_set_ne _ _ h]

theorem holdsToken_iff {escrows : Store ℕ EscrowRecord} {id : ℕ} {record : EscrowRecord}
    {t : Address} (h : escrows.get? id = some record) :
    HoldsToken escrows t id ↔ record.token = t ∧ record.isNative = false := by
  unfold HoldsToken
  rw [h]
  simp

/-- An escrow's balance moves what its token's escrows hold, unless it is native. -/
theorem tokensHeld_set {escrows : Store ℕ EscrowRecord} {balances : Store ℕ ℤ} {id : ℕ}
    {record : EscrowRecord} (h : escrows.get? id = some record) (balance : ℤ) (t : Address) :
    tokensHeld escrows (balances.set id balance) t = tokensHeld escrows balances t +
      if record.token = t ∧ record.isNative = false then balance - balances.amount id else 0 := by
  unfold tokensHeld
  rw [Store.sumOver_set]
  simp only [holdsToken_iff h]

/-- A new escrow starts with nothing. -/
theorem tokensHeld_opened {escrows : Store ℕ EscrowRecord} {balances : Store ℕ ℤ} {id : ℕ}
    (h : balances.get? id = none) (record : EscrowRecord) (t : Address) :
    tokensHeld (escrows.set id record) (balances.set id 0) t = tokensHeld escrows balances t := by
  unfold tokensHeld
  rw [Store.sumOver_set, Store.amount_of_none h, sub_zero, ite_self, add_zero]
  refine Store.sumOver_congr fun id' balance hk => holdsToken_set_ne ?_
  rintro rfl
  cases h.symm.trans hk

theorem tokensHeld_closed {escrows : Store ℕ EscrowRecord} {balances : Store ℕ ℤ} {id : ℕ}
    {record : EscrowRecord} (h : escrows.get? id = some record) (t : Address) :
    tokensHeld (escrows.set id { record with active := false }) balances t =
      tokensHeld escrows balances t := by
  unfold tokensHeld
  refine Store.sumOver_congr fun id' balance hk => ?_
  by_cases hid : id' = id
  · subst hid
    rw [holdsToken_iff h, holdsToken_iff (Store.get?_set_self _ _ _)]
  · exact holdsToken_set_ne hid

/-- The account covers the escrows that hold tokens. -/
def Covered (tok : Token τ) (self : Address) (s : State τ) : Prop :=
  ∀ t, tokensHeld s.escrow s.escrowBalance t ≤ tok.balance s.tokens t self

theorem covered_step (hex : tok.Exact) (ho : a.Outside tok self s) (hreg : Registered s)
    (hbooked : Booked log s) (h : Covered tok self s) (heffect : Effect tok self s a s') :
    Covered tok self s' := by
  cases heffect with
  | transfers tokens => exact fun t => (h t).trans (ho t)
  | createEscrow env creator token isNative purpose config found =>
    intro t
    simp only [tokensHeld_opened (hbooked.unopened _ hreg.noEscrow)]
    exact h t
  | deposit env escrowId depositor amount record tokens positive found paid =>
    intro t
    have hcovered := h t
    simp only [tokensHeld_set found, add_sub_cancel_left]
    cases hnative : record.isNative with
    | true =>
      rw [if_pos hnative] at paid
      simp [paid, hcovered]
    | false =>
      rw [if_neg (by simp [hnative])] at paid
      rw [hex.credit paid ho t]
      simp only [and_true, eq_comm (a := t)]
      omega
  | executeTransaction env txId config tx record tokens global initialized found pending approved
      logged underGlobal underRecipient source covered paid =>
    intro t
    have hcovered := h t
    simp only [logExecution, tokensHeld_set source]
    cases hnative : record.isNative with
    | true =>
      rw [if_pos hnative] at paid
      simp [paid, hcovered]
    | false =>
      rw [if_neg (by simp [hnative])] at paid
      have hpaid := hex.debit paid t
      simp only [eq_comm (a := t)] at hpaid
      simp only [and_true]
      split at hpaid <;> rename_i ht <;> simp only [ht, if_true, if_false] <;> omega
  | closeEscrow env caller escrowId record found =>
    intro t
    simp only [tokensHeld_closed found]
    exact h t
  | _ => exact h

structure Held (tok : Token τ) (holder : Address) (log : List (State τ × Action τ))
    (s : State τ) : Prop where
  registered : Registered s
  booked : Booked log s
  covered : Covered tok holder s

theorem held_deployed (hex : tok.Exact) (tokens : τ) : Held tok self [] (deployed tokens) where
  registered := ⟨fun _ => ⟨fun _ => rfl, fun _ => rfl⟩, fun _ _ hk => (by cases hk),
    fun _ _ hk => (by cases hk), fun _ _ hk => (by cases hk)⟩
  booked := ⟨fun _ _ => rfl, fun _ => rfl, fun _ => le_rfl, fun _ => rfl, fun _ => rfl⟩
  covered t := hex.nonneg tokens t self

theorem history_held (hex : tok.Exact) {tokens : τ}
    (hrun : History (next tok self) (fun _ s a => a.Outside tok self s) (deployed tokens) log s) :
    Held tok self log s := by
  refine hrun.preserves (held_deployed hex tokens) ?_
  intro log s a s' ho hn h
  have heffect := next_effect hn
  exact ⟨registered_step h.registered heffect, booked_step h.registered h.booked heffect,
    covered_step hex ho h.registered h.booked h.covered heffect⟩

/-- With exact tokens and other depositors, in every run: an escrow has what was deposited
less what its executed transactions paid, the account covers the escrows of each token, and
a transaction is executed at most once and never both executed and cancelled. -/
theorem escrows_covered (hex : tok.Exact) {tokens : τ}
    (hrun : History (next tok self) (fun _ s a => a.Outside tok self s) (deployed tokens) log s) :
    (∀ e, 0 ≤ escrowBalanceRaw s e ∧
      escrowBalanceRaw s e = deposited e log - paidOut s.transaction e) ∧
    (∀ t, tokensHeld s.escrow s.escrowBalance t ≤ tok.balance s.tokens t self) ∧
    (∀ id, timesExecuted id log ≤ 1 ∧ ¬ (0 < timesExecuted id log ∧ 0 < timesCancelled id log)) ∧
    ∀ id tx, s.transaction.get? id = some tx →
      (tx.executed = true ↔ timesExecuted id log = 1) ∧
      ¬ (tx.executed = true ∧ tx.cancelled = true) := by
  obtain ⟨hreg, hbooked, hcovered⟩ := history_held hex hrun
  refine ⟨fun e => ⟨hbooked.nonneg e, hbooked.balance e⟩, hcovered, fun id => ?_, fun id tx hk => ?_⟩
  · rw [hbooked.executed id, hbooked.cancelled id]
    refine ⟨Bool.toNat_le _, ?_⟩
    cases hk : s.transaction.get? id with
    | none => simp [marked, hk]
    | some tx =>
      have hexclusive := hreg.exclusive id tx hk
      rw [marked_of_found hk, marked_of_found hk]
      cases he : tx.executed with
      | false => simp
      | true => simpa [he] using hexclusive
  · rw [hbooked.executed id, marked_of_found hk]
    refine ⟨?_, hreg.exclusive id tx hk⟩
    cases tx.executed <;> simp

section Runs

open Sample

/-- A native escrow that names the token as well, and two transactions that together
exceed the balance. -/
def overdrawn : List (ℕ × Op) := opened [alice] 1 ++ [
  (0, .createEscrow dave usdc true "points"),
  (0, .deposit 2 dave 5000),
  (0, .submitTransaction alice 1 bob 700),
  (0, .submitTransaction alice 1 bob 600),
  (0, .submitTransaction alice 2 bob 2000),
  (1, .executeTransaction 1),
  (1, .executeTransaction 3),
  (1, .cancelTransaction alice 2)]

theorem escrows_covered_overdrawn :
    ∃ s log, History (next asset contract) (fun _ s a => a.Outside asset contract s) start log s ∧
      escrowBalanceRaw s 1 = 1000 - 700 ∧ escrowBalanceRaw s 2 = 5000 - 2000 ∧
      300 ≤ asset.balance s.tokens usdc contract ∧ timesExecuted 1 log ≤ 1 := by
  have h : After (fun h => deposited 1 h.1 = 1000 ∧ paidOut h.2.transaction 1 = 700 ∧
        deposited 2 h.1 = 5000 ∧ paidOut h.2.transaction 2 = 2000 ∧
        tokensHeld h.2.escrow h.2.escrowBalance usdc = 300)
      (record (next asset contract) (fun _ _ _ => True) (calls overdrawn) ([], start)) := by
    decide +kernel
  obtain ⟨⟨log, s⟩, hrec, hin, hout, hin', hout', hheld⟩ := h.exists_ok
  have hdepositors : ∀ e ∈ overdrawn, ∀ s : State Balances,
      (Action.call (env e.1) e.2).Outside asset contract s := by
    simp only [overdrawn, opened, List.cons_append, List.nil_append, List.forall_mem_cons]
    simp [Action.Outside, dave, contract]
  have hrun : History (next asset contract) (fun _ s a => a.Outside asset contract s)
      start log s :=
    record_map_history hrec fun e he _ s _ => hdepositors e he s
  obtain ⟨hbalance, hcovered, honce, -⟩ := escrows_covered asset_exact hrun
  simp only at hin hout hin' hout' hheld
  have hfirst := (hbalance 1).2
  have hsecond := (hbalance 2).2
  rw [hin, hout] at hfirst
  rw [hin', hout'] at hsecond
  have haccount := hcovered usdc
  rw [hheld] at haccount
  exact ⟨s, log, hrun, hfirst, hsecond, haccount, (honce 1).1⟩

end Runs

end Escrow
