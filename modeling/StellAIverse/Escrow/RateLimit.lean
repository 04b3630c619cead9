import StellAIverse.Escrow.Quorum
import StellAIverse.Soroban.Window

/-!
# The rate limit

Executions are kept in one log for all recipients and one for each recipient.
Each execution prunes both with the window then in force, so a window that
grows afterwards reaches back to executions that the logs have lost.
-/

namespace Escrow

open Soroban

variable {τ : Type} {tok : Token τ} {self : Address} {s s' : State τ} {a : Action τ}
  {log : List (State τ × Action τ)}

/-- One execution, with the cutoff of the window in force. -/
structure Execution where
  time : ℕ
  cutoff : ℕ
  recipient : Address

def executionOf (e : State τ × Action τ) : Option Execution :=
  match e.2 with
  | .call env (.executeTransaction txId) =>
    match e.1.config, e.1.transaction.get? txId with
    | some config, some tx =>
      some ⟨env.timestamp, env.timestamp - config.rateLimitWindow, tx.recipient⟩
    | _, _ => none
  | _ => none

/-- The executions of a run, the latest first. -/
def executions (log : List (State τ × Action τ)) : List Execution := log.filterMap executionOf

/-- The executions of a run that paid this recipient. -/
def paidTo (recipient : Address) (executed : List Execution) : List Execution :=
  executed.filter fun x => x.recipient = recipient

/-- How many of them the window from `cutoff` on holds. -/
def inWindow (cutoff : ℕ) (executed : List Execution) : ℕ :=
  executed.countP fun x => cutoff ≤ x.time

theorem inWindow_cons {cutoff cutoff' time : ℕ} {recipient : Address} (h : cutoff ≤ time)
    (executed : List Execution) :
    inWindow cutoff (⟨time, cutoff', recipient⟩ :: executed) = inWindow cutoff executed + 1 :=
  List.countP_cons_of_pos (decide_eq_true h)

theorem paidTo_cons (x : Execution) (executed : List Execution) (recipient : Address) :
    paidTo recipient (x :: executed) =
      if x.recipient = recipient then x :: paidTo recipient executed
      else paidTo recipient executed := by
  simp [paidTo, List.filter_cons]

/-- No execution in the present window has been pruned: it is not older than the cutoff
of any execution made after it. -/
def Unpruned (log : List (State τ × Action τ)) (s : State τ) (a : Action τ) : Prop :=
  ∀ x, executionOf (s, a) = some x → Intact Execution.time Execution.cutoff x.cutoff (executions log)

instance (log : List (State τ × Action τ)) (s : State τ) (a : Action τ) :
    Decidable (Unpruned log s a) :=
  inferInstanceAs (Decidable (∀ x ∈ executionOf (s, a),
    Intact Execution.time Execution.cutoff x.cutoff (executions log)))

/-- A window whose start does not move back reaches no pruned execution. -/
theorem unpruned_of_cutoff_le
    (h : ∀ x, executionOf (s, a) = some x → ∀ y ∈ executions log, y.cutoff ≤ x.cutoff) :
    Unpruned log s a :=
  fun x hx => intact_of_cutoff_le (h x hx)

/-- A stored log holds what is left of the executions, the latest last. -/
def Holds (timestamps : List ℕ) (executed : List Execution) : Prop :=
  timestamps = ((survivors Execution.time Execution.cutoff executed).map Execution.time).reverse

theorem Holds.count {timestamps : List ℕ} {executed : List Execution} {cutoff : ℕ}
    (h : Holds timestamps executed)
    (hintact : Intact Execution.time Execution.cutoff cutoff executed) :
    countInWindow timestamps cutoff = inWindow cutoff executed := by
  unfold countInWindow inWindow
  rw [h, List.countP_reverse, List.countP_map, ← hintact.countP_survivors]
  rfl

theorem Holds.push {timestamps : List ℕ} {executed : List Execution} (x : Execution)
    (h : Holds timestamps executed) (hx : x.cutoff ≤ x.time) :
    Holds (pruneWindow (timestamps ++ [x.time]) x.cutoff) (x :: executed) := by
  unfold Holds pruneWindow survivors
  rw [h, List.map_cons, List.reverse_cons, List.filter_append, List.filter_reverse,
    List.filter_map]
  simp only [List.filter_cons, List.filter_nil, hx, decide_true, if_true]
  rfl

structure Logged (log : List (State τ × Action τ)) (s : State τ) : Prop where
  fresh : s.config = none → executions log = []
  global : ∀ timestamps, s.globalExecutions = some timestamps → Holds timestamps (executions log)
  recipient : ∀ recipient, Holds (recipientLog s recipient) (paidTo recipient (executions log))

theorem executions_cons_none (h : executionOf (s, a) = none) :
    executions ((s, a) :: log) = executions log :=
  List.filterMap_cons_none h

theorem executions_cons_some {x : Execution} (h : executionOf (s, a) = some x) :
    executions ((s, a) :: log) = x :: executions log :=
  List.filterMap_cons_some h

/-- An invocation that executes nothing and leaves the logs alone. -/
theorem Logged.frame (h : Logged log s) (hnone : executionOf (s, a) = none)
    (hconfig : s'.config = none → s.config = none)
    (hglobal : s'.globalExecutions = s.globalExecutions)
    (hrecipient : s'.recipientExecutions = s.recipientExecutions) :
    Logged ((s, a) :: log) s' := by
  refine ⟨fun hn => ?_, fun timestamps ht => ?_, fun recipient => ?_⟩
  · rw [executions_cons_none hnone]
    exact h.fresh (hconfig hn)
  · rw [executions_cons_none hnone]
    rw [hglobal] at ht
    exact h.global timestamps ht
  · rw [executions_cons_none hnone]
    unfold recipientLog
    rw [hrecipient]
    exact h.recipient recipient

theorem logged_step (h : Logged log s) (heffect : Effect tok self s a s') :
    Logged ((s, a) :: log) s' := by
  cases heffect with
  | transfers tokens => exact h.frame rfl id rfl rfl
  | initializeContract env admin signers required settings config fresh =>
    have hnone := h.fresh fresh
    have hlog : executions ((s, .call env
        (.initializeContract admin signers required settings)) :: log) = [] := hnone
    refine ⟨fun hn => (by cases hn), fun timestamps ht => ?_, fun recipient => ?_⟩
    · cases ht
      rw [hlog]
      rfl
    · have hown := h.recipient recipient
      rw [hnone] at hown
      rw [hlog]
      exact hown
  | configure env op config config' found configures =>
    refine h.frame ?_ (fun hn => (by cases hn)) rfl rfl
    cases op <;> first | rfl | cases configures
  | addSigner => exact h.frame rfl (fun hn => (by cases hn)) rfl rfl
  | removeSigner => exact h.frame rfl (fun hn => (by cases hn)) rfl rfl
  | createEscrow => exact h.frame rfl id rfl rfl
  | deposit => exact h.frame rfl id rfl rfl
  | submitTransaction => exact h.frame rfl id rfl rfl
  | approveTransaction => exact h.frame rfl id rfl rfl
  | revokeApproval => exact h.frame rfl id rfl rfl
  | cancelTransaction => exact h.frame rfl id rfl rfl
  | closeEscrow => exact h.frame rfl id rfl rfl
  | executeTransaction env txId config tx record tokens global initialized found pending approved
      logged underGlobal underRecipient source covered paid =>
    have hx : executionOf (s, .call env (.executeTransaction txId)) =
        some ⟨env.timestamp, env.timestamp - config.rateLimitWindow, tx.recipient⟩ := by
      simp only [executionOf, initialized, found]
    refine ⟨fun hn => ?_, fun timestamps ht => ?_, fun recipient => ?_⟩
    · cases initialized.symm.trans hn
    · rw [executions_cons_some hx]
      cases ht
      exact (h.global global logged).push ⟨_, _, tx.recipient⟩ (Nat.sub_le _ _)
    · rw [executions_cons_some hx, paidTo_cons]
      have hown := h.recipient recipient
      unfold recipientLog at *
      by_cases hr : recipient = tx.recipient
      · subst hr
        simp only [logExecution, Store.get?_set_self, Option.getD_some, if_true]
        exact hown.push ⟨_, _, tx.recipient⟩ (Nat.sub_le _ _)
      · simp only [logExecution, Store.get?_set_ne _ _ hr, Ne.symm hr, if_false]
        exact hown

theorem logged_deployed (tokens : τ) : Logged [] (deployed tokens) :=
  ⟨fun _ => rfl, fun _ ht => (by cases ht), fun _ => rfl⟩

theorem history_logged {ok : List (State τ × Action τ) → State τ → Action τ → Prop} {tokens : τ}
    (hrun : History (next tok self) ok (deployed tokens) log s) : Logged log s :=
  hrun.preserves (logged_deployed tokens) fun _ _ _ _ _ hn h => logged_step h (next_effect hn)

/-- In every run, each execution that finds nothing of its window pruned leaves at most
`rate_limit_max` executions in the window, of all recipients and of its own. -/
theorem executions_limited {tokens : τ} {env : Ledger} {txId : ℕ}
    (hrun : History (next tok self) (fun _ _ _ => True) (deployed tokens) log s)
    (hunpruned : Unpruned log s (.call env (.executeTransaction txId)))
    (hexec : next tok self (.call env (.executeTransaction txId)) s = .ok s') :
    ∃ config tx, s.config = some config ∧ s.transaction.get? txId = some tx ∧
      inWindow (env.timestamp - config.rateLimitWindow)
        (executions ((s, .call env (.executeTransaction txId)) :: log)) ≤ config.rateLimitMax ∧
      inWindow (env.timestamp - config.rateLimitWindow)
        (paidTo tx.recipient (executions ((s, .call env (.executeTransaction txId)) :: log))) ≤
          config.rateLimitMax := by
  have hlogged := history_logged hrun
  cases next_effect hexec with
  | configure _ _ _ _ _ configures => cases configures
  | executeTransaction _ _ config tx record tokens global initialized found pending approved
      logged underGlobal underRecipient source covered paid =>
    have hx : executionOf (s, .call env (.executeTransaction txId)) =
        some ⟨env.timestamp, env.timestamp - config.rateLimitWindow, tx.recipient⟩ := by
      simp only [executionOf, initialized, found]
    have hintact := hunpruned _ hx
    rw [(hlogged.global global logged).count hintact] at underGlobal
    rw [(hlogged.recipient tx.recipient).count (hintact.filter _)] at underRecipient
    refine ⟨config, tx, initialized, found, ?_, ?_⟩
    · rw [executions_cons_some hx, inWindow_cons (Nat.sub_le _ _)]
      exact underGlobal
    · rw [executions_cons_some hx, paidTo_cons, if_pos rfl, inWindow_cons (Nat.sub_le _ _)]
      exact underRecipient

section Runs

open Sample

/-- Two transactions for each of two recipients, with the log pruned in between. -/
def spread : List (ℕ × Op) := opened [alice] 1 ++ [
  (0, .submitTransaction alice 1 dave 100),
  (0, .submitTransaction alice 1 bob 100),
  (0, .submitTransaction alice 1 dave 100),
  (0, .submitTransaction alice 1 bob 100),
  (0, .executeTransaction 1),
  (15, .executeTransaction 2),
  (20, .executeTransaction 3)]

/-- The first two executions are no longer in the window of the fourth. -/
theorem executions_limited_spread :
    ∃ log s, History (next asset contract) (fun _ _ _ => True) start log s ∧
      inWindow 16 (executions ((s, .call (env 26) (.executeTransaction 4)) :: log)) ≤ 2 := by
  have h : After (fun h => (∃ config ∈ h.2.config, config.rateLimitWindow = 10 ∧
          config.rateLimitMax = 2) ∧
        (∀ x ∈ executionOf (h.2, .call (env 26) (.executeTransaction 4)),
          ∀ y ∈ executions h.1, y.cutoff ≤ x.cutoff) ∧
        After (fun _ => True) (next asset contract (.call (env 26) (.executeTransaction 4)) h.2))
      (record (next asset contract) (fun _ _ _ => True) (calls spread) ([], start)) := by
    decide +kernel
  obtain ⟨⟨log, s⟩, hrec, ⟨config, hconfig, hwindow, hmax⟩, hforward, hexec⟩ := h.exists_ok
  obtain ⟨s', hexec, -⟩ := hexec.exists_ok
  have hrun : History (next asset contract) (fun _ _ _ => True) start log s :=
    record_history _ (fun _ _ _ _ _ => trivial) .nil hrec
  obtain ⟨config', tx, hconfig', -, hlimit, -⟩ :=
    executions_limited hrun (unpruned_of_cutoff_le hforward) hexec
  obtain rfl : config = config' := Option.some.inj (hconfig.symm.trans hconfig')
  rw [hwindow, hmax] at hlimit
  exact ⟨log, s, hrun, hlimit⟩

/-- The second execution prunes the first, and then the window grows. -/
def widened : List (ℕ × Op) := opened [alice] 1 ++ [
  (0, .submitTransaction alice 1 dave 100),
  (0, .submitTransaction alice 1 dave 100),
  (0, .submitTransaction alice 1 dave 100),
  (0, .executeTransaction 1),
  (20, .executeTransaction 2),
  (20, .setRateLimit admin 100 2)]

/-- Three executions in a window that admits two. -/
theorem executions_exceed_limit :
    ¬ ∀ (log : List (State Balances × Action Balances)) (s s' : State Balances) (env : Ledger)
        (txId : ℕ),
      History (next asset contract) (fun log _ a => OnTime Action.time log a) start log s →
      OnTime Action.time log (.call env (.executeTransaction txId) : Action Balances) →
      next asset contract (.call env (.executeTransaction txId)) s = .ok s' →
      ∃ config tx, s.config = some config ∧ s.transaction.get? txId = some tx ∧
        inWindow (env.timestamp - config.rateLimitWindow)
          (executions ((s, .call env (.executeTransaction txId)) :: log)) ≤ config.rateLimitMax ∧
        inWindow (env.timestamp - config.rateLimitWindow)
          (paidTo tx.recipient (executions ((s, .call env (.executeTransaction txId)) :: log))) ≤
            config.rateLimitMax := by
  have h : After (fun h => (∃ config ∈ h.2.config, config.rateLimitWindow = 100 ∧
          config.rateLimitMax = 2) ∧
        OnTime Action.time h.1 (.call (env 20) (.executeTransaction 3) : Action Balances) ∧
        inWindow 0 (executions ((h.2, .call (env 20) (.executeTransaction 3)) :: h.1)) = 3 ∧
        After (fun _ => True) (next asset contract (.call (env 20) (.executeTransaction 3)) h.2))
      (record (next asset contract) (fun log _ a => OnTime Action.time log a) (calls widened)
        ([], start)) := by
    decide +kernel
  obtain ⟨⟨log, s⟩, hrec, ⟨config, hconfig, hwindow, hmax⟩, htime, hthree, hexec⟩ := h.exists_ok
  obtain ⟨s', hexec, -⟩ := hexec.exists_ok
  have hrun : History (next asset contract) (fun log _ a => OnTime Action.time log a) start log s :=
    record_run hrec
  intro hall
  obtain ⟨config', tx, hconfig', -, hlimit, -⟩ := hall log s s' (env 20) 3 hrun htime hexec
  obtain rfl : config = config' := Option.some.inj (hconfig.symm.trans hconfig')
  rw [hwindow, hmax] at hlimit
  have hstart : (env 20).timestamp - 100 = 0 := rfl
  rw [hstart, hthree] at hlimit
  omega

end Runs

end Escrow
