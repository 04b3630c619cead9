import StellAIverse.MultiSigWallet.Quorum

/-!
# The daily limit

What counts against a token's limit of a day is what was executed on that day to
recipients that were not exempt when they were paid. The limit and the exemptions
change during the day, but the ledger is only ever written by an execution.
-/

namespace MultiSigWallet

open Soroban

variable {τ : Type} {tok : Token τ} {self : Address} {s s' : State τ} {a : Action τ}
  {log : List (State τ × Action τ)}

/-- What an invocation spent of a token on a day, recipients on the whitelist of that
moment not counted. -/
def spentOn (token : Address) (day : ℕ) (e : State τ × Action τ) : ℤ :=
  match e.2 with
  | .call env (.executeTransaction _ txId) =>
    match e.1.transaction.get? txId with
    | some tx =>
      if tx.token = token ∧ isWhitelistedInner e.1 tx.recipient = false ∧
          daySeconds * day ≤ env.timestamp ∧ env.timestamp < daySeconds * (day + 1) then tx.amount
      else 0
    | none => 0
  | _ => 0

def spentInAll (token : Address) (day : ℕ) (log : List (State τ × Action τ)) : ℤ :=
  (log.map (spentOn token day)).sum

theorem spentInAll_cons (token : Address) (day : ℕ) (e : State τ × Action τ)
    (log : List (State τ × Action τ)) :
    spentInAll token day (e :: log) = spentOn token day e + spentInAll token day log := by
  unfold spentInAll
  rw [List.map_cons, List.sum_cons]

/-- The seconds of a day are those with its index. -/
theorem within_day {t day : ℕ} :
    (daySeconds * day ≤ t ∧ t < daySeconds * (day + 1)) ↔ day = t / daySeconds := by
  unfold daySeconds
  omega

theorem spentOn_execute {env : Env} {signer : Address} {txId : ℕ} {tx : WalletTransaction}
    (hfound : s.transaction.get? txId = some tx) (token : Address) (day : ℕ) :
    spentOn token day (s, .call env (.executeTransaction signer txId)) =
      if isWhitelistedInner s tx.recipient = true then 0
      else if (token, day) = (tx.token, env.timestamp / daySeconds) then tx.amount else 0 := by
  simp only [spentOn, hfound, within_day, Prod.mk.injEq]
  by_cases hexempt : isWhitelistedInner s tx.recipient = true
  · simp [hexempt]
  · by_cases htoken : token = tx.token
    · simp [hexempt, htoken]
    · simp [hexempt, htoken, Ne.symm htoken]

theorem Spends.amount {env : Env} {config : WalletConfig} {tx : WalletTransaction}
    {dailySpent : Store (Address × ℕ) ℤ} (h : Spends env config tx s dailySpent) (signer : Address)
    {txId : ℕ} (hfound : s.transaction.get? txId = some tx) (token : Address) (day : ℕ) :
    dailySpent.amount (token, day) =
      spentOn token day (s, .call env (.executeTransaction signer txId)) +
        s.dailySpent.amount (token, day) := by
  rw [spentOn_execute hfound]
  unfold Spends at h
  split at h
  · rename_i hexempt
    rw [if_pos hexempt, zero_add, h]
  · rename_i hlimited
    obtain ⟨-, rfl⟩ := h
    rw [if_neg hlimited, Store.amount_set]
    by_cases hkey : (token, day) = (tx.token, env.timestamp / daySeconds)
    · rw [if_pos hkey, if_pos hkey, hkey, add_comm]
    · rw [if_neg hkey, if_neg hkey, zero_add]

/-- The ledger of each day and token is what the log says was spent. -/
def Tallied (log : List (State τ × Action τ)) (s : State τ) : Prop :=
  ∀ token day, s.dailySpent.amount (token, day) = spentInAll token day log

theorem tallied_step (h : Tallied log s) (heffect : Effect tok self s a s') :
    Tallied ((s, a) :: log) s' := by
  intro token day
  rw [spentInAll_cons, ← h token day]
  cases heffect with
  | executeTransaction env signer txId config tx dailySpent tokens initialized found pending turn
      confirmed spends => exact spends.amount signer found token day
  | _ => exact (zero_add _).symm

theorem history_tallied {ok : List (State τ × Action τ) → State τ → Action τ → Prop} {tokens : τ}
    (hrun : History (next tok self) ok (deployed tokens) log s) : Tallied log s :=
  hrun.preserves (fun _ _ => rfl) fun _ _ _ _ _ hn h => tallied_step h (next_effect hn)

/-- In every run, whatever the timestamps and the settings in between, the ledger of a token
and a day is the sum of what was executed within that day to recipients not exempt at that
moment, and each such execution leaves the sum within the limit then in force. -/
theorem daily_spending_limited {tokens : τ}
    (hrun : History (next tok self) (fun _ _ _ => True) (deployed tokens) log s) :
    (∀ token day, s.dailySpent.amount (token, day) = spentInAll token day log) ∧
    ∀ (env : Env) (signer : Address) (txId : ℕ) (s' : State τ),
      next tok self (.call env (.executeTransaction signer txId)) s = .ok s' →
      ∃ config tx, s.config = some config ∧ s.transaction.get? txId = some tx ∧
        (∃ config', s'.config = some config' ∧ config'.dailyLimit = config.dailyLimit) ∧
        (isWhitelistedInner s tx.recipient = false →
          spentInAll tx.token (env.timestamp / daySeconds)
            ((s, .call env (.executeTransaction signer txId)) :: log) ≤ config.dailyLimit) := by
  have htallied := history_tallied hrun
  refine ⟨htallied, fun env signer txId s' hexec => ?_⟩
  cases next_effect hexec with
  | executeTransaction _ _ _ config tx dailySpent tokens initialized found pending turn confirmed
      spends =>
    refine ⟨config, tx, initialized, found, ⟨_, rfl, rfl⟩, fun hlimited => ?_⟩
    have hamount := spends.amount signer found tx.token (env.timestamp / daySeconds)
    rw [htallied, ← spentInAll_cons] at hamount
    rw [← hamount]
    unfold Spends at spends
    rw [if_neg (by simp [hlimited])] at spends
    obtain ⟨hlimit, rfl⟩ := spends
    rw [Store.amount_set, if_pos rfl]
    exact hlimit

section Runs

open Sample

/-- The limit falls during the day, one recipient is exempted and the exemption withdrawn, and
the next day starts anew. -/
def spendingDays : List (Action Balances) := [
  .call env (.initializeContract admin [alice] 1 500),
  .call env (.submitTransaction alice usdc dave 300 ""),
  .call env (.submitTransaction alice usdc bob 400 ""),
  .call env (.submitTransaction alice usdc dave 100 ""),
  .call env (.submitTransaction alice usdc dave 100 ""),
  .call env (.executeTransaction alice 1),
  .call env (.setWhitelist admin bob true),
  .call env (.executeTransaction alice 2),
  .call env (.setWhitelist admin bob false),
  .call env (.setDailyLimit admin 400),
  .call env (.executeTransaction alice 3)]

theorem daily_spending_limited_days :
    ∃ log s, History (next asset contract) (fun _ _ _ => True) start log s ∧
      s.dailySpent.amount (usdc, 0) = 400 ∧ spentInAll usdc 0 log = 400 ∧
      ∃ e, spentInAll usdc 1 (e :: log) = 100 ∧ spentInAll usdc 1 (e :: log) ≤ 400 := by
  have h : After (fun h => h.2.dailySpent.amount (usdc, 0) = 400 ∧
        (∃ config ∈ h.2.config, config.dailyLimit = 400) ∧
        (∃ tx ∈ h.2.transaction.get? 4, tx.token = usdc ∧
          isWhitelistedInner h.2 tx.recipient = false) ∧
        After (fun s' => s'.dailySpent.amount (usdc, 1) = 100)
          (next asset contract (.call ⟨86400, fun _ => true⟩ (.executeTransaction alice 4)) h.2))
      (record (next asset contract) (fun _ _ _ => True) spendingDays ([], start)) := by
    decide +kernel
  obtain ⟨⟨log, s⟩, hrec, hspent, ⟨config, hconfig, hlimit⟩, ⟨tx, htx, htoken, hlisted⟩, hexec⟩ :=
    h.exists_ok
  obtain ⟨s', hexec, hnext⟩ := hexec.exists_ok
  have hrun : History (next asset contract) (fun _ _ _ => True) start log s :=
    record_history _ (fun _ _ _ _ _ => trivial) .nil hrec
  have hlater := hrun.cons trivial hexec
  obtain ⟨htallied, hlimited⟩ := daily_spending_limited hrun
  obtain ⟨config', tx', hconfig', htx', -, hle⟩ := hlimited _ alice 4 s' hexec
  obtain rfl : config = config' := Option.some.inj (hconfig.symm.trans hconfig')
  obtain rfl : tx = tx' := Option.some.inj (htx.symm.trans htx')
  have hle := hle hlisted
  rw [htoken, hlimit] at hle
  refine ⟨log, s, hrun, hspent, (htallied usdc 0).symm.trans hspent, _, ?_, hle⟩
  exact ((daily_spending_limited hlater).1 usdc 1).symm.trans hnext

end Runs

end MultiSigWallet
