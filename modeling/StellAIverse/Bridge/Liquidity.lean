import StellAIverse.Bridge.Lifecycle

/-!
# Liquidity pools

A pool starts at one LP token for one unit, and no deposit or withdrawal changes that
rate. What the pool has is therefore what all providers minted and did not remove;
whether a provider removes more than its own the pool does not ask.
-/

namespace Bridge

open Soroban

variable {s s' : State} {a : Action} {id : ℕ} {log : List (State × Action)} {provider : Address}

/-- What a completed call put into a pool or took out of it, and the LP tokens for it. -/
structure Movement where
  provider : Address
  pool : ℕ
  deposited : ℤ
  minted : ℤ
  withdrawn : ℤ
  removed : ℤ

/-- By what the call returned. -/
def movement (e : State × Action) : Option Movement :=
  match e.2.op with
  | .addLiquidity provider id amount =>
    match addLiquidity e.2.env provider id amount e.1 with
    | .ok (lpTokens, _) => some ⟨provider, id, amount, lpTokens, 0, 0⟩
    | .error _ => none
  | .removeLiquidity provider id lpAmount =>
    match removeLiquidity e.2.env provider id lpAmount e.1 with
    | .ok (withdrawAmount, _) => some ⟨provider, id, 0, 0, withdrawAmount, lpAmount⟩
    | .error _ => none
  | _ => none

def Movement.on (id : ℕ) (m : Movement) : Bool := m.pool = id

def Movement.made (provider : Address) (id : ℕ) (m : Movement) : Bool :=
  m.provider = provider && m.pool = id

/-- Sum over the movements of a log. -/
def sumOf (p : Movement → Bool) (f : Movement → ℤ) : List (State × Action) → ℤ
  | [] => 0
  | e :: log =>
    (match movement e with
      | some m => if p m = true then f m else 0
      | none => 0) + sumOf p f log

section Sums

variable {p : Movement → Bool} {f g : Movement → ℤ}

theorem sumOf_none (h : movement (s, a) = none) : sumOf p f ((s, a) :: log) = sumOf p f log := by
  simp [sumOf, h]

theorem sumOf_some {m : Movement} (h : movement (s, a) = some m) :
    sumOf p f ((s, a) :: log) = (if p m = true then f m else 0) + sumOf p f log := by
  simp [sumOf, h]

theorem sumOf_append (recent old : List (State × Action)) :
    sumOf p f (recent ++ old) = sumOf p f recent + sumOf p f old := by
  induction recent with
  | nil => simp [sumOf]
  | cons e recent ih =>
    rw [List.cons_append, sumOf, sumOf, ih, add_assoc]

theorem sumOf_congr (h : ∀ e ∈ log, ∀ m, movement e = some m → f m = g m) :
    sumOf p f log = sumOf p g log := by
  induction log with
  | nil => rfl
  | cons e log ih =>
    have hrest := ih fun e' he' => h e' (List.mem_cons_of_mem e he')
    have hfirst := h e List.mem_cons_self
    unfold sumOf
    rw [hrest]
    split
    · rename_i m hm
      rw [hfirst m hm]
    · rfl

end Sums

/-- A call that moves no liquidity. -/
theorem movement_quiet {env : Env} {op : Op} (h : op.quiet = true) : movement (s, ⟨env, op⟩) = none := by
  cases op <;> first | rfl | cases h

/-- At the rate of one, a deposit of so much mints so much. -/
theorem lpTokensFor_level {pool : LiquidityPool} {amount lpTokens : ℤ}
    (hlevel : pool.totalLiquidity = pool.lpTokenBalance)
    (h : lpTokensFor pool amount = .ok lpTokens) : lpTokens = amount := by
  unfold lpTokensFor at h
  split at h
  · cases h
    rfl
  · rename_i hne
    obtain ⟨-, h⟩ := I128.mul_bind.mp h
    obtain ⟨-, -, h⟩ := I128.div_ok.mp h
    rw [← h, ← hlevel]
    exact Int.mul_tdiv_cancel _ hne

theorem addLiquidity_returns {env : Env} {amount lpTokens : ℤ}
    (h : addLiquidity env provider id amount s = .ok (lpTokens, s')) :
    ∃ pool, s.liquidityPool.get? id = some pool ∧ lpTokensFor pool amount = .ok lpTokens := by
  unfold addLiquidity at h
  obtain ⟨-, h⟩ := requireAuth_bind.mp h
  obtain ⟨-, h⟩ := panicIf_bind.mp h
  obtain ⟨pool, hpool, h⟩ := expect_bind.mp h
  obtain ⟨-, h⟩ := panicIf_bind.mp h
  obtain ⟨tokens, htokens, h⟩ := bind_ok.mp h
  obtain ⟨-, h⟩ := I128.add_bind.mp h
  obtain ⟨-, h⟩ := I128.add_bind.mp h
  obtain ⟨lpDeposit, h⟩ := setLpDeposit_bind h
  cases h
  exact ⟨pool, hpool, htokens⟩

theorem removeLiquidity_returns {env : Env} {lpAmount withdrawn : ℤ}
    (h : removeLiquidity env provider id lpAmount s = .ok (withdrawn, s')) :
    ∃ pool, s.liquidityPool.get? id = some pool ∧
      withdrawn = (lpAmount * pool.totalLiquidity).tdiv pool.lpTokenBalance := by
  unfold removeLiquidity at h
  obtain ⟨-, h⟩ := requireAuth_bind.mp h
  obtain ⟨-, h⟩ := panicIf_bind.mp h
  obtain ⟨pool, hpool, h⟩ := expect_bind.mp h
  obtain ⟨-, h⟩ := panicIf_bind.mp h
  obtain ⟨-, h⟩ := panicIf_bind.mp h
  obtain ⟨-, h⟩ := I128.mul_bind.mp h
  obtain ⟨-, -, h⟩ := I128.div_bind.mp h
  obtain ⟨-, h⟩ := I128.sub_bind.mp h
  obtain ⟨-, h⟩ := I128.sub_bind.mp h
  cases h
  exact ⟨pool, hpool, rfl⟩

/-- A provider removes what it minted itself and still has, and the bridge is not initialized
again once a pool was created. -/
def Action.OwnLiquidity (log : List (State × Action)) (s : State) (a : Action) : Prop :=
  match a.op with
  | .removeLiquidity provider id lpAmount =>
    lpAmount ≤ sumOf (·.made provider id) Movement.minted log -
      sumOf (·.made provider id) Movement.removed log
  | .initializeContract _ => ∀ config ∈ s.config, config.lpCounter = 0
  | _ => True

instance (log : List (State × Action)) (s : State) : (a : Action) → Decidable (a.OwnLiquidity log s)
  | ⟨_, .removeLiquidity ..⟩ => inferInstanceAs (Decidable (_ ≤ _))
  | ⟨_, .initializeContract _⟩ => inferInstanceAs (Decidable (∀ config ∈ s.config, _))
  | ⟨_, .updateConfig ..⟩ | ⟨_, .transferAdmin ..⟩ | ⟨_, .addChain ..⟩ | ⟨_, .removeChain ..⟩
  | ⟨_, .registerValidatorSet ..⟩ | ⟨_, .updateValidatorThreshold ..⟩ | ⟨_, .addValidator ..⟩
  | ⟨_, .removeValidator ..⟩ | ⟨_, .registerWrappedAsset ..⟩ | ⟨_, .deactivateWrappedAsset ..⟩
  | ⟨_, .setFeeTier ..⟩ | ⟨_, .lockAssets ..⟩ | ⟨_, .approveTransaction ..⟩
  | ⟨_, .completeTransaction ..⟩ | ⟨_, .mintAssets ..⟩ | ⟨_, .releaseAssets ..⟩
  | ⟨_, .createLiquidityPool ..⟩ | ⟨_, .addLiquidity ..⟩ | ⟨_, .pauseBridge ..⟩
  | ⟨_, .unpauseBridge ..⟩ | ⟨_, .fileDispute ..⟩ | ⟨_, .resolveDispute ..⟩
  | ⟨_, .cancelTransaction ..⟩ => .isTrue trivial

structure Pooled (log : List (State × Action)) (s : State) : Prop where
  numbered : ∃ config, s.config = some config ∧
    ∀ id pool, s.liquidityPool.get? id = some pool → id ≤ config.lpCounter
  level : ∀ id pool, s.liquidityPool.get? id = some pool →
    pool.totalLiquidity = pool.lpTokenBalance
  balance : ∀ id pool, s.liquidityPool.get? id = some pool →
    pool.lpTokenBalance = sumOf (·.on id) Movement.minted log - sumOf (·.on id) Movement.removed log
  unused : ∀ id, s.liquidityPool.get? id = none →
    sumOf (·.on id) Movement.minted log = 0 ∧ sumOf (·.on id) Movement.removed log = 0
  even : ∀ e ∈ log, ∀ m, movement e = some m → m.withdrawn = m.removed ∧ m.deposited = m.minted
  own : ∀ provider id, sumOf (·.made provider id) Movement.removed log ≤
    sumOf (·.made provider id) Movement.minted log

theorem pooled_initialized (admin : Address) : Pooled [] (initialized admin) where
  numbered := ⟨_, rfl, fun _ _ hk => by cases hk⟩
  level _ _ hk := by cases hk
  balance _ _ hk := by cases hk
  unused _ _ := ⟨rfl, rfl⟩
  even _ he := by cases he
  own _ _ := le_rfl

/-- A call that touches no pool. -/
theorem Pooled.same (h : Pooled log s) (hm : movement (s, a) = none)
    (hpools : s'.liquidityPool = s.liquidityPool)
    (hcounter : ∀ config, s.config = some config →
      ∃ config', s'.config = some config' ∧ config'.lpCounter = config.lpCounter) :
    Pooled ((s, a) :: log) s' := by
  obtain ⟨config, hconfig, hnumbered⟩ := h.numbered
  obtain ⟨config', hconfig', hsame⟩ := hcounter config hconfig
  refine ⟨⟨config', hconfig', ?_⟩, ?_, ?_, ?_, fun e he m hk => ?_, fun provider id => ?_⟩
  · rw [hpools, hsame]
    exact hnumbered
  · rw [hpools]
    exact h.level
  · simp only [hpools, sumOf_none hm]
    exact h.balance
  · simp only [hpools, sumOf_none hm]
    exact h.unused
  · rcases List.mem_cons.mp he with rfl | he
    · cases hm.symm.trans hk
    · exact h.even e he m hk
  · rw [sumOf_none hm, sumOf_none hm]
    exact h.own provider id

/-- A pool is created under a number that was not used. -/
theorem Pooled.created (h : Pooled log s) (hm : movement (s, a) = none) {config config' : BridgeConfig}
    {pool : LiquidityPool} (hconfig : s.config = some config) (hconfig' : s'.config = some config')
    (hcounter : config'.lpCounter = config.lpCounter + 1)
    (hpools : s'.liquidityPool = s.liquidityPool.set (config.lpCounter + 1) pool)
    (hempty : pool.totalLiquidity = 0 ∧ pool.lpTokenBalance = 0) : Pooled ((s, a) :: log) s' := by
  obtain ⟨config₁, hconfig₁, hnumbered⟩ := h.numbered
  obtain rfl : config = config₁ := Option.some.inj (hconfig.symm.trans hconfig₁)
  have hfresh : s.liquidityPool.get? (config.lpCounter + 1) = none := by
    by_contra hne
    obtain ⟨old, hk⟩ := Option.ne_none_iff_exists'.mp hne
    have hid := hnumbered _ old hk
    omega
  obtain ⟨hminted, hremoved⟩ := h.unused _ hfresh
  refine ⟨⟨config', hconfig', ?_⟩, ?_, ?_, fun id hk => ?_, fun e he m hk => ?_, fun provider id => ?_⟩
  · rw [hpools, hcounter]
    refine Store.forall_set (fun id old hk => ?_) le_rfl
    have hid := hnumbered id old hk
    omega
  · rw [hpools]
    exact Store.forall_set h.level (hempty.1.trans hempty.2.symm)
  · simp only [hpools, sumOf_none hm]
    refine Store.forall_set h.balance ?_
    rw [hempty.2, hminted, hremoved]
    rfl
  · rw [hpools, Store.get?_set] at hk
    split at hk
    · cases hk
    · rw [sumOf_none hm, sumOf_none hm]
      exact h.unused id hk
  · rcases List.mem_cons.mp he with rfl | he
    · cases hm.symm.trans hk
    · exact h.even e he m hk
  · rw [sumOf_none hm, sumOf_none hm]
    exact h.own provider id

/-- Liquidity moves, at the rate of one, within what the provider has. -/
theorem Pooled.moved (h : Pooled log s) {m : Movement} (hm : movement (s, a) = some m)
    {pool pool' : LiquidityPool} (hpool : s.liquidityPool.get? m.pool = some pool)
    (heven : m.withdrawn = m.removed ∧ m.deposited = m.minted)
    (hown : sumOf (·.made m.provider m.pool) Movement.removed log + m.removed ≤
      sumOf (·.made m.provider m.pool) Movement.minted log + m.minted)
    (hconfig : s'.config = s.config) (hpools : s'.liquidityPool = s.liquidityPool.set m.pool pool')
    (htotal : pool'.totalLiquidity = pool.totalLiquidity + m.deposited - m.withdrawn)
    (hbalance : pool'.lpTokenBalance = pool.lpTokenBalance + m.minted - m.removed) :
    Pooled ((s, a) :: log) s' := by
  obtain ⟨config, hconfig₁, hnumbered⟩ := h.numbered
  have hlevel := h.level m.pool pool hpool
  have hbefore := h.balance m.pool pool hpool
  refine ⟨⟨config, hconfig.trans hconfig₁, ?_⟩, ?_, fun id pool₁ hk => ?_, fun id hk => ?_,
    fun e he m' hk => ?_, fun provider id => ?_⟩
  · rw [hpools]
    exact Store.forall_set hnumbered (hnumbered m.pool pool hpool)
  · rw [hpools]
    refine Store.forall_set h.level ?_
    rw [htotal, hbalance, hlevel, heven.1, heven.2]
  · rw [hpools, Store.get?_set] at hk
    rw [sumOf_some hm, sumOf_some hm]
    split at hk
    · rename_i he
      cases hk
      subst he
      simp only [Movement.on, decide_true, if_true]
      rw [hbalance, hbefore]
      simp only [Movement.on]
      ring
    · rename_i hne
      simp only [Movement.on, Ne.symm hne, decide_false, Bool.false_eq_true, if_false, zero_add]
      exact h.balance id pool₁ hk
  · rw [hpools, Store.get?_set] at hk
    split at hk
    · cases hk
    · rename_i hne
      rw [sumOf_some hm, sumOf_some hm]
      simp only [Movement.on, Ne.symm hne, decide_false, Bool.false_eq_true, if_false, zero_add]
      exact h.unused id hk
  · rcases List.mem_cons.mp he with rfl | he
    · obtain rfl : m = m' := Option.some.inj (hm.symm.trans hk)
      exact heven
    · exact h.even e he m' hk
  · rw [sumOf_some hm, sumOf_some hm]
    by_cases hmade : m.made provider id = true
    · obtain ⟨rfl, rfl⟩ : m.provider = provider ∧ m.pool = id := by
        simpa [Movement.made] using hmade
      rw [if_pos hmade, if_pos hmade]
      omega
    · rw [if_neg hmade, if_neg hmade]
      have hrest := h.own provider id
      omega

theorem pooled_step (h : Pooled log s) (ha : a.OwnLiquidity log s) (hn : next a s = .ok s')
    (heffect : Effect s a s') : Pooled ((s, a) :: log) s' := by
  cases heffect with
  | settings env op config config' validatorSet feeTier emergency chains quiet found reconfigured =>
    refine h.same (movement_quiet quiet) rfl fun config₁ hconfig => ⟨config', rfl, ?_⟩
    obtain rfl : config = config₁ := Option.some.inj (found.symm.trans hconfig)
    exact reconfigured.lpCounter
  | initializeContract env admin config found unused =>
    refine h.same rfl rfl fun config₁ hconfig => ⟨_, rfl, ?_⟩
    exact (ha config₁ hconfig).symm
  | registerWrappedAsset | deactivateWrappedAsset | approveTransaction | completeTransaction
  | releaseAssets | resolveCancel | resolveOther | cancelOutbound | cancelInbound =>
    exact h.same rfl rfl fun config hconfig => ⟨config, hconfig, rfl⟩
  | lockAssets env sender chain code amount destAddress hash config asset fee emergency found =>
    refine h.same rfl rfl fun config₁ hconfig => ⟨_, rfl, ?_⟩
    obtain rfl : config = config₁ := Option.some.inj (found.symm.trans hconfig)
    rfl
  | mintAssets env sender chain code amount hash merkleRoot config asset emergency found =>
    refine h.same rfl rfl fun config₁ hconfig => ⟨_, rfl, ?_⟩
    obtain rfl : config = config₁ := Option.some.inj (found.symm.trans hconfig)
    rfl
  | fileDispute env disputer id reason tx config found undecided configured =>
    refine h.same rfl rfl fun config₁ hconfig => ⟨_, rfl, ?_⟩
    obtain rfl : config = config₁ := Option.some.inj (configured.symm.trans hconfig)
    rfl
  | createLiquidityPool env admin code chain config found =>
    exact h.created rfl found rfl rfl rfl ⟨rfl, rfl⟩
  | addLiquidity env provider id amount lpTokens pool lpDeposit positive found tokens =>
    obtain ⟨⟨returned, s₁⟩, hcall, -⟩ := map_ok.mp hn
    obtain ⟨pool₁, hpool₁, htokens⟩ := addLiquidity_returns hcall
    obtain rfl : pool = pool₁ := Option.some.inj (found.symm.trans hpool₁)
    obtain rfl : lpTokens = amount := lpTokensFor_level (h.level id pool found) tokens
    obtain rfl : returned = lpTokens := lpTokensFor_level (h.level id pool found) htokens
    have hm : movement (s, ⟨env, .addLiquidity provider id returned⟩) =
        some ⟨provider, id, returned, returned, 0, 0⟩ := by
      simp only [movement, hcall]
    refine h.moved hm found ⟨rfl, rfl⟩ ?_ rfl rfl (by simp) (by simp)
    have hown := h.own provider id
    simp only
    omega
  | removeLiquidity env provider id lpAmount pool positive found enough =>
    obtain ⟨⟨returned, s₁⟩, hcall, -⟩ := map_ok.mp hn
    obtain ⟨pool₁, hpool₁, hreturned⟩ := removeLiquidity_returns hcall
    obtain rfl : pool = pool₁ := Option.some.inj (found.symm.trans hpool₁)
    have hexact : (lpAmount * pool.totalLiquidity).tdiv pool.lpTokenBalance = lpAmount := by
      rw [h.level id pool found]
      exact Int.mul_tdiv_cancel _ (by omega)
    rw [hexact] at hreturned
    subst hreturned
    have hm : movement (s, ⟨env, .removeLiquidity provider id returned⟩) =
        some ⟨provider, id, 0, 0, returned, returned⟩ := by
      simp only [movement, hcall]
    refine h.moved hm found ⟨rfl, rfl⟩ ?_ rfl rfl (by simp [hexact]) (by simp)
    change returned ≤ _ at ha
    simp only
    omega

/-- In every run in which providers remove no more than they minted themselves and still have,
and the bridge is not initialized again after a pool was created: no provider removes more LP
tokens than it was given, the balance of a pool is what all providers minted less what they
removed, and a provider without LP tokens never withdraws more than it deposits from then on. -/
theorem liquidity_owned {admin : Address}
    (hrun : History next (fun log s a => a.OwnLiquidity log s) (initialized admin) log s) :
    (∀ provider id, sumOf (·.made provider id) Movement.removed log ≤
      sumOf (·.made provider id) Movement.minted log) ∧
    (∀ id pool, s.liquidityPool.get? id = some pool →
      pool.lpTokenBalance =
        sumOf (·.on id) Movement.minted log - sumOf (·.on id) Movement.removed log) ∧
    (∀ provider id recent old, log = recent ++ old →
      sumOf (·.made provider id) Movement.minted old =
        sumOf (·.made provider id) Movement.removed old →
      sumOf (·.made provider id) Movement.withdrawn recent ≤
        sumOf (·.made provider id) Movement.deposited recent) := by
  obtain ⟨-, h⟩ := run_preserves (P := Pooled) hrun (pooled_initialized admin)
    fun log s a s' ha hn heffect h => pooled_step h ha hn heffect
  refine ⟨h.own, h.balance, fun provider id recent old hlog hnone => ?_⟩
  have hown := h.own provider id
  have hrecent : ∀ e ∈ recent, e ∈ log := fun e he => hlog ▸ List.mem_append_left old he
  have hwithdrawn : sumOf (·.made provider id) Movement.withdrawn recent =
      sumOf (·.made provider id) Movement.removed recent :=
    sumOf_congr fun e he m hm => (h.even e (hrecent e he) m hm).1
  have hdeposited : sumOf (·.made provider id) Movement.deposited recent =
      sumOf (·.made provider id) Movement.minted recent :=
    sumOf_congr fun e he m hm => (h.even e (hrecent e he) m hm).2
  rw [hlog, sumOf_append, sumOf_append] at hown
  omega

section Runs

open Sample

/-- Two providers share a pool. -/
def sharedPool : List Op := [
  .createLiquidityPool admin "USDC" .solana,
  .addLiquidity alice 1 1000,
  .addLiquidity bob 1 500,
  .removeLiquidity alice 1 400,
  .addLiquidity alice 1 7,
  .removeLiquidity bob 1 500]

theorem liquidity_owned_shared :
    ∃ s log pool, History next (fun log s a => a.OwnLiquidity log s) (initialized admin) log s ∧
      s.liquidityPool.get? 1 = some pool ∧ pool.lpTokenBalance = 607 ∧
      pool.lpTokenBalance =
        sumOf (·.on 1) Movement.minted log - sumOf (·.on 1) Movement.removed log ∧
      sumOf (·.made bob 1) Movement.removed log = 500 ∧
      sumOf (·.made bob 1) Movement.removed log ≤ sumOf (·.made bob 1) Movement.minted log := by
  have h : After (fun h => (∃ pool ∈ h.2.liquidityPool.get? 1, pool.lpTokenBalance = 607) ∧
        sumOf (·.made bob 1) Movement.removed h.1 = 500)
      (record next (fun log s a => a.OwnLiquidity log s) (calls sharedPool)
        ([], initialized admin)) := by
    decide +kernel
  obtain ⟨⟨log, s⟩, hrec, ⟨pool, hpool, hbalance⟩, hremoved⟩ := h.exists_ok
  have hrun := record_run hrec
  obtain ⟨hown, hpools, -⟩ := liquidity_owned hrun
  exact ⟨s, log, pool, hrun, hpool, hbalance, hpools 1 pool hpool, hremoved, hown bob 1⟩

/-- Bob removes what Alice deposited. -/
def takenLiquidity : List Op := [
  .createLiquidityPool admin "USDC" .solana,
  .addLiquidity alice 1 1000,
  .removeLiquidity bob 1 1000]

/-- He never had an LP token. -/
theorem liquidity_taken :
    ∃ s log, History next (fun _ _ _ => True) (initialized admin) log s ∧
      sumOf (·.made bob 1) Movement.minted log = 0 ∧
      sumOf (·.made bob 1) Movement.deposited log = 0 ∧
      sumOf (·.made bob 1) Movement.withdrawn log = 1000 ∧
      ¬ sumOf (·.made bob 1) Movement.removed log ≤ sumOf (·.made bob 1) Movement.minted log := by
  have h : After (fun h => sumOf (·.made bob 1) Movement.minted h.1 = 0 ∧
        sumOf (·.made bob 1) Movement.deposited h.1 = 0 ∧
        sumOf (·.made bob 1) Movement.withdrawn h.1 = 1000 ∧
        sumOf (·.made bob 1) Movement.removed h.1 = 1000)
      (record next (fun _ _ _ => True) (calls takenLiquidity) ([], initialized admin)) := by
    decide +kernel
  obtain ⟨⟨log, s⟩, hrec, hminted, hdeposited, hwithdrawn, hremoved⟩ := h.exists_ok
  simp only at hminted hremoved
  exact ⟨s, log, record_history _ (fun _ _ _ _ _ => trivial) .nil hrec, hminted, hdeposited,
    hwithdrawn, by omega⟩

end Runs

end Bridge
