import StellAIverse.Bridge.Lifecycle

/-!
# Initialization

Whether the bridge was initialized is read off the transaction counter of its
configuration. Empty storage has none, so no call ever gets past it; and a
configuration that was written by other means is open to every caller until the
first transaction.
-/

namespace Bridge

open Soroban

variable {s s' : State} {a : Action} {log : List (State × Action)}

theorem keyed_deployed : Keyed deployed where
  tx _ _ hk := by cases hk
  wrappedAsset _ _ hk := by cases hk
  liquidityPool _ _ hk := by cases hk
  dispute _ _ hk := by cases hk

theorem registerWrappedAsset_configured {env : Env} {admin issuer : Address} {code : String}
    {chain : SupportedChain} (h : registerWrappedAsset env admin code issuer chain s = .ok s') :
    s.config ≠ none := by
  unfold registerWrappedAsset at h
  obtain ⟨config, hconfig, -⟩ := requireAdmin_bind h
  simp [hconfig]

/-- Empty storage is never left. -/
theorem deployed_stuck (a : Action) : ∀ s', next a deployed ≠ .ok s' := by
  intro s' h
  cases next_effect keyed_deployed h with
  | settings env op config config' validatorSet feeTier emergency chains quiet found => cases found
  | initializeContract env admin config found => cases found
  | registerWrappedAsset => exact registerWrappedAsset_configured h rfl
  | deactivateWrappedAsset env admin code chain asset found => cases found
  | lockAssets env sender chain code amount destAddress hash config asset fee emergency found =>
    cases found
  | approveTransaction env validator id chain signature tx vs vsig emergency found => cases found
  | completeTransaction env admin id hash tx asset found => cases found
  | mintAssets env sender chain code amount hash merkleRoot config asset emergency found =>
    cases found
  | releaseAssets env admin id tx asset found => cases found
  | createLiquidityPool env admin code chain config found => cases found
  | addLiquidity env provider id amount lpTokens pool lpDeposit positive found => cases found
  | removeLiquidity env provider id lpAmount pool positive found => cases found
  | fileDispute env disputer id reason tx config found => cases found
  | resolveCancel env admin id dispute tx found => cases found
  | resolveOther env admin id resolution dispute found => cases found
  | cancelOutbound env caller id tx asset found => cases found
  | cancelInbound env caller id tx found => cases found

/-- A configured bridge accepts an initialization as long as it has no transaction, whoever
signs it. -/
theorem initializeContract_ok {env : Env} {admin : Address} {config : BridgeConfig}
    (hconfig : s.config = some config) :
    initializeContract env admin s = .ok s' ↔
      config.txCounter = 0 ∧ env.authorized admin = true ∧ initializeBridge admin s = s' := by
  unfold initializeContract
  rw [getConfig_bind]
  constructor
  · rintro ⟨config₁, hconfig₁, h⟩
    obtain rfl : config = config₁ := Option.some.inj (hconfig.symm.trans hconfig₁)
    obtain ⟨hunused, h⟩ := panicIf_bind.mp h
    obtain ⟨hauth, h⟩ := requireAuth_bind.mp h
    exact ⟨by omega, hauth, Except.ok.inj h⟩
  · rintro ⟨hunused, hauth, rfl⟩
    exact ⟨config, hconfig, panicIf_bind.mpr ⟨by omega, requireAuth_bind.mpr ⟨hauth, rfl⟩⟩⟩

/-- The first initialization fails for every administrator, and so does every other call on
empty storage. Had the configuration been written, then in every run any address could
initialize the bridge again, and be its administrator with all counters and chains reset,
exactly while there is no transaction. -/
theorem never_initialized (admin : Address) :
    (∀ env, initializeContract env admin deployed = .error (.panic "Bridge not initialized")) ∧
    (∀ a s', next a deployed ≠ .ok s') ∧
    ∀ log s, History next (fun _ _ _ => True) (initialized admin) log s →
      ∃ config, s.config = some config ∧ ∀ env admin' s',
        next ⟨env, .initializeContract admin'⟩ s = .ok s' ↔
          config.txCounter = 0 ∧ env.authorized admin' = true ∧ initializeBridge admin' s = s' := by
  refine ⟨fun env => rfl, deployed_stuck, fun log s hrun => ?_⟩
  obtain ⟨-, ⟨config, hconfig, -⟩, -⟩ := run_ordered hrun
  exact ⟨config, hconfig, fun env admin' s' => initializeContract_ok hconfig⟩

section Runs

open Sample

/-- Bob makes himself the administrator of a bridge with a chain and no transaction. -/
theorem never_initialized_taken :
    ∃ s log s', History next (fun _ _ _ => True) (initialized admin) log s ∧
      s.supportedChains = some [.solana] ∧
      next ⟨env, .initializeContract bob⟩ s = .ok s' ∧ s'.config.map (·.admin) = some bob ∧
      s'.supportedChains = some [] := by
  have h : After (fun h => h.2.supportedChains = some [.solana] ∧
        h.2.config.map (·.txCounter) = some 0)
      (record next (fun _ _ _ => True) (calls opening) ([], initialized admin)) := by
    decide +kernel
  obtain ⟨⟨log, s⟩, hrec, hchains, hcounter⟩ := h.exists_ok
  have hrun : History next (fun _ _ _ => True) (initialized admin) log s :=
    record_history _ (fun _ _ _ _ _ => trivial) .nil hrec
  obtain ⟨config, hconfig, hopen⟩ := (never_initialized admin).2.2 log s hrun
  have hunused : config.txCounter = 0 := by
    simpa [hconfig] using hcounter
  exact ⟨s, log, initializeBridge bob s, hrun, hchains, (hopen env bob _).mpr ⟨hunused, rfl, rfl⟩,
    rfl, rfl⟩

/-- The administrator signs, and the first initialization traps; the second one of a
configured bridge completes. -/
theorem first_initialization_fails :
    initializeContract env admin deployed = .error (.panic "Bridge not initialized") ∧
      After (fun s => s.config.map (·.admin) = some bob)
        (initializeContract env bob (initialized admin)) := by
  refine ⟨rfl, ?_⟩
  decide +kernel

end Runs

end Bridge
