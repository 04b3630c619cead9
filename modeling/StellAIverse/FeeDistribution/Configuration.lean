import StellAIverse.FeeDistribution.Effects
import StellAIverse.Soroban.Run

/-!
# Configuration

The running total of shares, the list of category ids and the two rates each
repeat what other entries say. They are kept in step by whatever order of
adding, updating, removing and reactivating categories.
-/

namespace FeeDistribution

open Soroban

variable {τ : Type} {tok : Token τ} {self : Address} {s s' : State τ} {a : Action τ}

/-- Reached from empty storage by invocations that `ok` admits. -/
def ReachableVia (tok : Token τ) (self : Address) (ok : State τ → Action τ → Prop)
    (s : State τ) : Prop :=
  ∃ tokens, Steps (next tok self) ok (deployed tokens) s

def Reachable (tok : Token τ) (self : Address) (s : State τ) : Prop :=
  ReachableVia tok self (fun _ _ => True) s

/-- An active category has a share and an inactive one has none. -/
def RecipientCategory.Sized (c : RecipientCategory) : Prop :=
  (c.active = true → 0 < c.shareBps ∧ c.shareBps ≤ 10000) ∧ (c.active = false → c.shareBps = 0)

/-- Sum of the shares of all stored categories. -/
def shares (categories : Store Symbol RecipientCategory) : ℤ :=
  categories.total fun _ c => c.shareBps

structure Configured (s : State τ) : Prop where
  fresh : s.admin = none → s.category = .empty ∧ s.feeRateBps = none ∧ s.maxFeeRateBps = none
  total : (s.totalSharesBps : ℤ) = shares s.category
  bounded : s.totalSharesBps ≤ 10000
  sized : ∀ id c, s.category.get? id = some c → c.Sized
  listed : ∀ id, id ∈ s.categoryIds ↔ (s.category.get? id).isSome = true
  once : s.categoryIds.Nodup
  few : s.categoryIds.length ≤ maxCategories
  rates : ∀ admin, s.admin = some admin → ∃ rate most, s.feeRateBps = some rate ∧
    s.maxFeeRateBps = some most ∧ rate ≤ most ∧ most ≤ hardCapFeeRateBps

/-- No category has a larger share than all of them together. -/
theorem Configured.share_le (hc : Configured s) {id : Symbol} {c : RecipientCategory}
    (hk : s.category.get? id = some c) : c.shareBps ≤ s.totalSharesBps := by
  have hle := Store.weight_le_total (w := fun _ (c : RecipientCategory) => (c.shareBps : ℤ))
    (s := s.category) id fun _ _ _ => Int.natCast_nonneg _
  rw [Store.weight_some hk] at hle
  have htotal := hc.total
  unfold shares at htotal
  omega

/-- A stored category rewritten, with the running total moved by the change of its
share. -/
theorem Configured.write (hc : Configured s) {id : Symbol} {c c' : RecipientCategory} {total : ℕ}
    {tokens : τ} {lock : Bool} (hk : s.category.get? id = some c) (hsized : c'.Sized)
    (htotal : (total : ℤ) = s.totalSharesBps - c.shareBps + c'.shareBps) (hle : total ≤ 10000) :
    Configured { s with
      category := s.category.set id c', totalSharesBps := total, tokens
      reentrancyLock := lock } where
  fresh hn := by
    rw [(hc.fresh hn).1] at hk
    cases hk
  total := by
    simp only [shares]
    rw [Store.total_set, Store.weight_some hk, htotal, hc.total, shares]
  bounded := hle
  sized := Store.forall_set hc.sized hsized
  listed id' := by
    rw [hc.listed id']
    simp only
    rw [Store.get?_set]
    split
    · rename_i he
      rw [he, hk]
      simp
    · exact Iff.rfl
  once := hc.once
  few := hc.few
  rates := hc.rates

/-- What leaves share and activity of a category alone leaves the configuration
alone. -/
theorem Configured.rewrite (hc : Configured s) {id : Symbol} {c c' : RecipientCategory}
    {tokens : τ} {lock : Bool} (hk : s.category.get? id = some c)
    (hshare : c'.shareBps = c.shareBps) (hactive : c'.active = c.active) :
    Configured { s with
      category := s.category.set id c', tokens, reentrancyLock := lock } := by
  have hsized : c'.Sized := by
    have hold := hc.sized id c hk
    unfold RecipientCategory.Sized at hold ⊢
    rw [hshare, hactive]
    exact hold
  exact hc.write hk hsized (by omega) hc.bounded

theorem Allots.configured {done : List CategoryAllocation} (h : Allots s done s')
    (hc : Configured s) : Configured s' := by
  induction h with
  | nil => exact hc
  | cons id c amount stored _ _ ih => exact ih (hc.rewrite stored rfl rfl)

theorem Claims.configured {recipient : Address} (h : Claims tok self recipient s s')
    (hc : Configured s) : Configured s' := by
  induction h with
  | refl => exact hc
  | tail _ hstep ih =>
    cases hstep with
    | mk id c _ _ stored => exact ih.rewrite stored rfl rfl

theorem configured_step (hc : Configured s) (h : Effect tok self s a s') : Configured s' := by
  have admitted : ∀ {admin : Address}, s.admin = some admin → s.admin ≠ none := by
    intro admin hadmin hnone
    rw [hadmin] at hnone
    cases hnone
  cases h with
  | initializeContract _ admin _ rate most fresh capped within =>
    obtain ⟨hempty, -, -⟩ := hc.fresh fresh
    refine ⟨fun hn => absurd hn (Option.some_ne_none _), ?_, Nat.zero_le _, hc.sized, ?_, List.nodup_nil,
      Nat.zero_le _, fun _ _ => ⟨rate, most, rfl, rfl, within, capped⟩⟩
    · simp only [hempty]
      rfl
    · intro id
      simp [hempty]
  | setFeeRate _ _ admin rate most _ authorized limit within =>
    obtain ⟨-, most', -, hmost, -, hcap⟩ := hc.rates admin authorized
    obtain rfl : most' = most := Option.some.inj (hmost.symm.trans limit)
    refine ⟨fun hn => absurd hn (admitted authorized), hc.total, hc.bounded, hc.sized, hc.listed,
      hc.once, hc.few, fun _ _ => ⟨rate, most', rfl, limit, within, hcap⟩⟩
  | setMaxFeeRate _ admin rate most authorized current capped =>
    refine ⟨fun hn => absurd hn (admitted authorized), hc.total, hc.bounded, hc.sized, hc.listed,
      hc.once, hc.few, fun _ _ => ⟨_, most, rfl, rfl, ?_, capped⟩⟩
    split <;> omega
  | addCategory _ admin id recipient share authorized fresh valid room bounded =>
    refine ⟨fun hn => absurd hn (admitted authorized), ?_, bounded,
      Store.forall_set hc.sized ⟨fun _ => valid, fun hn => by cases hn⟩, fun id' => ?_, ?_, ?_, hc.rates⟩
    · have htotal := hc.total
      simp only [shares] at htotal ⊢
      rw [Store.total_set, Store.weight_none fresh]
      push_cast
      omega
    · simp only [List.mem_append, List.mem_singleton]
      rw [Store.get?_set, hc.listed id']
      split
      · simp_all
      · simp_all
    · have hnew : id ∉ s.categoryIds := by
        rw [hc.listed id, fresh]
        simp
      rw [← List.concat_eq_append]
      exact (List.nodup_concat _ _).mpr ⟨hnew, hc.once⟩
    · simp only [List.length_append, List.length_cons, List.length_nil]
      omega
  | updateCategory _ _ id recipient _ c share total _ stored active balanced bounded =>
    have hsized := hc.sized id c stored
    refine hc.write stored ⟨fun _ => ?_, fun hn => ?_⟩ balanced ?_
    · rcases bounded with ⟨-, rfl⟩ | ⟨hpos, hle, -⟩
      · exact hsized.1 active
      · exact ⟨hpos, hle⟩
    · rw [active] at hn
      cases hn
    · have := hc.bounded
      omega
  | removeCategory _ _ id c total _ stored active balanced =>
    refine hc.write stored ⟨fun hn => (by cases hn), fun _ => rfl⟩ ?_ ?_
    · simp only
      omega
    · have := hc.bounded
      omega
  | reactivateCategory _ _ id share c _ stored inactive valid bounded =>
    refine hc.write stored ⟨fun _ => valid, fun hn => by cases hn⟩ ?_ bounded
    have hzero := (hc.sized id c stored).2 inactive
    simp only
    omega
  | distribute _ _ _ s₁ _ _ _ _ _ allots =>
    have hend := allots.configured hc
    exact ⟨hend.fresh, hend.total, hend.bounded, hend.sized, hend.listed, hend.once, hend.few,
      hend.rates⟩
  | claims _ _ _ _ _ claims => exact claims.configured hc
  | _ => exact ⟨hc.fresh, hc.total, hc.bounded, hc.sized, hc.listed, hc.once, hc.few, hc.rates⟩

theorem configured_deployed (tokens : τ) : Configured (deployed tokens) where
  fresh _ := ⟨rfl, rfl, rfl⟩
  total := rfl
  bounded := Nat.zero_le _
  sized _ _ hk := by cases hk
  listed id := by simp [deployed]
  once := List.nodup_nil
  few := Nat.zero_le _
  rates _ hn := by cases hn

theorem Reachable.configured (hs : Reachable tok self s) : Configured s := by
  obtain ⟨tokens, hrun⟩ := hs
  refine hrun.preserves ?_ (configured_deployed tokens)
  intro s a s' _ hn hc
  exact configured_step hc (next_effect hn)

theorem assertAdmin_avoids {e : Fault} {caller : Address}
    (hinit : e ≠ .panic "Contract not initialized")
    (hadmin : e ≠ .panic "Unauthorized: caller is not admin") : Avoids e (assertAdmin s caller) :=
  (expect_avoids hinit).bind fun _ _ => panicIf_avoids hadmin

theorem addShares_avoids {e : Fault} {total share : ℕ} (hover : e ≠ .panic "Share total overflow")
    (hfull : e ≠ .panic "Total shares exceed 100%") : Avoids e (addShares total share) :=
  (U32.checked_avoids hover).bind fun _ _ => (panicIf_avoids hfull).bind fun _ _ => avoids_ok _

theorem checkedSub_avoids {e : Fault} {total share : ℕ} {message : String} (h : share ≤ total) :
    Avoids e (U32.checkedSub total share message) := by
  rw [U32.checkedSub_of_le h]
  exact avoids_ok _

theorem updateCategory_avoids (hc : Configured s) (env : Env) (admin : Address) (id : Symbol)
    (recipient : Option Address) (newShare : Option ℕ) :
    Avoids (.panic "Share total underflow") (updateCategory env admin id recipient newShare s) := by
  unfold updateCategory
  refine (requireAuth_avoids (by decide)).bind fun _ _ => ?_
  refine (assertAdmin_avoids (by decide) (by decide)).bind fun _ _ => ?_
  refine (expect_avoids (by decide)).bind fun c hload => ?_
  refine (panicIf_avoids (by decide)).bind fun _ _ => ?_
  refine Avoids.bind ?_ fun _ _ => avoids_ok _
  unfold replaceShare
  cases newShare with
  | none => exact avoids_ok _
  | some share =>
    refine (panicIf_avoids (by decide)).bind fun _ _ => ?_
    refine (checkedSub_avoids (hc.share_le (expect_ok.mp hload))).bind fun _ _ => ?_
    exact (addShares_avoids (by decide) (by decide)).bind fun _ _ => avoids_ok _

theorem removeCategory_avoids (hc : Configured s) (env : Env) (admin : Address) (id : Symbol) :
    Avoids (.panic "Share total underflow") (removeCategory env admin id s) := by
  unfold removeCategory
  refine (requireAuth_avoids (by decide)).bind fun _ _ => ?_
  refine (assertAdmin_avoids (by decide) (by decide)).bind fun _ _ => ?_
  refine (expect_avoids (by decide)).bind fun c hload => ?_
  refine (panicIf_avoids (by decide)).bind fun _ _ => ?_
  exact (checkedSub_avoids (hc.share_le (expect_ok.mp hload))).bind fun _ _ => avoids_ok _

/-- Totals, ids and rates agree in every reachable state, so taking a category's
share off the total never fails. -/
theorem configuration_agrees (hs : Reachable tok self s) :
    (s.totalSharesBps : ℤ) = shares s.category ∧ s.totalSharesBps ≤ 10000 ∧
    (∀ id c, s.category.get? id = some c →
      if c.active = true then 1 ≤ c.shareBps ∧ c.shareBps ≤ 10000 else c.shareBps = 0) ∧
    (∀ id, id ∈ s.categoryIds ↔ (s.category.get? id).isSome = true) ∧
    s.categoryIds.Nodup ∧ s.categoryIds.length ≤ 20 ∧
    (s.admin ≠ none → ∃ rate most, s.feeRateBps = some rate ∧ s.maxFeeRateBps = some most ∧
      rate ≤ most ∧ most ≤ 2000) ∧
    (s.admin = none → s.feeRateBps = none ∧ s.maxFeeRateBps = none) ∧
    (∀ env admin id recipient newShare,
      updateCategory env admin id recipient newShare s ≠ .error (.panic "Share total underflow")) ∧
    ∀ env admin id, removeCategory env admin id s ≠ .error (.panic "Share total underflow") := by
  have hc := hs.configured
  refine ⟨hc.total, hc.bounded, fun id c hk => ?_, hc.listed, hc.once, hc.few, fun hadmin => ?_,
    fun hnone => (hc.fresh hnone).2, updateCategory_avoids hc, removeCategory_avoids hc⟩
  · obtain ⟨hactive, hinactive⟩ := hc.sized id c hk
    split
    · rename_i h
      exact hactive h
    · rename_i h
      exact hinactive (Bool.not_eq_true _ ▸ h)
  · obtain ⟨admin, hsome⟩ := Option.ne_none_iff_exists'.mp hadmin
    exact hc.rates admin hsome

namespace Sample

def contract : Address := ⟨0⟩

def admin : Address := ⟨1⟩

def usdc : Address := ⟨2⟩

def alice : Address := ⟨3⟩

def bob : Address := ⟨4⟩

def env : Env := ⟨0, fun _ => true⟩

def start : State Balances := deployed (Balances.issue [(usdc, alice, 10 ^ 6)])

def run (calls : List Op) : Result (State Balances) :=
  execute (next asset contract) (calls.map (.call env)) start

theorem run_reachable {calls : List Op} {s : State Balances} (h : run calls = .ok s) :
    Reachable asset contract s :=
  ⟨_, execute_steps _ (fun _ _ _ => trivial) h⟩

/-- Two categories that share everything. -/
def opened : List Op := [
  .initializeContract admin usdc 1000 2000,
  .addCategory admin "ops" alice 6000,
  .addCategory admin "dao" bob 4000]

end Sample

open Sample in
/-- A category is removed and comes back with less, and the other one grows. -/
theorem configuration_agrees_cycled :
    ∃ s, run (opened ++ [.removeCategory admin "ops", .reactivateCategory admin "ops" 2500,
        .updateCategory admin "dao" none (some 7500), .setMaxFeeRate admin 500]) = .ok s ∧
      s.totalSharesBps = 10000 ∧ shares s.category = 10000 ∧ s.feeRateBps = some 500 := by
  have h : After (fun s => s.totalSharesBps = 10000 ∧ s.feeRateBps = some 500)
      (run (opened ++ [.removeCategory admin "ops", .reactivateCategory admin "ops" 2500,
        .updateCategory admin "dao" none (some 7500), .setMaxFeeRate admin 500])) := by
    decide +kernel
  obtain ⟨s, hs, htotal, hrate⟩ := h.exists_ok
  have hagree := (configuration_agrees (run_reachable hs)).1
  rw [htotal] at hagree
  exact ⟨s, hs, htotal, hagree.symm, hrate⟩

end FeeDistribution
